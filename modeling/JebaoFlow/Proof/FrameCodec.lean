import JebaoFlow.Lib.Varint
import JebaoFlow.Proof.Framing

/-!
# The language of frames

What `encode_frame` writes, what `decode_frame` accepts and what `read_frame` takes
off a stream are the same strings: the magic, a base-128 length of at most four
bytes, and a body of that length. The buffer decoder and the stream decoder agree on
every string, and the stream decoder reports a closed connection exactly where the
stream ended before it could decide.
-/

namespace JebaoFlow

open Bytes

/-! ## Lengths -/

/-- **A length is read as the number its terminated bytes spell.** -/
theorem varintOf_eq_ok_iff : ∀ {left index value size count : ℕ} {bytes : Bytes},
    varintOf left index value bytes = .ok (size, count)
      ↔ ∃ taken rest, bytes = taken ++ rest ∧ Terminated taken ∧ taken.length ≤ left
        ∧ count = index + taken.length ∧ size = value ||| (base128 taken <<< (7 * index)) := by
  intro left
  induction left with
  | zero =>
      intro index value size count bytes
      refine ⟨fun h => (nomatch h), ?_⟩
      rintro ⟨taken, rest, rfl, hterm, hlen, _⟩
      exact absurd (List.length_eq_zero_iff.mp (Nat.le_zero.mp hlen)) hterm.ne_nil
  | succ left ih =>
      intro index value size count bytes
      cases bytes with
      | nil =>
          refine ⟨fun h => (nomatch h), ?_⟩
          rintro ⟨taken, rest, hnil, hterm, _⟩
          exact absurd (List.append_eq_nil_iff.mp hnil.symm).1 hterm.ne_nil
      | cons byte bytes =>
          rw [varintOf]
          by_cases hlast : byte &&& 0x80 = 0
          -- the last byte of the length
          · have hlt := (and_0x80_eq_zero_iff byte).mp hlast
            rw [if_pos hlast]
            have hgroup := or_base128 value index byte []
            rw [base128, Nat.zero_shiftLeft, Nat.or_zero] at hgroup
            rw [hgroup]
            constructor
            · intro h
              cases h
              exact ⟨[byte], bytes, rfl, hlt, Nat.le_add_left .., rfl, rfl⟩
            · rintro ⟨taken, rest, heq, hterm, _, rfl, rfl⟩
              obtain ⟨rfl, _⟩ := Terminated.prefix_free (a := [byte]) (r := bytes) hlt hterm heq
              rfl
          -- a continuation bit
          · have hge := not_lt.mp (fun h => hlast ((and_0x80_eq_zero_iff byte).mpr h))
            rw [if_neg hlast, ih]
            constructor
            · rintro ⟨taken, rest, rfl, hterm, hlen, rfl, rfl⟩
              refine ⟨byte :: taken, rest, rfl, terminated_cons_iff.mpr (Or.inr ⟨hge, hterm⟩), ?_, ?_,
                or_base128 ..⟩
              · rw [List.length_cons]
                omega
              · rw [List.length_cons]
                omega
            · rintro ⟨taken, rest, heq, hterm, hlen, rfl, rfl⟩
              cases taken with
              | nil => exact absurd hterm id
              | cons first taken =>
                  rw [List.cons_append, List.cons.injEq] at heq
                  obtain ⟨rfl, rfl⟩ := heq
                  rcases terminated_cons_iff.mp hterm with ⟨hlt, _⟩ | ⟨_, hterm⟩
                  · omega
                  · rw [List.length_cons] at hlen ⊢
                    exact ⟨taken, rest, rfl, hterm, by omega, by omega, (or_base128 ..).symm⟩

/-- The bytes of a length spell it. -/
theorem varintBytes_spell : ∀ (rounds value : ℕ), value < 2 ^ (7 * rounds) → 0 < rounds →
    Terminated (varintBytes rounds value) ∧ base128 (varintBytes rounds value) = value
      ∧ (varintBytes rounds value).length ≤ rounds := by
  intro rounds
  induction rounds with
  | zero => exact fun _ _ h => absurd h (Nat.lt_irrefl 0)
  | succ rounds ih =>
      intro value hlt _
      have hlow : value &&& 0x7F = value % 128 := Nat.and_two_pow_sub_one_eq_mod value 7
      have hshift : value >>> 7 = value / 128 := Nat.shiftRight_eq_div_pow value 7
      rw [varintBytes]
      rw [hlow, hshift]
      by_cases hmore : value / 128 ≠ 0
      · have hnext : value / 128 < 2 ^ (7 * rounds) := by
          rw [Nat.div_lt_iff_lt_mul (by decide)]
          calc value < 2 ^ (7 * (rounds + 1)) := hlt
            _ = 2 ^ (7 * rounds) * 128 := by rw [Nat.mul_add, Nat.pow_add]
        have hrounds : 0 < rounds := by
          by_contra hzero
          have : rounds = 0 := by omega
          subst this
          omega
        obtain ⟨hterm, hvalue, hlen⟩ := ih (value / 128) hnext hrounds
        -- the group and its continuation bit do not overlap
        have hbyte : (UInt8.ofNat (value % 128 ||| 0x80)).toNat = value % 128 + 128 := by
          have hor : value % 128 ||| 0x80 = 128 + value % 128 := by
            rw [Nat.or_comm]
            exact (Nat.two_pow_add_eq_or_of_lt (i := 7) (Nat.mod_lt value (by decide)) 1).symm
          rw [hor, UInt8.toNat_ofNat']
          omega
        rw [if_pos hmore]
        refine ⟨terminated_cons_iff.mpr (Or.inr ⟨by omega, hterm⟩), ?_, ?_⟩
        · rw [base128, hbyte, hvalue]
          omega
        · rw [List.length_cons]
          omega
      · have hbyte : (UInt8.ofNat (value % 128)).toNat = value % 128 := by
          rw [UInt8.toNat_ofNat']
          omega
        rw [if_neg hmore]
        refine ⟨?_, ?_, Nat.le_add_left ..⟩
        · show (UInt8.ofNat (value % 128)).toNat < 128
          omega
        · rw [base128, base128, hbyte]
          omega

/-! ## The language -/

/-- The magic, a length of at most four bytes, canonical or padded, and a body that long. -/
structure IsFrame (wire length body : Bytes) (maxBodySize : ℤ) : Prop where
  parts : wire = magic ++ length ++ body
  terminated : Terminated length
  length_le : length.length ≤ maxVarintBytes
  spells : base128 length = body.length
  body_min : minFrameBodySize ≤ body.length
  body_max : (body.length : ℤ) ≤ maxBodySize

/-- The frame of a body: its flag, its command and its payload. -/
def bodyFrame (body : Bytes) : GizwitsFrame where
  command := fromBytesBig (slice body 1 2)
  payload := body.drop 3
  flag := body.getD 0 0

section Language

variable {wire length body rest : Bytes} {maxBodySize : ℤ}

theorem varintOf_terminated (hterm : Terminated length) (hlen : length.length ≤ maxVarintBytes)
    (rest : Bytes) :
    varintOf maxVarintBytes 0 0 (length ++ rest) = .ok (base128 length, length.length) :=
  varintOf_eq_ok_iff.mpr ⟨length, rest, rfl, hterm, hlen, (Nat.zero_add _).symm,
    (Nat.zero_or _).symm⟩

theorem decodeFrame_isFrame (h : IsFrame wire length body maxBodySize) :
    decodeFrame wire maxBodySize = .ok (bodyFrame body) := by
  obtain ⟨rfl, hterm, hlen, hspells, hmin, hmax⟩ := h
  have hprefix : magic.isPrefixOf (magic ++ (length ++ body)) = true :=
    List.isPrefixOf_iff_prefix.mpr (List.prefix_append ..)
  have hbody : slice (magic ++ (length ++ body)) (magic.length + length.length) body.length
      = body := by
    unfold slice
    rw [← List.append_assoc, List.drop_left' List.length_append, List.take_length]
  have htotal : (magic ++ (length ++ body)).length = magic.length + length.length + body.length := by
    rw [List.length_append, List.length_append, Nat.add_assoc]
  rw [List.append_assoc]
  unfold decodeFrame
  rw [if_neg (not_not.mpr hprefix), decodeVarint_eq, varintOf_terminated hterm hlen, hspells]
  dsimp only
  rw [if_neg (not_lt.mpr hmin), if_neg (not_lt.mpr hmax), htotal, if_neg (lt_irrefl _),
    if_neg (lt_irrefl _), hbody]
  rfl

/-- **What `decode_frame` accepts is the language of frames.** -/
theorem decodeFrame_returns_iff : (∃ frame, decodeFrame wire maxBodySize = .ok frame)
    ↔ ∃ length body, IsFrame wire length body maxBodySize := by
  constructor
  · rintro ⟨frame, h⟩
    obtain ⟨length, body, hwire⟩ := decodeFrame_ok h
    obtain ⟨taken, rest, heq, hterm, hlen, hcount, hsize⟩ :=
      varintOf_eq_ok_iff.mp ((decodeVarint_eq [] length).symm.trans hwire.varint)
    -- the length takes all of its bytes
    have hrest : rest = [] := by
      have htotal := congrArg List.length heq
      rw [List.length_append] at htotal
      exact List.length_eq_zero_iff.mp (by omega)
    rw [hrest, List.append_nil] at heq
    subst heq
    rw [Nat.mul_zero, Nat.shiftLeft_zero, Nat.zero_or] at hsize
    exact ⟨length, body, hwire.parts, hterm, hlen, hsize.symm, hwire.body_min, hwire.body_max⟩
  · rintro ⟨length, body, h⟩
    exact ⟨_, decodeFrame_isFrame h⟩

end Language

/-! ## Writing frames -/

theorem encodeVarint_returns_iff {value : ℕ} :
    (∃ length, encodeVarint value = .ok length) ↔ value < 2 ^ 28 := by
  have hlimit : ((1 <<< (7 * maxVarintBytes) : ℕ) : ℤ) = 2 ^ 28 := by decide
  unfold encodeVarint
  rw [if_neg (by omega), hlimit]
  constructor
  · rintro ⟨length, h⟩
    split at h
    · cases h
    · omega
  · intro h
    rw [if_neg (by omega)]
    exact ⟨_, rfl⟩

theorem encodeVarint_ok {value : ℕ} {length : Bytes} (h : encodeVarint value = .ok length) :
    Terminated length ∧ base128 length = value ∧ length.length ≤ maxVarintBytes := by
  have hlt := encodeVarint_returns_iff.mp ⟨length, h⟩
  unfold encodeVarint at h
  split at h
  · cases h
  · split at h
    · cases h
    · cases h
      rw [Int.toNat_natCast]
      exact varintBytes_spell maxVarintBytes value hlt (by decide)

/-- The header of a body. -/
theorem body_length (flag : UInt8) {packed : Bytes} (payload : Bytes) (h : packed.length = 2) :
    (flag :: packed ++ payload).length = 3 + payload.length := by
  rw [List.length_append, List.length_cons, h]

/-- The bounds `encode_frame` checks. -/
structure Encodable (command : ℤ) (payload : Bytes) (flag maxBodySize : ℤ) : Prop where
  command : 0 ≤ command ∧ command ≤ 0xFFFF
  flag : 0 ≤ flag ∧ flag ≤ 0xFF
  body_max : (3 + payload.length : ℤ) ≤ maxBodySize
  body_size : 3 + payload.length < 2 ^ 28

section Encode

variable {command flag maxBodySize : ℤ} {payload wire : Bytes}

theorem encodeFrame_returns (h : Encodable command payload flag maxBodySize) :
    ∃ wire length packed, encodeFrame command payload flag maxBodySize = .ok wire
      ∧ toBytesBig 2 command.toNat = .ok packed
      ∧ IsFrame wire length (UInt8.ofNat flag.toNat :: packed ++ payload) maxBodySize := by
  obtain ⟨hcommand, hflag, hmax, hsize⟩ := h
  obtain ⟨packed, hpacked⟩ := toBytesBig_ok_iff.mpr
    (show command.toNat < 256 ^ 2 by omega)
  have hbody := body_length (UInt8.ofNat flag.toNat) payload (toBytesBig_length hpacked)
  obtain ⟨length, hlength⟩ := encodeVarint_returns_iff.mpr hsize
  obtain ⟨hterm, hspells, hlen⟩ := encodeVarint_ok hlength
  refine ⟨_, length, packed, ?_, hpacked, rfl, hterm, hlen, hspells.trans hbody.symm, ?_, ?_⟩
  · unfold encodeFrame
    rw [if_neg (not_not.mpr hcommand), if_neg (not_not.mpr hflag), hpacked]
    dsimp only
    rw [hbody, if_neg (by push_cast; omega), hlength]
  · rw [hbody]
    exact Nat.le_add_right ..
  · rw [hbody]
    push_cast
    exact hmax

theorem encodeFrame_returns_iff :
    (∃ wire, encodeFrame command payload flag maxBodySize = .ok wire)
      ↔ Encodable command payload flag maxBodySize := by
  refine ⟨?_, fun h => ?_⟩
  · rintro ⟨wire, h⟩
    unfold encodeFrame at h
    split at h
    · cases h
    rename_i hcommand
    split at h
    · cases h
    rename_i hflag
    split at h
    · cases h
    rename_i packed hpacked
    have hbody := body_length (UInt8.ofNat flag.toNat) payload (toBytesBig_length hpacked)
    dsimp only at h
    rw [hbody] at h
    split at h
    · cases h
    rename_i hmax
    split at h
    · cases h
    rename_i length hlength
    refine ⟨not_not.mp hcommand, not_not.mp hflag, by push_cast at hmax; omega, ?_⟩
    exact encodeVarint_returns_iff.mp ⟨length, hlength⟩
  · obtain ⟨wire, _, _, hwire, _⟩ := encodeFrame_returns h
    exact ⟨wire, hwire⟩

/-- **A frame that was encoded decodes to its command, flag and payload.** -/
theorem decodeFrame_encodeFrame (h : encodeFrame command payload flag maxBodySize = .ok wire) :
    ∃ frame, decodeFrame wire maxBodySize = .ok frame ∧ (frame.command : ℤ) = command
      ∧ (frame.flag.toNat : ℤ) = flag ∧ frame.payload = payload := by
  have hencodable := encodeFrame_returns_iff.mp ⟨wire, h⟩
  obtain ⟨wire', length, packed, hwire, hpacked, hframe⟩ := encodeFrame_returns hencodable
  rw [h] at hwire
  cases hwire
  have hlen := toBytesBig_length hpacked
  have hflag := hencodable.flag
  refine ⟨_, decodeFrame_isFrame hframe, ?_, ?_, ?_⟩
  · have hslice : slice (UInt8.ofNat flag.toNat :: packed ++ payload) 1 2 = packed := by
      show (packed ++ payload).take 2 = packed
      exact List.take_left' hlen
    show (fromBytesBig (slice (UInt8.ofNat flag.toNat :: packed ++ payload) 1 2) : ℤ) = command
    rw [hslice, fromBytesBig_toBytesBig hpacked]
    exact Int.toNat_of_nonneg hencodable.command.1
  · show ((UInt8.ofNat flag.toNat).toNat : ℤ) = flag
    rw [UInt8.toNat_ofNat']
    omega
  · show (packed ++ payload).drop 2 = payload
    exact List.drop_left' hlen

end Encode

/-- `encode_frame` of a frame. -/
def GizwitsFrame.encode (frame : GizwitsFrame) (maxBodySize : ℤ) : Except ProtocolError Bytes :=
  encodeFrame frame.command frame.payload frame.flag.toNat maxBodySize

theorem GizwitsFrame.decode_encode {frame : GizwitsFrame} {maxBodySize : ℤ} {wire : Bytes}
    (h : frame.encode maxBodySize = .ok wire) : decodeFrame wire maxBodySize = .ok frame := by
  obtain ⟨⟨command, payload, flag⟩, hdecode, hcommand, hflag, hpayload⟩ := decodeFrame_encodeFrame h
  rw [hdecode]
  congr 1
  have hcommand := Int.ofNat.inj hcommand
  have hflag := UInt8.toNat_inj.mp (Int.ofNat.inj hflag)
  dsimp only at hcommand hflag hpayload
  rw [hcommand, hflag, hpayload]

/-- **Encoded frames are read back in order, whatever follows them.** -/
theorem readFrames_encode {maxBodySize : ℤ} : ∀ {frames : List GizwitsFrame} {wires : List Bytes},
    frames.mapM (fun frame => frame.encode maxBodySize) = .ok wires → ∀ rest eof,
      readFrames maxBodySize frames.length ⟨wires.flatten ++ rest, eof⟩
        = (.ok frames, ⟨rest, eof⟩) := by
  intro frames
  induction frames with
  | nil =>
      intro wires h rest eof
      cases h
      rfl
  | cons frame frames ih =>
      intro wires h rest eof
      rw [List.mapM_cons] at h
      cases hwire : frame.encode maxBodySize with
      | error e =>
          rw [hwire] at h
          cases h
      | ok wire =>
          rw [hwire] at h
          cases hwires : frames.mapM (fun frame => frame.encode maxBodySize) with
          | error e =>
              have herr : (Except.error e : Except ProtocolError (List Bytes)) = .ok wires := by
                rw [hwires] at h
                exact h
              cases herr
          | ok later =>
              have hall : (Except.ok (wire :: later) : Except ProtocolError (List Bytes))
                  = .ok wires := by
                rw [hwires] at h
                exact h
              cases hall
              have hread := readFrame_wire (GizwitsFrame.decode_encode hwire) (later.flatten ++ rest) eof
              rw [List.length_cons, readFrames, List.flatten_cons, List.append_assoc, hread]
              dsimp only
              rw [ih hwires rest eof]

/--
**The frame codec round trips.**

`encode_frame` succeeds exactly within its bounds; what it returns decodes to the
same command, flag and payload; and the concatenated encodings of any list of
frames are read back frame by frame, leaving exactly what follows them.
-/
theorem frame_codec_round_trip (maxBodySize : ℤ) :
    (∀ command payload flag, (∃ wire, encodeFrame command payload flag maxBodySize = .ok wire)
        ↔ (0 ≤ command ∧ command ≤ 0xFFFF) ∧ (0 ≤ flag ∧ flag ≤ 0xFF)
          ∧ (3 + payload.length : ℤ) ≤ maxBodySize ∧ 3 + payload.length < 2 ^ 28)
      ∧ (∀ command payload flag wire, encodeFrame command payload flag maxBodySize = .ok wire →
          ∃ frame, decodeFrame wire maxBodySize = .ok frame ∧ (frame.command : ℤ) = command
            ∧ (frame.flag.toNat : ℤ) = flag ∧ frame.payload = payload)
      ∧ ∀ (frames : List GizwitsFrame) wires rest eof,
          frames.mapM (fun frame => frame.encode maxBodySize) = .ok wires →
          readFrames maxBodySize frames.length ⟨wires.flatten ++ rest, eof⟩
            = (.ok frames, ⟨rest, eof⟩) := by
  refine ⟨fun command payload flag => ?_, fun _ _ _ _ => decodeFrame_encodeFrame,
    fun _ _ rest eof h => readFrames_encode h rest eof⟩
  refine encodeFrame_returns_iff.trans ⟨?_, ?_⟩
  · rintro ⟨hcommand, hflag, hmax, hsize⟩
    exact ⟨hcommand, hflag, hmax, hsize⟩
  · rintro ⟨hcommand, hflag, hmax, hsize⟩
    exact ⟨hcommand, hflag, hmax, hsize⟩

/-- A passcode, a status whose length takes two bytes, and a heartbeat. -/
def replyFrames : List GizwitsFrame :=
  [{ command := 0x07, payload := [0, 2, 0x41, 0x42] },
    { command := 0x91, payload := List.replicate 130 7, flag := 1 }, { command := 0x16 }]

/-- The status on the wire. -/
def statusWire : Bytes := [0, 0, 0, 3, 0x85, 0x01, 1, 0, 0x91] ++ List.replicate 130 7

theorem frame_codec_round_trip_replies :
    (∃ frame, decodeFrame statusWire 1024 = .ok frame ∧ (frame.command : ℤ) = 0x91
        ∧ (frame.flag.toNat : ℤ) = 1 ∧ frame.payload = List.replicate 130 7)
      ∧ readFrames 1024 3 ⟨[[0, 0, 0, 3, 7, 0, 0, 0x07, 0, 2, 0x41, 0x42], statusWire,
          [0, 0, 0, 3, 3, 0, 0, 0x16]].flatten ++ [0xFF], false⟩
        = (.ok replyFrames, ⟨[0xFF], false⟩) :=
  ⟨(frame_codec_round_trip 1024).2.1 0x91 (List.replicate 130 7) 1 statusWire (by decide +kernel),
    (frame_codec_round_trip 1024).2.2 replyFrames _ [0xFF] false (by decide +kernel)⟩

end JebaoFlow
