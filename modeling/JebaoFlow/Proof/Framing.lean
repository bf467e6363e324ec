import Mathlib.Tactic.IntervalCases
import JebaoFlow.Protocol.Codec

/-!
# Reading frames off a stream

A read that succeeds takes the bytes of one frame off the front of the stream and
leaves the rest alone: `readFrame_ok` says which bytes, `readFrame_wire` that the
same bytes read as the same frame in front of anything.
-/

namespace JebaoFlow

open Bytes

variable {reader reader' : StreamReader}

/-! ## Exact reads -/

theorem readExactly_append (bytes : Bytes) {count : ℕ} (h : bytes.length = count) (rest : Bytes)
    (eof : Bool) : StreamReader.readExactly count ⟨bytes ++ rest, eof⟩ = (.ok bytes, ⟨rest, eof⟩) := by
  unfold StreamReader.readExactly
  have hle : count ≤ (bytes ++ rest).length := by
    rw [List.length_append]
    omega
  simp only [if_pos hle, List.take_left' h, List.drop_left' h]

theorem readExactly_ok {count : ℕ} {bytes : Bytes}
    (h : reader.readExactly count = (.ok bytes, reader')) :
    reader.buffer = bytes ++ reader'.buffer ∧ reader'.eof = reader.eof := by
  unfold StreamReader.readExactly at h
  split at h
  · cases h
    exact ⟨(List.take_append_drop count reader.buffer).symm, rfl⟩
  · split at h <;> cases h

/-! ## Lengths -/

/-- `varint_loop` on the bytes that are left. -/
def varintOf : ℕ → ℕ → ℕ → Bytes → Except ProtocolError (ℕ × ℕ)
  | 0, _, _, _ => .error (.decode "frame length varint exceeds four bytes")
  | _ + 1, _, _, [] => .error (.incompleteFrame "incomplete frame length varint")
  | left + 1, index, value, byte :: bytes =>
      let value := value ||| ((byte &&& 0x7F).toNat <<< (7 * index))
      if byte &&& 0x80 = 0 then .ok (value, index + 1)
      else varintOf left (index + 1) value bytes

theorem varintLoop_eq (data : Bytes) (offset : ℕ) : ∀ (left index value : ℕ),
    varintLoop data offset left index value
      = varintOf left index value (data.drop (offset + index)) := by
  intro left
  induction left with
  | zero => exact fun _ _ => rfl
  | succ left ih =>
      intro index value
      rw [varintLoop]
      cases hget : data[offset + index]? with
      | none =>
          rw [List.drop_eq_nil_of_le (List.getElem?_eq_none_iff.mp hget)]
          rfl
      | some byte =>
          obtain ⟨hlt, rfl⟩ := List.getElem?_eq_some_iff.mp hget
          rw [List.drop_eq_getElem_cons hlt, varintOf]
          dsimp only
          rw [ih]
          rfl

/-- The length of a frame is decoded behind its magic, the one read off a stream on its own. -/
theorem decodeVarint_eq (front data : Bytes) :
    decodeVarint (front ++ data) front.length = varintOf maxVarintBytes 0 0 data := by
  show varintLoop (front ++ data) front.length maxVarintBytes 0 0 = _
  rw [varintLoop_eq, Nat.add_zero, List.drop_left]

/-- A length takes the same bytes, decoded from a buffer or read from a stream. -/
theorem varintOf_ok : ∀ {left index value size count : ℕ} {bytes : Bytes},
    varintOf left index value bytes = .ok (size, count) → ∃ taken rest, bytes = taken ++ rest
      ∧ taken.length + index = count ∧ index < count ∧ count ≤ index + left
      ∧ (∀ rest, varintOf left index value (taken ++ rest) = .ok (size, count))
      ∧ ∀ encoded rest eof, readLength left encoded ⟨taken ++ rest, eof⟩
          = (.ok (encoded ++ taken), ⟨rest, eof⟩) := by
  intro left
  induction left with
  | zero => exact fun h => nomatch h
  | succ left ih =>
      intro index value size count bytes h
      cases bytes with
      | nil => cases h
      | cons byte bytes =>
          have hread : ∀ rest eof, StreamReader.readExactly 1 ⟨byte :: rest, eof⟩
              = (.ok [byte], ⟨rest, eof⟩) := 
            fun rest eof => readExactly_append [byte] rfl rest eof
          rw [varintOf] at h
          split at h
          -- the last byte of the length
          · rename_i hlast
            cases h
            refine ⟨[byte], bytes, rfl, Nat.add_comm .., by omega, by omega, fun rest => ?_,
              fun encoded rest eof => ?_⟩
            · exact if_pos hlast
            · rw [readLength, readLengthFrom, readLengthFrom_readExactly, List.singleton_append, hread]
              exact if_pos hlast
          -- a continuation bit, and the rest of the length behind it
          · rename_i hmore
            obtain ⟨taken, rest, rfl, hcount, hlow, hhigh, hvarint, hlength⟩ := ih h
            refine ⟨byte :: taken, rest, rfl, ?_, by omega, by omega, fun rest => ?_,
              fun encoded rest eof => ?_⟩
            · rw [List.length_cons]
              omega
            · exact (if_neg hmore).trans (hvarint rest)
            · rw [readLength, readLengthFrom, readLengthFrom_readExactly, List.cons_append, hread]
              refine (if_neg hmore).trans ?_
              rw [hlength, List.append_assoc, List.singleton_append]

theorem readLength_ok : ∀ {left : ℕ} {encoded encoded' : Bytes} {reader reader' : StreamReader},
    readLength left encoded reader = (.ok encoded', reader') → ∃ taken,
      encoded' = encoded ++ taken ∧ reader.buffer = taken ++ reader'.buffer
        ∧ reader'.eof = reader.eof := by
  intro left
  induction left with
  | zero => exact fun h => nomatch h
  | succ left ih =>
      intro encoded encoded' reader reader' h
      rw [readLength, readLengthFrom, readLengthFrom_readExactly] at h
      split at h
      · cases h
      · rename_i byte next hbyte
        obtain ⟨hbuffer, heof⟩ := readExactly_ok hbyte
        dsimp only at h
        split at h
        · cases h
          exact ⟨byte, rfl, hbuffer, heof⟩
        · obtain ⟨taken, hencoded, hrest, heof'⟩ := ih h
          refine ⟨byte ++ taken, ?_, ?_, heof'.trans heof⟩
          · rw [hencoded, List.append_assoc]
          · rw [hbuffer, hrest, List.append_assoc]

/-! ## Frames -/

/-- The parts of a frame: the magic, a length of at most four bytes, and a body of that length. -/
structure IsWire (wire length body : Bytes) (frame : GizwitsFrame) (maxBodySize : ℤ) : Prop where
  parts : wire = magic ++ length ++ body
  length_range : 1 ≤ length.length ∧ length.length ≤ maxVarintBytes
  body_min : minFrameBodySize ≤ body.length
  body_max : (body.length : ℤ) ≤ maxBodySize
  varint : decodeVarint length = .ok (body.length, length.length)
  read : ∀ rest eof, readLength maxVarintBytes [] ⟨length ++ rest, eof⟩ = (.ok length, ⟨rest, eof⟩)
  payload : frame.payload.length + minFrameBodySize = body.length

theorem decodeFrame_ok {wire : Bytes} {maxBodySize : ℤ} {frame : GizwitsFrame}
    (h : decodeFrame wire maxBodySize = .ok frame) :
    ∃ length body, IsWire wire length body frame maxBodySize := by
  unfold decodeFrame at h
  split at h
  · cases h
  -- the checks in the order of the source, the magic first
  rename_i hprefix
  obtain ⟨data, rfl⟩ := List.isPrefixOf_iff_prefix.mp (not_not.mp hprefix)
  rw [decodeVarint_eq] at h
  split at h
  · cases h
  rename_i bodySize varintSize hvarint
  obtain ⟨length, rest, rfl, hcount, hlow, hhigh, hagain, hread⟩ := varintOf_ok hvarint
  rw [Nat.add_zero] at hcount
  rw [Nat.zero_add] at hhigh
  split at h
  · cases h
  rename_i hmin
  split at h
  · cases h
  rename_i hmax
  dsimp only at h
  have hlen : (magic ++ (length ++ rest)).length = magic.length + varintSize + rest.length := by
    rw [List.length_append, List.length_append, hcount, Nat.add_assoc]
  split at h
  · cases h
  rename_i hshort
  split at h
  · cases h
  rename_i hlong
  -- neither too short nor trailing: the body is all that is left
  have hsize : rest.length = bodySize := by omega
  have hbody : slice (magic ++ (length ++ rest)) (magic.length + varintSize) bodySize = rest := by
    unfold slice
    rw [← List.append_assoc, List.drop_left' (by rw [List.length_append, hcount]), ← hsize,
      List.take_length]
  rw [hbody] at h
  cases h
  refine ⟨length, rest, by rw [List.append_assoc], ⟨by omega, by omega⟩, by omega, by omega, ?_,
    fun rest eof => hread [] rest eof, ?_⟩
  · have hnil := hagain []
    rw [List.append_nil] at hnil
    rw [hsize, hcount]
    exact (decodeVarint_eq [] length).trans hnil
  · show (rest.drop 3).length + minFrameBodySize = rest.length
    rw [List.length_drop]
    unfold minFrameBodySize at hmin ⊢
    omega

/-- **The bytes of a frame read as that frame in front of anything.** -/
theorem readFrame_wire {wire : Bytes} {maxBodySize : ℤ} {frame : GizwitsFrame}
    (h : decodeFrame wire maxBodySize = .ok frame) (rest : Bytes) (eof : Bool) :
    readFrame ⟨wire ++ rest, eof⟩ maxBodySize = (.ok frame, ⟨rest, eof⟩) := by
  obtain ⟨length, body, hwire⟩ := decodeFrame_ok h
  have hparts : wire ++ rest = magic ++ (length ++ (body ++ rest)) := by
    rw [hwire.parts, List.append_assoc, List.append_assoc]
  unfold readFrame readFrameFrom
  rw [readLengthFrom_readExactly]
  rw [hparts, readExactly_append magic rfl]
  dsimp only
  rw [if_neg (not_not.mpr rfl), hwire.read]
  dsimp only
  rw [hwire.varint]
  dsimp only
  rw [if_neg (not_lt.mpr hwire.body_min), if_neg (not_lt.mpr hwire.body_max),
    readExactly_append body rfl]
  dsimp only
  rw [← hwire.parts, h]

/-- **A frame read off a stream is the frame of the bytes taken.** -/
theorem readFrame_ok {maxBodySize : ℤ} {frame : GizwitsFrame}
    (h : readFrame reader maxBodySize = (.ok frame, reader')) :
    ∃ wire, decodeFrame wire maxBodySize = .ok frame ∧ reader.buffer = wire ++ reader'.buffer
      ∧ reader'.eof = reader.eof := by
  unfold readFrame readFrameFrom at h
  rw [readLengthFrom_readExactly] at h
  split at h
  · cases h
  rename_i start reader₁ hstart
  obtain ⟨hbuffer₁, heof₁⟩ := readExactly_ok hstart
  split at h
  · cases h
  split at h
  · cases h
  rename_i encodedLength reader₂ hlength
  obtain ⟨taken, htaken, hbuffer₂, heof₂⟩ := readLength_ok hlength
  rw [List.nil_append] at htaken
  subst htaken
  split at h
  · cases h
  split at h
  · cases h
  split at h
  · cases h
  split at h
  · cases h
  -- the checks on the length take nothing off the stream
  rename_i body reader₃ hbody
  obtain ⟨hbuffer₃, heof₃⟩ := readExactly_ok hbody
  split at h
  · cases h
  rename_i frame' hdecode
  cases h
  refine ⟨start ++ encodedLength ++ body, hdecode, ?_, heof₃.trans (heof₂.trans heof₁)⟩
  rw [hbuffer₁, hbuffer₂, hbuffer₃, List.append_assoc, List.append_assoc]

/-- More bytes behind a frame do not change it. -/
theorem readFrame_append {maxBodySize : ℤ} {frame : GizwitsFrame}
    (h : readFrame reader maxBodySize = (.ok frame, reader')) (more : Bytes) :
    readFrame ⟨reader.buffer ++ more, reader.eof⟩ maxBodySize
      = (.ok frame, ⟨reader'.buffer ++ more, reader.eof⟩) := by
  obtain ⟨wire, hdecode, hbuffer, _⟩ := readFrame_ok h
  rw [hbuffer, List.append_assoc]
  exact readFrame_wire hdecode _ _

/-- The magic does not overlap itself. -/
theorem magic_apart {front front' rest rest' : Bytes}
    (h : front ++ (magic ++ rest) = front' ++ (magic ++ rest'))
    (hlt : front.length < front'.length) : front.length + 4 ≤ front'.length := by
  by_contra hclose
  -- the last byte of the earlier magic would be one of the zeros of the later one
  have hlast : (front ++ (magic ++ rest))[front.length + 3]? = some 3 := by
    rw [List.getElem?_append_right (by omega), Nat.add_sub_cancel_left]
    rfl
  have hzero : (front' ++ (magic ++ rest'))[front.length + 3]? = some 0 := by
    rw [List.getElem?_append_right (by omega)]
    have hpos : front.length + 3 - front'.length < 3 := by omega
    interval_cases front.length + 3 - front'.length <;> rfl
  rw [h, hzero] at hlast
  cases hlast

/--
Two readings of one frame that end together start together: lengths of different
size move the start by at most three bytes, and the magic does not overlap itself.
-/
theorem wire_length_unique {wire wire' front front' : Bytes} {maxBodySize : ℤ}
    {frame : GizwitsFrame} (h : decodeFrame wire maxBodySize = .ok frame)
    (h' : decodeFrame wire' maxBodySize = .ok frame) (hends : front ++ wire = front' ++ wire') :
    wire.length = wire'.length := by
  obtain ⟨length, body, hwire⟩ := decodeFrame_ok h
  obtain ⟨length', body', hwire'⟩ := decodeFrame_ok h'
  have hbodies : body.length = body'.length := hwire.payload.symm.trans hwire'.payload
  have hsizes : wire.length = magic.length + length.length + body.length
      ∧ wire'.length = magic.length + length'.length + body'.length := by
    rw [hwire.parts, hwire'.parts]
    simp only [List.length_append, and_self]
  have htotal := congrArg List.length hends
  rw [List.length_append, List.length_append] at htotal
  have hrange := hwire.length_range
  have hrange' := hwire'.length_range
  unfold maxVarintBytes at hrange hrange'
  rw [hwire.parts, hwire'.parts, List.append_assoc, List.append_assoc] at hends
  rcases lt_trichotomy front.length front'.length with hlt | heq | hgt
  · have := magic_apart hends hlt
    omega
  · omega
  · have := magic_apart hends.symm hgt
    omega

end JebaoFlow
