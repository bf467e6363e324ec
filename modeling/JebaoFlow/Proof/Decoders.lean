import JebaoFlow.Proof.FrameCodec

/-!
# Two decoders of one language

`decode_frame` looks at a whole buffer, `read_frame` takes bytes off a stream as
they arrive. On every string, however it is cut into pieces, they accept the same
frames and consume the same bytes; where the stream decoder fails it raises an error
of the protocol, and the error of a closed connection exactly where more bytes could
still have been asked for.
-/

namespace JebaoFlow

open Bytes

variable {maxBodySize : ℤ} {s : Bytes}

/-! ## Strings that end too early -/

/-- The string ends before the decoder has its magic, its length or its body. -/
inductive Unfinished (maxBodySize : ℤ) : Bytes → Prop where
  | magic {s : Bytes} (hshort : s.length < magic.length) : Unfinished maxBodySize s
  | length {rest : Bytes} (hshort : rest.length < maxVarintBytes)
      (hmore : ∀ b ∈ rest, 128 ≤ b.toNat) : Unfinished maxBodySize (magic ++ rest)
  | body {length body : Bytes} (hterm : Terminated length) (hlen : length.length ≤ maxVarintBytes)
      (hmin : minFrameBodySize ≤ base128 length) (hmax : (base128 length : ℤ) ≤ maxBodySize)
      (hshort : body.length < base128 length) : Unfinished maxBodySize (magic ++ (length ++ body))

/-- Behind a whole magic it is the length or the body that is cut. -/
theorem unfinished_magic_iff {rest : Bytes} : Unfinished maxBodySize (magic ++ rest)
    ↔ (rest.length < maxVarintBytes ∧ ∀ b ∈ rest, 128 ≤ b.toNat)
      ∨ ∃ length body, rest = length ++ body ∧ Terminated length
        ∧ length.length ≤ maxVarintBytes ∧ minFrameBodySize ≤ base128 length
        ∧ (base128 length : ℤ) ≤ maxBodySize ∧ body.length < base128 length := by
  constructor
  · intro h
    generalize heq : magic ++ rest = whole at h
    cases h with
    | magic hshort =>
        rw [← heq, List.length_append] at hshort
        omega
    | length hshort hmore =>
        obtain rfl := List.append_cancel_left heq
        exact Or.inl ⟨hshort, hmore⟩
    | body hterm hlen hmin hmax hshort =>
        exact Or.inr ⟨_, _, List.append_cancel_left heq, hterm, hlen, hmin, hmax, hshort⟩
  · rintro (⟨hshort, hmore⟩ | ⟨length, body, rfl, hterm, hlen, hmin, hmax, hshort⟩)
    · exact .length hshort hmore
    · exact .body hterm hlen hmin hmax hshort

/-- A whole length settles whether the body is cut. -/
theorem unfinished_length_iff {length body : Bytes} (hterm : Terminated length)
    (hlen : length.length ≤ maxVarintBytes) : Unfinished maxBodySize (magic ++ (length ++ body))
      ↔ minFrameBodySize ≤ base128 length ∧ (base128 length : ℤ) ≤ maxBodySize
        ∧ body.length < base128 length := by
  rw [unfinished_magic_iff]
  constructor
  · rintro (⟨_, hmore⟩ | ⟨length', body', heq, hterm', _, hmin, hmax, hshort⟩)
    · obtain ⟨b, hb, hlt⟩ := hterm.not_continues
      exact absurd (hmore b (List.mem_append_left _ hb)) (not_le.mpr hlt)
    · obtain ⟨rfl, rfl⟩ := hterm.prefix_free hterm' heq
      exact ⟨hmin, hmax, hshort⟩
  · rintro ⟨hmin, hmax, hshort⟩
    exact Or.inr ⟨length, body, rfl, hterm, hlen, hmin, hmax, hshort⟩

/-! ## How a read of a length ends -/

/-- How a read ends that asks for more than there is. -/
def atEnd (eof : Bool) : ReadStop :=
  if eof then .raised (.connection "connection closed while reading a frame") else .waiting

theorem readExactly_short {count : ℕ} {bytes : Bytes} (h : bytes.length < count) (eof : Bool) :
    ∃ reader, StreamReader.readExactly count ⟨bytes, eof⟩ = (.error (atEnd eof), reader) := by
  unfold StreamReader.readExactly atEnd
  rw [if_neg (not_le.mpr h)]
  cases eof
  · exact ⟨_, rfl⟩
  · exact ⟨_, rfl⟩

theorem readLength_terminated {left : ℕ} {length : Bytes} (hterm : Terminated length)
    (hlen : length.length ≤ left) (rest : Bytes) (eof : Bool) :
    readLength left [] ⟨length ++ rest, eof⟩ = (.ok length, ⟨rest, eof⟩) := by
  have hvarint : varintOf left 0 0 length = .ok (0 ||| base128 length <<< (7 * 0), 0 + length.length) :=
    varintOf_eq_ok_iff.mpr ⟨length, [], (List.append_nil _).symm, hterm, hlen, rfl, rfl⟩
  obtain ⟨taken, rest', heq, hcount, _, _, _, hread⟩ := varintOf_ok hvarint
  -- it takes as many bytes as the length has
  have htaken : taken = length := by
    have htotal := congrArg List.length heq
    rw [List.length_append] at htotal
    have hnil : rest' = [] := List.length_eq_zero_iff.mp (by omega)
    rw [heq, hnil, List.append_nil]
  rw [htaken] at hread
  exact hread [] rest eof

/-- Bytes that all continue are too many, or too few. -/
theorem readLength_continues : ∀ {left : ℕ} {bytes encoded : Bytes} {eof : Bool},
    (∀ b ∈ bytes, 128 ≤ b.toNat) →
    (bytes.length < left →
        ∃ reader, readLength left encoded ⟨bytes, eof⟩ = (.error (atEnd eof), reader))
      ∧ (bytes.length = left → ∀ rest, ∃ reader, readLength left encoded ⟨bytes ++ rest, eof⟩
        = (.error (.raised (.decode "frame length varint exceeds four bytes")), reader)) := by
  intro left
  induction left with
  | zero =>
      intro bytes encoded eof _
      refine ⟨fun h => absurd h (Nat.not_lt_zero _), fun h rest => ?_⟩
      rw [List.length_eq_zero_iff.mp h]
      exact ⟨_, rfl⟩
  | succ left ih =>
      intro bytes encoded eof hall
      cases bytes with
      | nil =>
          refine ⟨fun _ => ?_, fun h => absurd h (Nat.succ_ne_zero left).symm⟩
          obtain ⟨reader, hread⟩ := @readExactly_short 1 [] Nat.zero_lt_one eof
          rw [readLength, readLengthFrom, readLengthFrom_readExactly, hread]
          exact ⟨reader, rfl⟩
      | cons byte bytes =>
          have hge := hall byte (List.mem_cons_self ..)
          have hmore : ¬ byte &&& 0x80 = 0 := fun h =>
            absurd ((and_0x80_eq_zero_iff byte).mp h) (not_lt.mpr hge)
          have hstep : ∀ rest, readLength (left + 1) encoded ⟨byte :: rest, eof⟩
              = readLength left (encoded ++ [byte]) ⟨rest, eof⟩ := by
            intro rest
            have hread : StreamReader.readExactly 1 ⟨byte :: rest, eof⟩ = (.ok [byte], ⟨rest, eof⟩) :=
              readExactly_append [byte] rfl rest eof
            rw [readLength, readLengthFrom, readLengthFrom_readExactly, hread]
            exact if_neg hmore
          obtain ⟨hshort, hlong⟩ := @ih bytes (encoded ++ [byte]) eof
            (fun b hb => hall b (List.mem_cons_of_mem _ hb))
          rw [List.length_cons]
          refine ⟨fun h => ?_, fun h rest => ?_⟩
          · rw [hstep]
            exact hshort (by omega)
          · rw [List.cons_append, hstep]
            exact hlong (by omega) rest

/-! ## How a read of a frame ends -/

/-- The errors of a string that has been read far enough to be refused. -/
def ProtocolError.refuses : ProtocolError → Bool
  | .decode _ | .frameTooLarge _ => true
  | _ => false

/-- The ways a read off a stream can go. -/
inductive FrameRead (maxBodySize : ℤ) (s : Bytes) (eof : Bool) :
    Except ReadStop GizwitsFrame × StreamReader → Prop where
  | frame {wire length body rest : Bytes} (hs : s = wire ++ rest)
      (hframe : IsFrame wire length body maxBodySize) :
      FrameRead maxBodySize s eof (.ok (bodyFrame body), ⟨rest, eof⟩)
  | unfinished {reader : StreamReader} (hshort : Unfinished maxBodySize s) :
      FrameRead maxBodySize s eof (.error (atEnd eof), reader)
  | refused {e : ProtocolError} {reader : StreamReader} (hend : ¬ Unfinished maxBodySize s)
      (he : e.refuses = true) : FrameRead maxBodySize s eof (.error (.raised e), reader)

/-- What a read does once it has its length. -/
theorem readFrame_length {length body : Bytes} {eof : Bool} (hterm : Terminated length)
    (hlen : length.length ≤ maxVarintBytes) :
    FrameRead maxBodySize (magic ++ (length ++ body)) eof
      (readFrame ⟨magic ++ (length ++ body), eof⟩ maxBodySize) := by
  have hvarint : decodeVarint length = .ok (base128 length, length.length) := by
    have hdecode := (decodeVarint_eq [] length).trans (List.append_nil length ▸
      varintOf_terminated hterm hlen [])
    exact hdecode
  have hunfinished := @unfinished_length_iff maxBodySize length body hterm hlen
  unfold readFrame readFrameFrom
  rw [readLengthFrom_readExactly]
  rw [readExactly_append magic rfl]
  dsimp only
  rw [if_neg (not_not.mpr rfl), readLength_terminated hterm hlen]
  dsimp only
  rw [hvarint]
  dsimp only
  split
  · rename_i hmin
    exact .refused (fun h => absurd (hunfinished.mp h).1 (not_le.mpr hmin)) rfl
  rename_i hmin
  split
  · rename_i hmax
    exact .refused (fun h => absurd (hunfinished.mp h).2.1 (not_le.mpr hmax)) rfl
  rename_i hmax
  rcases lt_or_ge body.length (base128 length) with hshort | hfits
  -- the body is cut
  · obtain ⟨reader, hread⟩ := readExactly_short hshort eof
    rw [hread]
    exact .unfinished (hunfinished.mpr ⟨not_lt.mp hmin, not_lt.mp hmax, hshort⟩)
  -- the body is complete, and the buffer decoder accepts the frame
  · have htake : (body.take (base128 length)).length = base128 length :=
      List.length_take_of_le hfits
    have hframe : IsFrame (magic ++ length ++ body.take (base128 length)) length
        (body.take (base128 length)) maxBodySize :=
      ⟨rfl, hterm, hlen, htake.symm, htake.symm ▸ not_lt.mp hmin, by
        rw [htake]
        exact not_lt.mp hmax⟩
    have hread : StreamReader.readExactly (base128 length) ⟨body, eof⟩
        = (.ok (body.take (base128 length)), ⟨body.drop (base128 length), eof⟩) := if_pos hfits
    rw [hread]
    dsimp only
    rw [decodeFrame_isFrame hframe]
    refine .frame ?_ hframe
    rw [List.append_assoc, List.append_assoc, List.take_append_drop]

/-- A read that stops in the length stops there. -/
theorem readFrame_stop {rest : Bytes} {eof : Bool} {stop : ReadStop} {reader : StreamReader}
    (h : readLength maxVarintBytes [] ⟨rest, eof⟩ = (.error stop, reader)) :
    readFrame ⟨magic ++ rest, eof⟩ maxBodySize = (.error stop, reader) := by
  unfold readFrame readFrameFrom
  rw [readLengthFrom_readExactly]
  rw [readExactly_append magic rfl]
  dsimp only
  rw [if_neg (not_not.mpr rfl), h]

/-- **Every read of a frame is one of the listed ways.** -/
theorem readFrame_reading (maxBodySize : ℤ) (s : Bytes) (eof : Bool) :
    FrameRead maxBodySize s eof (readFrame ⟨s, eof⟩ maxBodySize) := by
  rcases lt_or_ge s.length magic.length with hshort | hfits
  · obtain ⟨reader, hread⟩ := readExactly_short hshort eof
    unfold readFrame readFrameFrom
    rw [readLengthFrom_readExactly]
    rw [hread]
    exact .unfinished (.magic hshort)
  obtain ⟨start, rest, rfl, hstart⟩ : ∃ start rest, s = start ++ rest ∧ start.length = magic.length :=
    ⟨s.take 4, s.drop 4, (List.take_append_drop 4 s).symm, List.length_take_of_le hfits⟩
  by_cases hmagic : start = magic
  · subst hmagic
    rcases terminated_cases maxVarintBytes rest with ⟨length, body, rfl, hterm, hlen⟩
      | ⟨front, behind, rfl, hlen, hall⟩ | ⟨hlen, hall⟩
    · exact readFrame_length hterm hlen
    -- four bytes of length, and it still continues
    · obtain ⟨reader, hread⟩ := (@readLength_continues maxVarintBytes front [] eof hall).2 hlen behind
      rw [readFrame_stop hread]
      refine .refused (fun h => ?_) rfl
      rcases unfinished_magic_iff.mp h with ⟨hshort, _⟩ | ⟨length, body, heq, hterm, hle, _⟩
      · rw [List.length_append] at hshort
        omega
      · exact hterm.not_within (hlen ▸ hle) hall heq.symm
    -- the length is cut
    · obtain ⟨reader, hread⟩ := (@readLength_continues maxVarintBytes rest [] eof hall).1 hlen
      rw [readFrame_stop hread]
      exact .unfinished (.length hlen hall)
  -- four bytes that are not the magic
  · unfold readFrame readFrameFrom
    rw [readLengthFrom_readExactly]
    rw [readExactly_append start hstart]
    dsimp only
    rw [if_pos hmagic]
    refine .refused (fun h => ?_) rfl
    generalize heq : start ++ rest = whole at h
    cases h with
    | magic hshort =>
        rw [← heq, List.length_append] at hshort
        omega
    | length _ _ => exact hmagic (List.append_inj_left heq hstart)
    | body _ _ _ _ _ => exact hmagic (List.append_inj_left heq hstart)

/-! ## Pieces -/

/-- Reading off the pieces is reading off all of them at once, with the stream closed behind. -/
theorem readPieces_view (count : ℕ) : ∀ (arriving : List Bytes) (buffer : Bytes),
    ((readPieces count arriving buffer).1,
        (⟨(readPieces count arriving buffer).2.unread, true⟩ : StreamReader))
      = StreamReader.readExactly count ⟨buffer ++ arriving.flatten, true⟩ := by
  intro arriving
  induction arriving with
  | nil =>
      intro buffer
      rw [readPieces, List.flatten_nil, List.append_nil]
      unfold StreamReader.readExactly ChunkedReader.unread
      split
      · simp only [List.flatten_nil, List.append_nil]
      · rfl
  | cons piece arriving ih =>
      intro buffer
      rw [readPieces]
      split
      · rename_i hfits
        unfold StreamReader.readExactly ChunkedReader.unread
        have hmore : count ≤ (buffer ++ (piece :: arriving).flatten).length := by
          rw [List.length_append]
          omega
        rw [if_pos hmore, List.take_append_of_le_length hfits, List.drop_append_of_le_length hfits]
      · rw [ih, List.flatten_cons, List.append_assoc]

section View

variable {ρ : Type} {readExactly : ℕ → ρ → Except ReadStop Bytes × ρ} {view : ρ → StreamReader}
  (hview : ∀ count reader, ((readExactly count reader).1, view (readExactly count reader).2)
    = StreamReader.readExactly count (view reader))

include hview

theorem readLengthFrom_view : ∀ (left : ℕ) (encoded : Bytes) (reader : ρ),
    ((readLengthFrom readExactly left encoded reader).1,
        view (readLengthFrom readExactly left encoded reader).2)
      = readLength left encoded (view reader) := by
  intro left
  induction left with
  | zero => exact fun _ _ => rfl
  | succ left ih =>
      intro encoded reader
      rw [readLengthFrom, readLength, readLengthFrom, readLengthFrom_readExactly, ← hview 1 reader]
      cases readExactly 1 reader with
      | mk result next =>
          cases result with
          | error stop => rfl
          | ok byte =>
              dsimp only
              split
              · rfl
              · exact ih _ _

/-- Two streams that read alike give the same frames. -/
theorem readFrameFrom_view (maxBodySize : ℤ) (reader : ρ) :
    ((readFrameFrom readExactly maxBodySize reader).1,
        view (readFrameFrom readExactly maxBodySize reader).2)
      = readFrame (view reader) maxBodySize := by
  unfold readFrame readFrameFrom
  rw [readLengthFrom_readExactly, ← hview magic.length reader]
  cases readExactly magic.length reader with
  | mk result next =>
      cases result with
      | error stop => rfl
      | ok start =>
          dsimp only
          split
          · rfl
          · rw [← readLengthFrom_view hview maxVarintBytes [] next]
            cases readLengthFrom readExactly maxVarintBytes [] next with
            | mk result next =>
                cases result with
                | error stop => rfl
                | ok encodedLength =>
                    dsimp only
                    cases decodeVarint encodedLength with
                    | error e => rfl
                    | ok size =>
                        dsimp only
                        split
                        · rfl
                        · split
                          · rfl
                          · rw [← hview size.1 next]
                            cases readExactly size.1 next with
                            | mk result next =>
                                cases result with
                                | error stop => rfl
                                | ok body =>
                                    dsimp only
                                    cases decodeFrame (start ++ encodedLength ++ body) maxBodySize
                                    · rfl
                                    · rfl

end View

/-- `read_frame` on a stream that brings the pieces and is then closed. -/
def readPiecewise (maxBodySize : ℤ) (pieces : List Bytes) :
    Except ReadStop GizwitsFrame × ChunkedReader :=
  readFrameFrom ChunkedReader.readExactly maxBodySize { arriving := pieces }

/-- How the bytes are cut makes no difference. -/
theorem readPiecewise_eq (maxBodySize : ℤ) (pieces : List Bytes) :
    ((readPiecewise maxBodySize pieces).1,
        (⟨(readPiecewise maxBodySize pieces).2.unread, true⟩ : StreamReader))
      = readFrame ⟨pieces.flatten, true⟩ maxBodySize :=
  @readFrameFrom_view _ ChunkedReader.readExactly (fun reader => ⟨reader.unread, true⟩)
    (fun count reader => readPieces_view count reader.arriving reader.buffer) maxBodySize
    { arriving := pieces }

/-! ## One language -/

/-- Errors of the protocol layer, as opposed to an exception of the language. -/
def ProtocolError.isProtocolError : ProtocolError → Bool
  | .python _ => false
  | _ => true

def ProtocolError.isConnection : ProtocolError → Bool
  | .connection _ => true
  | _ => false

/-- A frame read off a closed stream is the frame of the bytes it took. -/
theorem readFrame_take_iff {frame : GizwitsFrame} {k : ℕ} :
    readFrame ⟨s, true⟩ maxBodySize = (.ok frame, ⟨s.drop k, true⟩)
      ↔ decodeFrame (s.take k) maxBodySize = .ok frame := by
  constructor
  · intro h
    obtain ⟨wire, hdecode, hbuffer, _⟩ := readFrame_ok h
    have hwire : wire = s.take k :=
      List.append_cancel_right (hbuffer.symm.trans (List.take_append_drop k s).symm)
    exact hwire ▸ hdecode
  · intro h
    have hread := readFrame_wire h (s.drop k) true
    rwa [List.take_append_drop] at hread

/--
**The stream decoder and the buffer decoder accept one language.**

The buffer decoder accepts exactly the magic, a base-128 length of one to four bytes,
canonical or padded, that is at least three and at most the limit, and a body that
long. The stream decoder, fed the same bytes in any pieces before the stream is
closed, returns a frame after `k` bytes exactly when the buffer decoder returns it on
those `k` bytes; otherwise it raises an error of the protocol, and that of a closed
connection exactly when the bytes ended before it could decide.
-/
theorem decoders_agree (maxBodySize : ℤ) :
    (∀ s, (∃ frame, decodeFrame s maxBodySize = .ok frame)
        ↔ ∃ length body, IsFrame s length body maxBodySize)
      ∧ ∀ pieces : List Bytes,
        (∀ frame k, ((readPiecewise maxBodySize pieces).1 = .ok frame
              ∧ (readPiecewise maxBodySize pieces).2.unread = pieces.flatten.drop k)
            ↔ decodeFrame (pieces.flatten.take k) maxBodySize = .ok frame)
          ∧ ((∃ frame k, (readPiecewise maxBodySize pieces).1 = .ok frame
              ∧ (readPiecewise maxBodySize pieces).2.unread = pieces.flatten.drop k)
            ∨ ∃ e, (readPiecewise maxBodySize pieces).1 = .error (.raised e)
              ∧ e.isProtocolError = true
              ∧ (e.isConnection = true ↔ Unfinished maxBodySize pieces.flatten)) := by
  refine ⟨fun s => decodeFrame_returns_iff, fun pieces => ?_⟩
  have heq := readPiecewise_eq maxBodySize pieces
  have hiff : ∀ frame k, ((readPiecewise maxBodySize pieces).1 = .ok frame
        ∧ (readPiecewise maxBodySize pieces).2.unread = pieces.flatten.drop k)
      ↔ decodeFrame (pieces.flatten.take k) maxBodySize = .ok frame := by
    intro frame k
    rw [← readFrame_take_iff, ← heq, Prod.mk.injEq, StreamReader.mk.injEq]
    exact and_congr Iff.rfl (and_iff_left rfl).symm
  refine ⟨hiff, ?_⟩
  have hreading := readFrame_reading maxBodySize pieces.flatten true
  generalize hread : readFrame ⟨pieces.flatten, true⟩ maxBodySize = outcome at hreading heq
  cases hreading with
  | @frame wire length body rest hs hframe =>
      have hdecode : decodeFrame (pieces.flatten.take wire.length) maxBodySize
          = .ok (bodyFrame body) := by
        rw [hs, List.take_left]
        exact decodeFrame_isFrame hframe
      exact Or.inl ⟨_, _, (hiff _ _).mpr hdecode⟩
  | unfinished hshort =>
      exact Or.inr ⟨_, congrArg Prod.fst heq, rfl, iff_of_true rfl hshort⟩
  | @refused e _ hend he =>
      refine Or.inr ⟨e, congrArg Prod.fst heq, ?_, iff_of_false ?_ hend⟩
      · cases e with
        | python _ => cases he
        | _ => rfl
      · cases e with
        | connection _ => cases he
        | _ => exact Bool.false_ne_true

end JebaoFlow
