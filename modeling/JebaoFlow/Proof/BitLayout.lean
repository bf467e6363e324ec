import JebaoFlow.Lib.Fields
import JebaoFlow.Protocol.Control
import JebaoFlow.Protocol.Profiles

/-!
# Placing and reading bits are inverse

Bits are placed and read in two ways, as part of one big-endian integer or one by one, by
code of its own each. What the four have in common is where bit `i` of a value stands in
the buffer: the writer puts it there and touches no other bit, and the reader looks there.
-/

namespace JebaoFlow

open Bytes

variable {schema : ProductSchema} {destination written : Bytes} {byteOffset bitOffset length : ℕ}
  {value : ℕ}

/-! ## Where a bit stands -/

/-- The bits are part of the group at the front of the buffer. -/
abbrev ProductSchema.grouped (schema : ProductSchema) (byteOffset : ℕ) : Prop :=
  byteOffset = 0 ∧ 1 < schema.bitGroupWidth

/--
Where bit `index` of a value stands, as a number of bits from the front of the buffer. Bit
`i` of a group is in byte `i / 8` from its end, a plain bit in the bytes from the offset on.
-/
def ProductSchema.bitPlace (schema : ProductSchema) (byteOffset bitOffset index : ℕ) : ℕ :=
  let i := bitOffset + index
  if schema.grouped byteOffset then (schema.bitGroupWidth - 1 - i / 8) * 8 + i % 8
  else (byteOffset + i / 8) * 8 + i % 8

/-- The buffer is long enough for the bits, and a group is wide enough. -/
def ProductSchema.Fits (schema : ProductSchema) (byteOffset bitOffset length : ℕ) (buffer : Bytes) :
    Prop :=
  if schema.grouped byteOffset then
    schema.bitGroupWidth ≤ buffer.length ∧ bitOffset + length ≤ 8 * schema.bitGroupWidth
  else byteOffset * 8 + bitOffset + length ≤ 8 * buffer.length

theorem bitPlace_group (hwidth : schema.grouped byteOffset) (index : ℕ) :
    schema.bitPlace byteOffset bitOffset index
      = groupBit schema.bitGroupWidth (bitOffset + index) := if_pos hwidth

theorem bitPlace_single (hplain : ¬ schema.grouped byteOffset) (index : ℕ) :
    schema.bitPlace byteOffset bitOffset index = byteOffset * 8 + bitOffset + index := by
  unfold ProductSchema.bitPlace
  dsimp only
  rw [if_neg hplain]
  omega

/-- Counting from the other end and back. -/
theorem groupBit_groupBit {width i : ℕ} (h : i < 8 * width) :
    groupBit width (groupBit width i) = i := by
  unfold groupBit
  omega

theorem groupBit_lt {width i : ℕ} (h : i < 8 * width) : groupBit width i < 8 * width := by
  unfold groupBit
  omega

/-! ## Bits of numbers and buffers -/

theorem testBit_mask (length bitOffset i : ℕ) : (((1 <<< length) - 1) <<< bitOffset).testBit i
    = decide (bitOffset ≤ i ∧ i < bitOffset + length) := by
  rw [Nat.testBit_shiftLeft, Nat.one_shiftLeft, Nat.testBit_two_pow_sub_one, Bool.decide_and]
  by_cases hle : bitOffset ≤ i
  · rw [decide_eq_true hle, Bool.true_and, Bool.true_and]
    exact decide_eq_decide.mpr (by omega)
  · rw [decide_eq_false hle, Bool.false_and, Bool.false_and]

/-- Reading bits one by one. -/
theorem testBit_foldl_bits (f : ℕ → Bool) : ∀ (length value j : ℕ),
    ((List.range length).foldl (fun value index => value ||| (if f index then 1 <<< index else 0))
      value).testBit j = (value.testBit j || (decide (j < length) && f j)) := by
  intro length
  induction length with
  | zero => intro value j; simp
  | succ length ih =>
      intro value j
      rw [List.range_succ, List.foldl_append, List.foldl_cons, List.foldl_nil, Nat.testBit_or, ih]
      have hone : (if f length then 1 <<< length else 0 : ℕ).testBit j
          = (decide (j = length) && f length) := by
        cases f length with
        | false => simp
        | true =>
            rw [if_pos rfl, Nat.one_shiftLeft, Nat.testBit_two_pow, Bool.and_true]
            exact decide_eq_decide.mpr eq_comm
      rw [hone, Bool.or_assoc]
      congr 1
      rcases lt_trichotomy j length with hlt | rfl | hgt
      · simp [hlt, Nat.lt_succ_of_lt hlt, Nat.ne_of_lt hlt]
      · simp
      · simp [Nat.not_lt.mpr (Nat.le_of_lt hgt), Nat.ne_of_gt hgt, Nat.not_lt.mpr hgt]

theorem bit_take {buffer : Bytes} {length k : ℕ} (hk : k < 8 * length) :
    bit (buffer.take length) k = bit buffer k := by
  unfold bit
  rw [List.getD_eq_getElem?_getD, List.getD_eq_getElem?_getD, List.getElem?_take_of_lt (by omega)]

theorem eq_of_bits {b c : Bytes} (hlen : b.length = c.length) (h : ∀ i, bit b i = bit c i) :
    b = c := by
  have hslice : slice b 0 b.length = slice c 0 b.length :=
    slice_eq_of_bits hlen (fun i _ _ => h i)
  unfold slice at hslice
  rwa [List.drop_zero, List.drop_zero, List.take_length, hlen, List.take_length] at hslice

/-- Bit `i` of the integer at the front of the buffer. -/
theorem testBit_front {width i : ℕ} (hlen : width ≤ destination.length) (hi : i < 8 * width) :
    (fromBytesBig (destination.take width)).testBit i = bit destination (groupBit width i) := by
  have htaken : (destination.take width).length = width := List.length_take_of_le hlen
  have hread := bit_eq_testBit (destination.take width) (htaken.symm ▸ groupBit_lt hi)
  rw [htaken, groupBit_groupBit hi] at hread
  rw [← hread, bit_take (groupBit_lt hi)]

/-! ## Placing -/

/-- The bits of a group that was written: the mask lets the value through, the rest stays. -/
theorem bit_placeGroup (hwidth : schema.grouped byteOffset)
    (h : placeBits schema destination byteOffset bitOffset length value = .ok written) {i : ℕ}
    (hi : i < 8 * schema.bitGroupWidth) : bit written i
      = if bitOffset ≤ groupBit schema.bitGroupWidth i
            ∧ groupBit schema.bitGroupWidth i < bitOffset + length then
          value.testBit (groupBit schema.bitGroupWidth i - bitOffset)
        else (fromBytesBig (destination.take schema.bitGroupWidth)).testBit
          (groupBit schema.bitGroupWidth i) := by
  unfold placeBits at h
  rw [if_pos hwidth] at h
  obtain ⟨group, hwritten, hpatch⟩ := PyError.bind_eq_ok h
  cases hpatch
  have hlen := toBytesBig_length hwritten
  have hpatched : bit (patch destination 0 schema.bitGroupWidth group) i = bit group i := by
    unfold bit patch
    rw [List.take_zero, List.nil_append, List.getD_append _ _ _ _ (by omega)]
  rw [hpatched, bit_eq_testBit group (by omega), hlen, fromBytesBig_toBytesBig hwritten,
    Nat.testBit_or, Nat.testBit_ldiff, Nat.testBit_and, testBit_mask, Nat.testBit_shiftLeft]
  split
  · rename_i hin
    simp [hin]
  · rename_i hout
    rw [decide_eq_false hout]
    simp

/-- A group is written back whole, so the bytes behind it stay. -/
theorem placeGroup_behind (hwidth : schema.grouped byteOffset)
    (hgroup : schema.bitGroupWidth ≤ destination.length)
    (h : placeBits schema destination byteOffset bitOffset length value = .ok written) :
    written.length = destination.length
      ∧ ∀ i, 8 * schema.bitGroupWidth ≤ i → bit written i = bit destination i := by
  unfold placeBits at h
  rw [if_pos hwidth] at h
  obtain ⟨group, hwritten, hpatch⟩ := PyError.bind_eq_ok h
  cases hpatch
  have hlen := toBytesBig_length hwritten
  exact ⟨patch_length hlen (by omega), fun i hi =>
    bit_patch_of_out hlen (by omega) (Or.inr (by omega))⟩

/-- The masked number ends within its group of bits, so its bits are always placed. -/
theorem placeBits_returns (hfits : schema.grouped byteOffset →
      bitOffset + length ≤ 8 * schema.bitGroupWidth) (destination : Bytes) (value : ℕ) :
    ∃ written, placeBits schema destination byteOffset bitOffset length value = .ok written := by
  unfold placeBits
  split
  · rename_i hwidth
    have hone : 2 ^ length - 1 < 2 ^ length := Nat.sub_lt (Nat.two_pow_pos _) (by decide)
    have hmask : (value <<< bitOffset) &&& (((1 <<< length) - 1) <<< bitOffset)
        < 256 ^ schema.bitGroupWidth := by
      refine lt_of_le_of_lt Nat.and_le_right ?_
      rw [pow_byte, Nat.shiftLeft_eq, Nat.one_shiftLeft]
      calc (2 ^ length - 1) * 2 ^ bitOffset
          < 2 ^ length * 2 ^ bitOffset := Nat.mul_lt_mul_of_pos_right hone (Nat.two_pow_pos _)
        _ = 2 ^ (bitOffset + length) := by rw [← pow_add, add_comm]
        _ ≤ 2 ^ (8 * schema.bitGroupWidth) := Nat.pow_le_pow_right (by decide) (hfits hwidth)
    obtain ⟨group, hgroup⟩ := toBytesBig_ok_iff.mpr (group_lt hmask destination)
    exact ⟨_, PyError.bind_of_ok hgroup⟩
  · exact ⟨_, rfl⟩

/-- Writing bits one by one writes the field of those bits. -/
theorem placeSingleBits_written (byteOffset bitOffset length value : ℕ)
    (hfits : byteOffset * 8 + bitOffset + length ≤ 8 * destination.length) :
    Fields.Written bit (fun index => byteOffset * 8 + bitOffset + index) (· ∈ List.range length)
      value.testBit destination
      ((List.range length).foldl (fun bytes index => setBit bytes
        (byteOffset + (bitOffset + index) / 8) ((bitOffset + index) % 8) (value.testBit index))
        destination) := by
  have hplace : ∀ index, (byteOffset + (bitOffset + index) / 8) * 8 + (bitOffset + index) % 8
      = byteOffset * 8 + bitOffset + index := fun index => by omega
  have hmod : ∀ index, (bitOffset + index) % 8 < 8 := fun index => Nat.mod_lt _ (by decide)
  refine Fields.Written.foldl
    (P := fun bytes => byteOffset * 8 + bitOffset + length ≤ 8 * bytes.length)
    (fun bytes index hsized => ?_) (fun bytes index i hne => ?_) (fun bytes hsized index hindex => ?_)
    (fun index _ index' _ heq => by omega) hfits
  · rw [setBit_length]
    exact hsized
  · exact bit_setBit_of_ne (hmod index) _ (hplace index ▸ hne.symm)
  · have hlt := List.mem_range.mp hindex
    have hset := bit_setBit_self (hmod index) (value.testBit index)
      (show byteOffset + (bitOffset + index) / 8 < bytes.length by omega)
    rwa [hplace] at hset

theorem placeSingleBits_length (byteOffset bitOffset value : ℕ) : ∀ (indexes : List ℕ)
    (destination : Bytes), (indexes.foldl (fun bytes index => setBit bytes
      (byteOffset + (bitOffset + index) / 8) ((bitOffset + index) % 8) (value.testBit index))
      destination).length = destination.length
  | [], _ => rfl
  | index :: indexes, destination => by
      rw [List.foldl_cons, placeSingleBits_length, setBit_length]

/-- **Placing writes the bits of the value to their places and nothing else.** -/
theorem placeBits_written (hfits : schema.Fits byteOffset bitOffset length destination)
    (value : ℕ) : ∃ written,
      placeBits schema destination byteOffset bitOffset length value = .ok written
        ∧ written.length = destination.length
        ∧ Fields.Written bit (schema.bitPlace byteOffset bitOffset) (· < length) value.testBit
          destination written := by
  unfold ProductSchema.Fits at hfits
  by_cases hwidth : schema.grouped byteOffset
  · rw [if_pos hwidth] at hfits
    obtain ⟨written, hwritten⟩ := placeBits_returns (fun _ => hfits.2) destination value
    obtain ⟨hlen, hbehind⟩ := placeGroup_behind hwidth hfits.1 hwritten
    refine ⟨written, hwritten, hlen, fun index hindex => ?_, fun i hout => ?_⟩
    · have hin : bitOffset + index < 8 * schema.bitGroupWidth := by omega
      rw [bitPlace_group hwidth, bit_placeGroup hwidth hwritten (groupBit_lt hin),
        groupBit_groupBit hin, if_pos ⟨by omega, by omega⟩, Nat.add_sub_cancel_left]
    · by_cases hi : i < 8 * schema.bitGroupWidth
      · -- a bit of the group that is none of the field
        have hnot : ¬ (bitOffset ≤ groupBit schema.bitGroupWidth i
            ∧ groupBit schema.bitGroupWidth i < bitOffset + length) := by
          rintro ⟨hlo, hhi⟩
          refine hout (groupBit schema.bitGroupWidth i - bitOffset) (by omega) ?_
          rw [bitPlace_group hwidth, Nat.add_sub_cancel' hlo, groupBit_groupBit hi]
        rw [bit_placeGroup hwidth hwritten hi, if_neg hnot,
          testBit_front hfits.1 (groupBit_lt hi), groupBit_groupBit hi]
      · exact hbehind i (not_lt.mp hi)
  · rw [if_neg hwidth] at hfits
    have hloop := placeSingleBits_written byteOffset bitOffset length value hfits
    refine ⟨_, if_neg hwidth, placeSingleBits_length .., fun index hindex => ?_, fun i hout => ?_⟩
    · rw [bitPlace_single hwidth]
      exact hloop.inside index (List.mem_range.mpr hindex)
    · refine hloop.outside i (fun index hindex => ?_)
      rw [← bitPlace_single hwidth]
      exact hout index (List.mem_range.mp hindex)

/-! ## Reading -/

/-- **Reading looks at the places the bits are put.** -/
theorem testBit_readBits {position : Position} {buffer : Bytes}
    (hfits : schema.Fits position.byteOffset position.bitOffset position.length buffer) (j : ℕ) :
    (schema.readBits buffer position).testBit j = (decide (j < position.length)
      && bit buffer (schema.bitPlace position.byteOffset position.bitOffset j)) := by
  unfold ProductSchema.Fits at hfits
  unfold ProductSchema.readBits
  by_cases hwidth : schema.grouped position.byteOffset
  · rw [if_pos hwidth] at hfits
    rw [if_pos hwidth, Nat.testBit_and, Nat.testBit_shiftRight, Nat.one_shiftLeft,
      Nat.testBit_two_pow_sub_one, bitPlace_group hwidth]
    by_cases hj : j < position.length
    · rw [testBit_front hfits.1 (by omega), Bool.and_comm]
    · rw [decide_eq_false hj, Bool.and_false, Bool.false_and]
  · rw [if_neg hwidth, testBit_foldl_bits, Nat.zero_testBit, Bool.false_or, bitPlace_single hwidth]

/--
**Placing and reading bits are inverse, for every layout.**

What was placed is read, the bits around it are as they were, and of two placements the
last one counts.
-/
theorem bits_place_read {position : Position} {buffer : Bytes} {v w : ℕ}
    (hfits : schema.Fits position.byteOffset position.bitOffset position.length buffer)
    (hv : v < 2 ^ position.length) : ∃ written,
      placeBits schema buffer position.byteOffset position.bitOffset position.length v = .ok written
        ∧ schema.readBits written position = v
        ∧ written.length = buffer.length
        ∧ (∀ index < position.length, bit written
          (schema.bitPlace position.byteOffset position.bitOffset index) = v.testBit index)
        ∧ (∀ i, (∀ index < position.length,
          schema.bitPlace position.byteOffset position.bitOffset index ≠ i) →
          bit written i = bit buffer i)
        ∧ placeBits schema written position.byteOffset position.bitOffset position.length w
          = placeBits schema buffer position.byteOffset position.bitOffset position.length w := by
  obtain ⟨written, hplaced, hlen, hwritten⟩ := placeBits_written hfits v
  have hfits' : schema.Fits position.byteOffset position.bitOffset position.length written := by
    unfold ProductSchema.Fits at hfits ⊢
    rw [hlen]
    exact hfits
  refine ⟨written, hplaced, Nat.eq_of_testBit_eq (fun j => ?_), hlen, hwritten.inside,
    hwritten.outside, ?_⟩
  · rw [testBit_readBits hfits']
    by_cases hj : j < position.length
    · rw [decide_eq_true hj, Bool.true_and, hwritten.inside j hj]
    · have hhigh : v < 2 ^ j :=
        lt_of_lt_of_le hv (Nat.pow_le_pow_right (by decide) (not_lt.mp hj))
      rw [decide_eq_false hj, Bool.false_and, Nat.testBit_lt_two_pow hhigh]
  · obtain ⟨twice, htwice, hlen', hwritten'⟩ := placeBits_written hfits' w
    obtain ⟨once, honce, hlen'', hwritten''⟩ := placeBits_written hfits w
    rw [htwice, honce, eq_of_bits (hlen'.trans (hlen.trans hlen''.symm))
      ((hwritten.overwrite hwritten').unique hwritten'')]

/-- A field of five bits across the two bytes of a group. -/
def straddlingPosition : Position where
  byteOffset := 0
  bitOffset := 6
  length := 5
  unit := .bit

theorem bits_place_read_straddling : ∃ written,
    placeBits localWavemaker [0x06, 0x01, 0x5B] 0 6 5 21 = .ok written
      ∧ localWavemaker.readBits written straddlingPosition = 21 := by
  obtain ⟨written, hplaced, hread, _⟩ :=
    @bits_place_read localWavemaker straddlingPosition [0x06, 0x01, 0x5B] 21 0
      (show (2 : ℕ) ≤ 3 ∧ 6 + 5 ≤ 8 * 2 by decide) (by decide)
  exact ⟨written, hplaced, hread⟩

end JebaoFlow
