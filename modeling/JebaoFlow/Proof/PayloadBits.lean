import JebaoFlow.Proof.ControlPayload

/-!
# The number in the bits of a datapoint

A datapoint holds one number, spread over the bits it occupies: `rank` says which
bit of the number a bit of the buffer is. A number that was placed is held, a number
that is held is the one that is read, and what is written elsewhere does not change
it. The three ways a datapoint sits in the buffer, a byte number, a field of the
big-endian bit group and plain bits, differ in nothing else.
-/

namespace JebaoFlow

open Bytes

variable {schema : ProductSchema} {a : Datapoint} {buffer : Bytes} {n i : ℕ}

/-- Which bit of the number of a datapoint bit `i` of the buffer is. -/
def ProductSchema.rank (schema : ProductSchema) (datapoint : Datapoint) (i : ℕ) : ℕ :=
  let position := datapoint.position
  match position.unit with
  | .byte => groupBit position.length (i - position.byteOffset * 8)
  | .bit =>
      if position.byteOffset = 0 ∧ 1 < schema.bitGroupWidth then
        groupBit schema.bitGroupWidth i - position.bitOffset
      else i - (position.byteOffset * 8 + position.bitOffset)

/-- How many bits the number of a datapoint has. -/
def Datapoint.width (datapoint : Datapoint) : ℕ :=
  match datapoint.position.unit with
  | .byte => 8 * datapoint.position.length
  | .bit => datapoint.position.length

/-- The number the bits of a datapoint spell. -/
def ProductSchema.readNumber (schema : ProductSchema) (raw : Bytes) (datapoint : Datapoint) : ℕ :=
  match datapoint.position.unit with
  | .byte => fromBytesBig (slice raw datapoint.position.byteOffset datapoint.position.length)
  | .bit => schema.readBits raw datapoint.position

/-- The bits of the datapoint spell the number. -/
def Holds (schema : ProductSchema) (buffer : Bytes) (datapoint : Datapoint) (number : ℕ) : Prop :=
  ∀ i, schema.occupies datapoint i = true →
    bit buffer i = number.testBit (schema.rank datapoint i)

/-! ## The three addressing schemes -/

section Rank

theorem rank_byte (hunit : a.position.unit = .byte) :
    schema.rank a i = groupBit a.position.length (i - a.position.byteOffset * 8) := by
  unfold ProductSchema.rank
  dsimp only
  rw [hunit]

theorem rank_group (hunit : a.position.unit = .bit)
    (hgroup : a.position.byteOffset = 0 ∧ 1 < schema.bitGroupWidth) :
    schema.rank a i = groupBit schema.bitGroupWidth i - a.position.bitOffset := by
  unfold ProductSchema.rank
  dsimp only
  rw [hunit]
  dsimp only
  rw [if_pos hgroup]

theorem rank_single (hunit : a.position.unit = .bit)
    (hplain : ¬ (a.position.byteOffset = 0 ∧ 1 < schema.bitGroupWidth)) :
    schema.rank a i = i - (a.position.byteOffset * 8 + a.position.bitOffset) := by
  unfold ProductSchema.rank
  dsimp only
  rw [hunit]
  dsimp only
  rw [if_neg hplain]

end Rank

/-! ## Reading -/

/-- A bit of a part of the buffer. -/
theorem bit_slice {offset length k : ℕ} (hk : k < 8 * length) :
    bit (slice buffer offset length) k = bit buffer (offset * 8 + k) := by
  have hdiv : (offset * 8 + k) / 8 = offset + k / 8 := by omega
  have hmod : (offset * 8 + k) % 8 = k % 8 := by omega
  unfold bit slice
  rw [hdiv, hmod, List.getD_eq_getElem?_getD, List.getD_eq_getElem?_getD,
    List.getElem?_take_of_lt (by omega), List.getElem?_drop]

/-- A bit of a number that is held in whole bytes. -/
theorem Holds.testBit_bytes (h : Holds schema buffer a n) (hunit : a.position.unit = .byte)
    (hstop : a.position.byteOffset + a.position.length ≤ buffer.length) {j : ℕ}
    (hj : j < 8 * a.position.length) :
    (fromBytesBig (slice buffer a.position.byteOffset a.position.length)).testBit j
      = n.testBit j := by
  have hlen : (slice buffer a.position.byteOffset a.position.length).length
      = a.position.length := by
    unfold slice
    rw [List.length_take, List.length_drop]
    omega
  -- bit `j` of the number is bit `groupBit j` of its bytes
  have hpos := groupBit_lt hj
  have hread := bit_eq_testBit (slice buffer a.position.byteOffset a.position.length)
    (hlen.symm ▸ hpos)
  rw [hlen, groupBit_groupBit hj] at hread
  have hheld := h (a.position.byteOffset * 8 + groupBit a.position.length j)
    ((occupies_byte_iff hunit).mpr ⟨by omega, by omega⟩)
  rw [rank_byte hunit, Nat.add_sub_cancel_left, groupBit_groupBit hj] at hheld
  rw [← hread, bit_slice hpos, hheld]

/-- A bit of a number that is held in the group of bits at the front. -/
theorem Holds.testBit_group (h : Holds schema buffer a n) (hunit : a.position.unit = .bit)
    (hwidth : a.position.byteOffset = 0 ∧ 1 < schema.bitGroupWidth)
    (hgroup : schema.bitGroupWidth ≤ buffer.length)
    (hfits : a.position.bitOffset + a.position.length ≤ 8 * schema.bitGroupWidth) {j : ℕ}
    (hj : j < a.position.length) :
    (fromBytesBig (buffer.take schema.bitGroupWidth)).testBit (a.position.bitOffset + j)
      = n.testBit j := by
  have hin : a.position.bitOffset + j < 8 * schema.bitGroupWidth := by omega
  have hoccupies : schema.occupies a (groupBit schema.bitGroupWidth (a.position.bitOffset + j))
      = true := by
    refine (occupies_group_iff hunit hwidth).mpr ?_
    rw [groupBit_groupBit hin]
    exact ⟨groupBit_lt hin, by omega, by omega⟩
  have hheld := h _ hoccupies
  rw [rank_group hunit hwidth, groupBit_groupBit hin, Nat.add_sub_cancel_left] at hheld
  rw [testBit_front hgroup hin, hheld]

/-- **A number that is held is the number that is read.** -/
theorem Holds.readNumber (h : Holds schema buffer a n) (hlt : n < 2 ^ a.width)
    (hstop : a.position.stop ≤ buffer.length) (hgroup : schema.bitGroupWidth ≤ buffer.length)
    (hfits : a.position.unit = .bit → a.position.byteOffset = 0 → 1 < schema.bitGroupWidth →
      a.position.bitOffset + a.position.length ≤ 8 * schema.bitGroupWidth) :
    schema.readNumber buffer a = n := by
  refine Nat.eq_of_testBit_eq (fun j => ?_)
  have hhigh : a.width ≤ j → n.testBit j = false := fun hj =>
    Nat.testBit_lt_two_pow (lt_of_lt_of_le hlt (Nat.pow_le_pow_right (by decide) hj))
  unfold ProductSchema.readNumber
  unfold Datapoint.width at hhigh
  unfold Position.stop at hstop
  cases hunit : a.position.unit with
  | byte =>
      rw [hunit] at hhigh hstop
      dsimp only at hhigh hstop ⊢
      rcases lt_or_ge j (8 * a.position.length) with hj | hj
      · exact h.testBit_bytes hunit hstop hj
      · have hlen : (slice buffer a.position.byteOffset a.position.length).length
            ≤ a.position.length := List.length_take_le _ _
        have hbytes := fromBytesBig_lt (slice buffer a.position.byteOffset a.position.length)
        rw [hhigh hj]
        refine Nat.testBit_lt_two_pow (lt_of_lt_of_le hbytes ?_)
        calc (256 : ℕ) ^ (slice buffer a.position.byteOffset a.position.length).length
            ≤ 256 ^ a.position.length := Nat.pow_le_pow_right (by decide) hlen
          _ = 2 ^ (8 * a.position.length) := pow_byte _
          _ ≤ 2 ^ j := Nat.pow_le_pow_right (by decide) hj
  | bit =>
      rw [hunit] at hhigh hstop
      dsimp only at hhigh hstop ⊢
      unfold ProductSchema.readBits
      by_cases hwidth : a.position.byteOffset = 0 ∧ 1 < schema.bitGroupWidth
      · rw [if_pos hwidth, Nat.testBit_and, Nat.testBit_shiftRight, Nat.one_shiftLeft,
          Nat.testBit_two_pow_sub_one]
        rcases lt_or_ge j a.position.length with hj | hj
        · rw [h.testBit_group hunit hwidth hgroup (hfits hunit hwidth.1 hwidth.2) hj,
            decide_eq_true hj, Bool.and_true]
        · rw [hhigh hj, decide_eq_false (Nat.not_lt.mpr hj), Bool.and_false]
      · rw [if_neg hwidth, testBit_foldl_bits, Nat.zero_testBit, Bool.false_or]
        rcases lt_or_ge j a.position.length with hj | hj
        · have hheld := h (a.position.byteOffset * 8 + a.position.bitOffset + j)
            ((occupies_single_iff hunit hwidth).mpr ⟨by omega, by omega⟩)
          rw [rank_single hunit hwidth, Nat.add_sub_cancel_left] at hheld
          rw [hheld, decide_eq_true hj, Bool.true_and]
        · rw [hhigh hj, decide_eq_false (Nat.not_lt.mpr hj), Bool.false_and]

/-- What is written elsewhere leaves the number alone. -/
theorem Holds.congr {inside : ℕ → Prop} {buffer' : Bytes} (h : Holds schema buffer a n)
    (hagree : AgreeOutside inside buffer buffer')
    (hout : ∀ i, schema.occupies a i = true → ¬ inside i) : Holds schema buffer' a n :=
  fun i hi => (hagree.bits i (hout i hi)).trans (h i hi)

/-! ## Placing -/

/-- **A number that was placed among the bits is held.** -/
theorem placeBits_holds {destination written : Bytes} (hunit : a.position.unit = .bit)
    (hstop : a.position.stop ≤ destination.length)
    (h : placeBits schema destination a.position.byteOffset a.position.bitOffset a.position.length
      n = .ok written) : Holds schema written a n := by
  intro i hi
  by_cases hwidth : schema.grouped a.position.byteOffset
  · obtain ⟨hin, hfield⟩ := (occupies_group_iff hunit hwidth).mp hi
    rw [rank_group hunit hwidth, bit_placeGroup hwidth h hin, if_pos hfield]
  · unfold placeBits at h
    rw [if_neg hwidth] at h
    cases h
    obtain ⟨hlo, hhi⟩ := (occupies_single_iff hunit hwidth).mp hi
    unfold Position.stop at hstop
    rw [hunit] at hstop
    dsimp only at hstop
    have hset := (placeSingleBits_written a.position.byteOffset a.position.bitOffset
      a.position.length n (show _ ≤ 8 * destination.length by omega)).inside
      (i - (a.position.byteOffset * 8 + a.position.bitOffset)) (List.mem_range.mpr (by omega))
    rw [Nat.add_sub_cancel' hlo] at hset
    rw [rank_single hunit hwidth, hset]

/-- So is one that was placed as bytes. -/
theorem patch_holds {destination chunk : Bytes} (hunit : a.position.unit = .byte)
    (hstop : a.position.stop ≤ destination.length)
    (h : toBytesBig a.position.length n = .ok chunk) :
    Holds schema (patch destination a.position.byteOffset a.position.length chunk) a n := by
  intro i hi
  obtain ⟨hlo, hhi⟩ := (occupies_byte_iff hunit).mp hi
  unfold Position.stop at hstop
  rw [hunit] at hstop
  dsimp only at hstop
  have hlen := toBytesBig_length h
  have hstart : (destination.take a.position.byteOffset).length = a.position.byteOffset :=
    List.length_take_of_le (by omega)
  have hpatched : bit (patch destination a.position.byteOffset a.position.length chunk) i
      = bit chunk (i - a.position.byteOffset * 8) := by
    have hdiv : (i - a.position.byteOffset * 8) / 8 = i / 8 - a.position.byteOffset := by omega
    have hmod : (i - a.position.byteOffset * 8) % 8 = i % 8 := by omega
    unfold bit patch
    rw [hdiv, hmod, List.append_assoc, List.getD_append_right _ _ _ _ (by omega), hstart,
      List.getD_append _ _ _ _ (by omega)]
  rw [rank_byte hunit, hpatched, bit_eq_testBit chunk (by omega), hlen, fromBytesBig_toBytesBig h]

/-! ## What a number decodes to -/

/-- The value a number of the datapoint decodes to. -/
def Datapoint.interpret (datapoint : Datapoint) (number : ℕ) : Value :=
  match datapoint.dataType with
  | .bool => .bool (number != 0)
  | _ => (datapoint.enumValues[number]?.map Value.str).getD (.int number)

/-- A switch or a choice among the bits, or a byte number without offset and scale. -/
def Datapoint.Regular (datapoint : Datapoint) : Prop :=
  (datapoint.position.unit = .bit ∧ (datapoint.dataType = .bool ∨ datapoint.dataType = .enum))
    ∨ (datapoint.position.unit = .byte ∧ datapoint.dataType = .uint8
      ∧ ∀ numeric ∈ datapoint.numeric, numeric.addition = 0 ∧ numeric.ratio = 1)

instance (datapoint : Datapoint) : Decidable datapoint.Regular :=
  inferInstanceAs (Decidable (_ ∨ _))

/-- Every datapoint of the known products is one. -/
theorem known_regular : ∀ schema ∈ knownSchemas, ∀ a ∈ schema.attributes, a.Regular := by
  decide +kernel

/-- **What a datapoint decodes to is its number, interpreted.** -/
theorem decodeAttribute_regular (h : a.Regular) (raw : Bytes) :
    schema.decodeAttribute raw a = .ok (a.interpret (schema.readNumber raw a)) := by
  unfold ProductSchema.decodeAttribute ProductSchema.readNumber Datapoint.interpret
  dsimp only
  rcases h with ⟨hunit, htype⟩ | ⟨hunit, htype, hnumeric⟩
  · rw [hunit]
    rcases htype with htype | htype
    · rw [htype]
    · rw [htype]
  · rw [hunit, htype]
    obtain ⟨numeric, hspec⟩ := Option.isSome_iff_exists.mp (a.numeric_spec (Or.inl htype))
    obtain ⟨haddition, hratio⟩ := hnumeric numeric hspec
    simp only [reduceCtorEq, if_false, or_self, hspec, haddition, hratio, mul_one, add_zero]

/-- The values of a complete status buffer of a known product. -/
theorem decodeStatus_known (hknown : schema ∈ knownSchemas) {raw : Bytes}
    (hlen : raw.length = schema.rawStatusSize) :
    schema.decodeStatus raw = .ok (Dict.setAll Datapoint.name
      (fun a => a.interpret (schema.readNumber raw a)) schema.attributes Dict.empty) := by
  unfold ProductSchema.decodeStatus
  rw [if_neg (not_not.mpr hlen)]
  refine Dict.collect_eq_setAll (fun a ha => ?_)
  rw [decodeAttribute_regular (known_regular schema hknown a ha)]
  rfl

end JebaoFlow
