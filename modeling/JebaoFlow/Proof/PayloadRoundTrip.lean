import JebaoFlow.Proof.PayloadBits

/-!
# A control payload decodes to the request

The encoder of `control.py` and the decoder of `schema.py` are separate programs over
the same positions. A request of the type of its datapoint stands for one number, or
is out of range. The number is placed, held while the other changes are placed, and
read back; the bits of different datapoints never overlap, so neither the values nor
the order of the other changes matter.
-/

namespace JebaoFlow

open Bytes

variable {schema : ProductSchema} {a : Datapoint} {v : Value} {n : ℕ}

/-! ## Buffers, bit by bit -/

theorem bit_append_zeros (bytes : Bytes) (k i : ℕ) : bit (bytes ++ zeros k) i = bit bytes i := by
  have hbyte : (bytes ++ zeros k).getD (i / 8) 0 = bytes.getD (i / 8) 0 := by
    rcases lt_or_ge (i / 8) bytes.length with h | h
    · rw [List.getD_append _ _ _ _ h]
    · rw [List.getD_append_right _ _ _ _ h, List.getD_eq_default bytes 0 h]
      unfold zeros
      rw [List.getD_eq_getElem?_getD, List.getElem?_replicate]
      split <;> rfl
  unfold bit
  rw [hbyte]

/-! ## Requests -/

/-- A value of the type the datapoint takes: a switch, a label or an integer. -/
def Datapoint.accepts (datapoint : Datapoint) : Value → Bool
  | .bool _ => datapoint.dataType = .bool
  | .int _ => datapoint.dataType ≠ .bool
  | .str _ => datapoint.dataType ≠ .bool ∧ datapoint.enumValues ≠ []
  | _ => false

/-- The least number a datapoint takes. -/
def Datapoint.least (datapoint : Datapoint) : ℤ :=
  match datapoint.position.unit with
  | .bit => 0
  | .byte => (datapoint.numeric.map NumericSpec.minimum).getD 0

/-- The greatest number a datapoint takes. -/
def Datapoint.greatest (datapoint : Datapoint) : ℤ :=
  match datapoint.position.unit with
  | .bit => (1 <<< datapoint.position.length : ℕ) - 1
  | .byte => (datapoint.numeric.map NumericSpec.maximum).getD 0

/-- The number a request stands for, if it is in range. -/
def Datapoint.wireNumber (datapoint : Datapoint) : Value → Option ℕ
  | .bool b => some (if b then 1 else 0)
  | .str label => datapoint.enumValues.idxOf? label
  | .int i => if datapoint.least ≤ i ∧ i ≤ datapoint.greatest then some i.toNat else none
  | _ => none

/-- The value a request reads back as: an integer that indexes a label is that label. -/
def Datapoint.shown (datapoint : Datapoint) : Value → Value
  | .int (Int.ofNat i) => (datapoint.enumValues[i]?.map Value.str).getD (.int i)
  | v => v

/-- What the writable datapoints of the known products have in common. -/
structure Operable (schema : ProductSchema) (datapoint : Datapoint) : Prop where
  regular : datapoint.Regular
  nonneg : 0 ≤ datapoint.least
  fits : datapoint.greatest < 2 ^ datapoint.width
  labels : ∀ i < datapoint.enumValues.length,
    datapoint.least ≤ (i : ℤ) ∧ (i : ℤ) ≤ datapoint.greatest
  group : datapoint.position.unit = .bit → datapoint.position.byteOffset = 0 →
    1 < schema.bitGroupWidth →
      datapoint.position.bitOffset + datapoint.position.length ≤ 8 * schema.bitGroupWidth

theorem known_operable (hknown : schema ∈ knownSchemas) (hmem : a ∈ schema.attributes)
    (hwritable : a.isWritable = true) : Operable schema a := by
  have hfacts : ∀ schema ∈ knownSchemas, ∀ a ∈ schema.attributes, a.isWritable = true →
      0 ≤ a.least ∧ a.greatest < 2 ^ a.width
        ∧ (∀ i < a.enumValues.length, a.least ≤ (i : ℤ) ∧ (i : ℤ) ≤ a.greatest)
        ∧ (a.position.unit = .bit → a.position.byteOffset = 0 → 1 < schema.bitGroupWidth →
          a.position.bitOffset + a.position.length ≤ 8 * schema.bitGroupWidth) := by
    decide +kernel
  obtain ⟨hnonneg, hfits, hlabels, hgroup⟩ := hfacts schema hknown a hmem hwritable
  exact ⟨known_regular schema hknown a hmem, hnonneg, hfits, hlabels, hgroup⟩

theorem idxOf?_lt {label : String} {labels : List String} {index : ℕ}
    (h : labels.idxOf? label = some index) : labels[index]? = some label := by
  obtain ⟨hlt, heq, _⟩ := List.findIdx?_eq_some_iff_getElem.mp h
  rw [List.getElem?_eq_getElem hlt, eq_of_beq heq]

/-- The number of a request is in range, also when the request is a label or a switch. -/
theorem wireNumber_range (hop : Operable schema a) (htyped : a.accepts v = true)
    (h : a.wireNumber v = some n) : a.least ≤ n ∧ n ≤ a.greatest := by
  cases v with
  | bool b =>
      -- only the bits have switches, and the least bit field holds one of the two numbers
      have htype : a.dataType = .bool := of_decide_eq_true htyped
      have hunit : a.position.unit = .bit := by
        rcases hop.regular with ⟨hunit, _⟩ | ⟨_, huint, _⟩
        · exact hunit
        · rw [htype] at huint; cases huint
      cases h
      unfold Datapoint.least Datapoint.greatest
      rw [hunit, Nat.one_shiftLeft]
      have hpow : 2 ^ 1 ≤ 2 ^ a.position.length :=
        Nat.pow_le_pow_right (by decide) a.position.length_pos
      dsimp only
      generalize 2 ^ a.position.length = room at hpow ⊢
      cases b <;> exact ⟨by omega, by simp only [Bool.false_eq_true, if_false, if_true]; omega⟩
  | int i =>
      unfold Datapoint.wireNumber at h
      dsimp only at h
      split at h
      · rename_i hrange
        have := hop.nonneg
        cases h
        omega
      · cases h
  | str label =>
      have hlt := (List.getElem?_eq_some_iff.mp (idxOf?_lt h)).1
      exact hop.labels n hlt
  | bytes b => cases h
  | object o => cases h

/-- What is placed for a request decodes to the request. -/
theorem interpret_wireNumber (hop : Operable schema a) (htyped : a.accepts v = true)
    (h : a.wireNumber v = some n) : a.interpret n = a.shown v := by
  cases v with
  | bool b =>
      have htype : a.dataType = .bool := of_decide_eq_true htyped
      cases h
      unfold Datapoint.interpret
      rw [htype]
      cases b <;> rfl
  | int i =>
      have htype : a.dataType ≠ .bool := of_decide_eq_true htyped
      unfold Datapoint.wireNumber at h
      dsimp only at h
      split at h
      · rename_i hrange
        have hnonneg := hop.nonneg
        obtain ⟨index, rfl⟩ := Int.eq_ofNat_of_zero_le (hnonneg.trans hrange.1)
        cases h
        unfold Datapoint.interpret
        split
        · rename_i hbool; exact absurd hbool htype
        · rfl
      · cases h
  | str label =>
      have htype : a.dataType ≠ .bool ∧ a.enumValues ≠ [] := of_decide_eq_true htyped
      unfold Datapoint.interpret
      split
      · rename_i hbool; exact absurd hbool htype.1
      · rw [idxOf?_lt h]
        rfl
  | bytes b => cases h
  | object o => cases h

/-! ## Placing a request -/

theorem labelIndex_ok {label : String} {index : ℕ} :
    a.labelIndex label = .ok index ↔ a.enumValues.idxOf? label = some index := by
  unfold Datapoint.labelIndex
  cases a.enumValues.idxOf? label with
  | none => exact iff_of_false (fun h => nomatch h) (fun h => nomatch h)
  | some found => exact ⟨fun h => congrArg some (Except.ok.inj h), fun h => by cases h; rfl⟩

/-- The number of a request is what goes among the bits. -/
theorem encodeBitValue_wireNumber (hbits : a.dataType = .bool ∨ a.dataType = .enum)
    (htyped : a.accepts v = true) (h : a.wireNumber v = some n) (hnonneg : 0 ≤ a.least) :
    encodeBitValue a v = .ok n := by
  cases v with
  | bool b =>
      have htype : a.dataType = .bool := of_decide_eq_true htyped
      cases h
      unfold encodeBitValue
      rw [htype]
      cases b <;> rfl
  | int i =>
      have htype : a.dataType = .enum := hbits.resolve_left (of_decide_eq_true htyped)
      unfold Datapoint.wireNumber at h
      dsimp only at h
      split at h
      · rename_i hrange
        cases h
        unfold encodeBitValue
        rw [htype]
        exact congrArg Except.ok (Int.toNat_of_nonneg (hnonneg.trans hrange.1)).symm
      · cases h
  | str label =>
      have htype : a.dataType = .enum :=
        hbits.resolve_left (of_decide_eq_true htyped : _ ∧ a.enumValues ≠ []).1
      unfold encodeBitValue
      rw [htype]
      show (a.labelIndex label).map Int.ofNat = _
      rw [labelIndex_ok.mpr h]
      rfl
  | bytes b => cases h
  | object o => cases h

/-- And a request that goes among the bits has a number. -/
theorem wireNumber_of_encodeBitValue {i : ℤ} (hunit : a.position.unit = .bit)
    (hbits : a.dataType = .bool ∨ a.dataType = .enum) (htyped : a.accepts v = true)
    (h : encodeBitValue a v = .ok i) (hrange : 0 ≤ i ∧ i ≤ (1 <<< a.position.length : ℕ) - 1) :
    (a.wireNumber v).isSome = true := by
  unfold encodeBitValue at h
  cases v with
  | bool b => rfl
  | int j =>
      have htype : a.dataType = .enum := hbits.resolve_left (of_decide_eq_true htyped)
      rw [htype] at h
      cases h
      unfold Datapoint.wireNumber Datapoint.least Datapoint.greatest
      rw [hunit]
      dsimp only
      rw [if_pos hrange]
      rfl
  | str label =>
      have htype : a.dataType = .enum :=
        hbits.resolve_left (of_decide_eq_true htyped : _ ∧ a.enumValues ≠ []).1
      rw [htype] at h
      dsimp only at h
      cases hindex : a.labelIndex label with
      | error e => rw [hindex] at h; cases h
      | ok index =>
          unfold Datapoint.wireNumber
          dsimp only
          rw [labelIndex_ok.mp hindex]
          rfl
  | bytes b => cases htyped
  | object o => cases htyped

/-- The number of a request is what the bytes of a numeric datapoint stand for. -/
theorem requestedNumber_wireNumber (htyped : a.accepts v = true) (huint : a.dataType = .uint8)
    (h : a.wireNumber v = some n) (hnonneg : 0 ≤ a.least) :
    requestedNumber a v = .ok (n : ℤ) := by
  cases v with
  | bool b =>
      have htype : a.dataType = .bool := of_decide_eq_true htyped
      rw [htype] at huint
      cases huint
  | int i =>
      unfold Datapoint.wireNumber at h
      dsimp only at h
      split at h
      · rename_i hrange
        cases h
        rw [Int.toNat_of_nonneg (hnonneg.trans hrange.1)]
        rfl
      · cases h
  | str label =>
      have htype : a.dataType ≠ .bool ∧ a.enumValues ≠ [] := of_decide_eq_true htyped
      unfold requestedNumber
      dsimp only
      rw [if_pos htype.2, labelIndex_ok.mpr h]
      rfl
  | bytes b => cases h
  | object o => cases h

theorem wireNumber_of_requestedNumber {numeric : NumericSpec} {number : ℚ}
    (hunit : a.position.unit = .byte) (hspec : a.numeric = some numeric)
    (htyped : a.accepts v = true) (h : requestedNumber a v = .ok number) :
    ∃ i : ℤ, number = i
      ∧ (numeric.minimum ≤ i ∧ i ≤ numeric.maximum → (a.wireNumber v).isSome = true) := by
  unfold requestedNumber at h
  cases v with
  | bool b => exact ⟨if b then 1 else 0, by cases b <;> cases h <;> rfl, fun _ => rfl⟩
  | int i =>
      cases h
      refine ⟨i, rfl, fun hrange => ?_⟩
      unfold Datapoint.wireNumber Datapoint.least Datapoint.greatest
      rw [hunit, hspec]
      dsimp only [Option.map_some, Option.getD_some]
      rw [if_pos hrange]
      rfl
  | str label =>
      dsimp only at h
      split at h
      · cases hindex : a.labelIndex label with
        | error e => rw [hindex] at h; cases h
        | ok index =>
            rw [hindex] at h
            cases h
            refine ⟨index, rfl, fun _ => ?_⟩
            unfold Datapoint.wireNumber
            dsimp only
            rw [labelIndex_ok.mp hindex]
            rfl
      · cases h
  | bytes b => cases htyped
  | object o => cases htyped

/-- A whole number without offset and scale is encoded as itself, when it is in range. -/
theorem encodeNumber_intCast {numeric : NumericSpec} {i : ℤ} (length : ℕ)
    (hplain : numeric.addition = 0 ∧ numeric.ratio = 1) (h : requestedNumber a v = .ok i) :
    encodeNumber a numeric v length
      = if ¬ (numeric.minimum ≤ i ∧ i ≤ numeric.maximum) then
          .error (.valueError (s!"{a.name}: value {v.repr} is outside "
            ++ s!"{numeric.minimum}..{numeric.maximum}"))
        else if i < 0 then .error (.overflowError "can't convert negative int to unsigned")
        else toBytesBig length i.toNat := by
  unfold encodeNumber
  rw [h, PyError.bind_of_ok rfl]
  rw [hplain.1, hplain.2, Int.cast_zero, Int.cast_one, sub_zero, div_one]
  dsimp only
  rw [pyRound_intCast, sub_self, abs_zero, if_neg (by norm_num)]

/-- **A request in range is placed, and the buffer then holds its number.** -/
theorem placeValue_wireNumber {destination : Bytes} (hop : Operable schema a)
    (htyped : a.accepts v = true) (h : a.wireNumber v = some n)
    (hstop : a.position.stop ≤ destination.length) :
    ∃ written, placeValue schema destination a v = .ok written ∧ Holds schema written a n := by
  obtain ⟨hlo, hhi⟩ := wireNumber_range hop htyped h
  have hfits := hop.fits
  unfold placeValue
  dsimp only
  rcases hop.regular with ⟨hunit, hbits⟩ | ⟨hunit, huint, hnumeric⟩
  · rw [hunit]
    dsimp only
    rw [encodeBitValue_wireNumber hbits htyped h hop.nonneg, PyError.bind_of_ok rfl]
    unfold Datapoint.greatest at hhi
    rw [hunit] at hhi
    rw [if_pos ⟨Int.natCast_nonneg n, hhi⟩, Int.toNat_natCast]
    obtain ⟨written, hplaced⟩ :=
      placeBits_returns (fun hwidth => hop.group hunit hwidth.1 hwidth.2) destination n
    exact ⟨written, hplaced, placeBits_holds hunit hstop hplaced⟩
  · obtain ⟨numeric, hspec⟩ := Option.isSome_iff_exists.mp (a.numeric_spec (Or.inl huint))
    unfold Datapoint.least at hlo
    unfold Datapoint.greatest at hhi hfits
    unfold Datapoint.width at hfits
    rw [hunit, hspec] at hlo hhi hfits
    dsimp only [Option.map_some, Option.getD_some] at hlo hhi hfits
    obtain ⟨chunk, hchunk⟩ := toBytesBig_ok_iff.mpr (show n < 256 ^ a.position.length by
      rw [pow_byte]
      exact_mod_cast lt_of_le_of_lt hhi hfits)
    rw [hunit, huint, hspec]
    dsimp only
    rw [encodeNumber_intCast _ (hnumeric numeric hspec)
      (requestedNumber_wireNumber htyped huint h hop.nonneg), if_neg (not_not.mpr ⟨hlo, hhi⟩),
      if_neg (by omega), Int.toNat_natCast, hchunk]
    exact ⟨_, rfl, patch_holds hunit hstop hchunk⟩

/-- **A request that is placed is in range.** -/
theorem wireNumber_of_placeValue {destination written : Bytes} (hop : Operable schema a)
    (htyped : a.accepts v = true) (h : placeValue schema destination a v = .ok written) :
    (a.wireNumber v).isSome = true := by
  unfold placeValue at h
  dsimp only at h
  rcases hop.regular with ⟨hunit, hbits⟩ | ⟨hunit, huint, hnumeric⟩
  · rw [hunit] at h
    obtain ⟨i, hencoded, h⟩ := PyError.bind_eq_ok h
    split at h
    · rename_i hrange
      exact wireNumber_of_encodeBitValue hunit hbits htyped hencoded hrange
    · cases h
  · obtain ⟨numeric, hspec⟩ := Option.isSome_iff_exists.mp (a.numeric_spec (Or.inl huint))
    rw [hunit, huint, hspec] at h
    obtain ⟨rawBytes, hencoded, h⟩ := PyError.bind_eq_ok h
    obtain ⟨number, hnumber, _, _⟩ := encodeNumber_ok hencoded
    obtain ⟨i, rfl, hsome⟩ := wireNumber_of_requestedNumber hunit hspec htyped hnumber
    rw [encodeNumber_intCast _ (hnumeric numeric hspec) hnumber] at hencoded
    split at hencoded
    · cases hencoded
    · rename_i hrange
      exact hsome (not_not.mp hrange)

/-! ## No two datapoints share a bit -/

/-- Which bit of the buffer bit `k` of the number of a datapoint is. -/
def ProductSchema.bitOf (schema : ProductSchema) (datapoint : Datapoint) (k : ℕ) : ℕ :=
  let position := datapoint.position
  match position.unit with
  | .byte => position.byteOffset * 8 + groupBit position.length k
  | .bit =>
      if position.byteOffset = 0 ∧ 1 < schema.bitGroupWidth then
        groupBit schema.bitGroupWidth (position.bitOffset + k)
      else position.byteOffset * 8 + position.bitOffset + k

theorem bitOf_rank {i : ℕ} (h : schema.occupies a i = true) :
    schema.rank a i < a.width ∧ schema.bitOf a (schema.rank a i) = i := by
  unfold ProductSchema.bitOf Datapoint.width
  dsimp only
  cases hunit : a.position.unit with
  | byte =>
      obtain ⟨hlo, hhi⟩ := (occupies_byte_iff hunit).mp h
      have hin : i - a.position.byteOffset * 8 < 8 * a.position.length := by omega
      rw [rank_byte hunit]
      dsimp only
      rw [groupBit_groupBit hin]
      exact ⟨groupBit_lt hin, by omega⟩
  | bit =>
      dsimp only
      by_cases hwidth : a.position.byteOffset = 0 ∧ 1 < schema.bitGroupWidth
      · obtain ⟨hin, hlo, hhi⟩ := (occupies_group_iff hunit hwidth).mp h
        rw [rank_group hunit hwidth, if_pos hwidth, Nat.add_sub_cancel' hlo, groupBit_groupBit hin]
        exact ⟨by omega, rfl⟩
      · obtain ⟨hlo, hhi⟩ := (occupies_single_iff hunit hwidth).mp h
        rw [rank_single hunit hwidth, if_neg hwidth]
        exact ⟨by omega, by omega⟩

/-- **No bit of a writable datapoint is a bit of another one.** -/
theorem known_exclusive (hknown : schema ∈ knownSchemas) (hmem : a ∈ schema.attributes)
    (hwritable : a.isWritable = true) : Exclusive schema a := by
  have hfacts : ∀ schema ∈ knownSchemas, ∀ a ∈ schema.attributes, a.isWritable = true →
      ∀ b ∈ schema.attributes, b.id ≠ a.id →
        ∀ k < a.width, schema.occupies b (schema.bitOf a k) = false := by
    decide +kernel
  intro b hb hne i hi
  have hid : b.id ≠ a.id := fun hid =>
    hne (congrArg Datapoint.name (List.inj_on_of_nodup_map schema.ids_unique hb hmem hid))
  obtain ⟨hrank, hself⟩ := bitOf_rank hi
  have hfree := hfacts schema hknown a hmem hwritable b hb hid _ hrank
  rwa [hself] at hfree

/-! ## The changes of a frame, one after the other -/

/-- The change names a writable datapoint, and its value is in range. -/
def Admissible (schema : ProductSchema) (change : String × Value) : Prop :=
  ∃ a ∈ schema.attributes, a.name = change.1 ∧ a.isWritable = true
    ∧ (a.wireNumber change.2).isSome = true

/-- The value asked of a writable datapoint is of its type. -/
def Typed (schema : ProductSchema) (change : String × Value) : Prop :=
  ∀ a ∈ schema.attributes, a.name = change.1 → a.isWritable = true → a.accepts change.2 = true

theorem byName_mem (hmem : a ∈ schema.attributes) : schema.byName a.name = .ok a := by
  unfold ProductSchema.byName
  cases hfind : schema.attributes.find? (fun b => decide (b.name = a.name)) with
  | none => exact absurd (List.find?_eq_none.mp hfind a hmem) (by simp)
  | some found =>
      have hname : found.name = a.name :=
        of_decide_eq_true (List.find?_some (p := fun b : Datapoint => decide (b.name = a.name)) hfind)
      have hsame := List.inj_on_of_nodup_map schema.names_unique (List.mem_of_find?_eq_some hfind)
        hmem hname
      rw [hsame]

/-- **The changes are placed exactly when every one of them is admissible.** -/
theorem placeChanges_ok_iff (hknown : schema ∈ knownSchemas) : ∀ {changes : List (String × Value)}
    {before : Bytes × Bytes}, Sized schema before → (∀ change ∈ changes, Typed schema change) →
      ((∃ after, placeChanges schema changes before = .ok after)
        ↔ ∀ change ∈ changes, Admissible schema change) := by
  intro changes
  induction changes with
  | nil => exact fun _ _ => ⟨fun _ _ h => absurd h List.not_mem_nil, fun _ => ⟨_, rfl⟩⟩
  | cons change changes ih =>
      intro before hsized htyped
      obtain ⟨name, requested⟩ := change
      have hwidth := known_width schema hknown
      have htypes : ∀ change ∈ changes, Typed schema change :=
        fun change h => htyped change (List.mem_cons_of_mem _ h)
      constructor
      · rintro ⟨after, h⟩
        obtain ⟨datapoint, values, hname, hwritable, hplace, hrest⟩ := placeChanges_cons h
        obtain ⟨hmem, rfl⟩ := byName_ok hname
        have haccepts := htyped _ (List.mem_cons_self ..) datapoint hmem rfl hwritable
        have hnumber :=
          wireNumber_of_placeValue (known_operable hknown hmem hwritable) haccepts hplace
        have hone := placed_one hwidth hsized hmem hwritable hplace
        have hothers := (ih (hone.sized hsized) htypes).mp ⟨after, hrest⟩
        exact List.forall_mem_cons.mpr ⟨⟨datapoint, hmem, rfl, hwritable, hnumber⟩, hothers⟩
      · intro h
        obtain ⟨⟨datapoint, hmem, hname, hwritable, hnumber⟩, hothers⟩ :=
          List.forall_mem_cons.mp h
        dsimp only at hname hnumber
        subst hname
        have haccepts := htyped _ (List.mem_cons_self ..) datapoint hmem rfl hwritable
        obtain ⟨number, hnumber⟩ := Option.isSome_iff_exists.mp hnumber
        have hstop := (schema.within_control datapoint hmem hwritable).2
        obtain ⟨values, hplace, _⟩ := placeValue_wireNumber
          (known_operable hknown hmem hwritable) haccepts hnumber
          (by rw [hsized.values]; exact hstop : datapoint.position.stop ≤ before.2.length)
        have hone := placed_one hwidth hsized hmem hwritable hplace
        obtain ⟨after, hrest⟩ := (ih (hone.sized hsized) htypes).mpr hothers
        refine ⟨after, ?_⟩
        rw [placeChanges, byName_mem hmem, PyError.bind_of_ok rfl,
          if_neg (not_not.mpr hwritable), hplace, PyError.bind_of_ok rfl]
        exact hrest

/-- **After the changes the values hold the number of every one of them.** -/
theorem placeChanges_holds (hknown : schema ∈ knownSchemas) : ∀ {changes : List (String × Value)}
    {before after : Bytes × Bytes}, Sized schema before → (∀ change ∈ changes, Typed schema change) →
      (changes.map Prod.fst).Nodup → placeChanges schema changes before = .ok after →
      ∀ a ∈ schema.attributes, ∀ v, (a.name, v) ∈ changes →
        a.accepts v = true ∧ a.isWritable = true
          ∧ ∃ n, a.wireNumber v = some n ∧ Holds schema after.2 a n := by
  intro changes
  induction changes with
  | nil => exact fun _ _ _ _ _ _ _ h => absurd h List.not_mem_nil
  | cons change changes ih =>
      intro before after hsized htyped hnodup h a ha v hv
      obtain ⟨name, requested⟩ := change
      have hwidth := known_width schema hknown
      obtain ⟨datapoint, values, hname, hwritable, hplace, hrest⟩ := placeChanges_cons h
      obtain ⟨hmem, rfl⟩ := byName_ok hname
      have hone := placed_one hwidth hsized hmem hwritable hplace
      rw [List.map_cons, List.nodup_cons] at hnodup
      rcases List.mem_cons.mp hv with heq | hv
      · -- placed here; the later changes name others, and those have other bits
        obtain ⟨hnames, rfl⟩ := Prod.mk.inj heq
        have hself := List.inj_on_of_nodup_map schema.names_unique ha hmem hnames
        subst hself
        have haccepts := htyped _ (List.mem_cons_self ..) a ha rfl hwritable
        have hop := known_operable hknown ha hwritable
        obtain ⟨n, hn⟩ := Option.isSome_iff_exists.mp (wireNumber_of_placeValue hop haccepts hplace)
        have hstop := (schema.within_control a ha hwritable).2
        obtain ⟨values', hplace', hheld⟩ := placeValue_wireNumber hop haccepts hn
          (by rw [hsized.values]; exact hstop : a.position.stop ≤ before.2.length)
        cases hplace.symm.trans hplace'
        refine ⟨haccepts, hwritable, n, hn, ?_⟩
        have hlater := placeChanges_placed hwidth changes (hone.sized hsized) hrest
        refine hheld.congr hlater.values ?_
        rintro i hi ⟨b, hb, hbname, hbi⟩
        have hne : b.name ≠ a.name := fun heq => hnodup.1 (heq ▸ hbname)
        rw [known_exclusive hknown ha hwritable b hb hne i hi] at hbi
        cases hbi
      · exact ih (hone.sized hsized) (fun change h => htyped change (List.mem_cons_of_mem _ h))
          hnodup.2 hrest a ha v hv

/-- **Where the changes stand in the mapping does not matter.** -/
theorem placeChanges_unique (hknown : schema ∈ knownSchemas) {changes changes' : List (String × Value)}
    {before after after' : Bytes × Bytes} (hsized : Sized schema before)
    (htyped : ∀ change ∈ changes, Typed schema change) (hnodup : (changes.map Prod.fst).Nodup)
    (hperm : changes'.Perm changes) (h : placeChanges schema changes before = .ok after)
    (h' : placeChanges schema changes' before = .ok after') : after' = after := by
  have hwidth := known_width schema hknown
  have hplaced := placeChanges_placed hwidth changes hsized h
  have hplaced' := placeChanges_placed hwidth changes' hsized h'
  have hnames : ∀ name, name ∈ changes'.map Prod.fst ↔ name ∈ changes.map Prod.fst :=
    fun name => (hperm.map Prod.fst).mem_iff
  have htyped' : ∀ change ∈ changes', Typed schema change :=
    fun change hmem => htyped change (hperm.mem_iff.mp hmem)
  have hnodup' : (changes'.map Prod.fst).Nodup := (hperm.map Prod.fst).nodup_iff.mpr hnodup
  refine Prod.ext ?_ ?_
  · refine eq_of_bits (hplaced'.flags_length.trans hplaced.flags_length.symm) (fun i => ?_)
    rw [Bool.eq_iff_iff, hplaced'.flags, hplaced.flags]
    simp only [hnames]
  · refine eq_of_bits (hplaced'.values.length.trans hplaced.values.length.symm) (fun i => ?_)
    by_cases hi : ∃ a ∈ schema.attributes, a.name ∈ changes.map Prod.fst
        ∧ schema.occupies a i = true
    · -- the bit of a change is the bit of its number in both
      obtain ⟨a, ha, hname, hi⟩ := hi
      obtain ⟨⟨name, v⟩, hv, rfl⟩ := List.mem_map.mp hname
      obtain ⟨_, _, n, hn, hheld⟩ := placeChanges_holds hknown hsized htyped hnodup h a ha v hv
      obtain ⟨_, _, n', hn', hheld'⟩ := placeChanges_holds hknown hsized htyped' hnodup' h' a ha v
        (hperm.mem_iff.mpr hv)
      cases hn.symm.trans hn'
      rw [hheld i hi, hheld' i hi]
    · have hi' : ¬ ∃ a ∈ schema.attributes, a.name ∈ changes'.map Prod.fst
          ∧ schema.occupies a i = true := by
        simp only [hnames]
        exact hi
      rw [hplaced.values.bits i hi, hplaced'.values.bits i hi']

/-! ## The payload -/

/-- The flags and the values of a frame that carries the changes. -/
structure FrameOf (schema : ProductSchema) (changes : Dict String Value) (flags values : Bytes) :
    Prop where
  flags_length : flags.length = schema.attributeFlagsSize
  values_length : values.length = schema.attributeValuesSize
  flagged : ∀ i, bit flags i = true ↔ ∃ a ∈ schema.attributes, a.id = i ∧ a.name ∈ changes.keys
  /-- Filled up to a status buffer, the values decode to what was asked for. -/
  decoded : ∃ status,
    schema.decodeStatus (values ++ zeros (schema.rawStatusSize - schema.attributeValuesSize))
      = .ok status
    ∧ ∀ name v, changes.get? name = some v →
      ∃ a ∈ schema.attributes, a.name = name ∧ status.get? name = some (a.shown v)
  silent : ∀ i, (∀ a ∈ schema.attributes, a.name ∈ changes.keys → schema.occupies a i = false) →
    bit values i = false

theorem known_sizes : ∀ schema ∈ knownSchemas,
    schema.attributeValuesSize ≤ schema.rawStatusSize := by
  decide

theorem zeros_sized (schema : ProductSchema) :
    Sized schema (zeros schema.attributeFlagsSize, zeros schema.attributeValuesSize) :=
  ⟨zeros_length _, zeros_length _⟩

/-- What the buffers of a frame are. -/
theorem placeChanges_frame (hknown : schema ∈ knownSchemas) {changes : Dict String Value}
    {flags values : Bytes} (htyped : ∀ change ∈ changes.entries, Typed schema change)
    (h : placeChanges schema changes.entries
      (zeros schema.attributeFlagsSize, zeros schema.attributeValuesSize) = .ok (flags, values)) :
    FrameOf schema changes flags values := by
  have hsized := zeros_sized schema
  have hplaced := placeChanges_placed (known_width schema hknown) changes.entries hsized h
  have hafter := hplaced.sized hsized
  refine ⟨hafter.flags, hafter.values, fun i => ?_, ?_, fun i hi => ?_⟩
  · rw [hplaced.flags, bit_zeros]
    exact ⟨fun h => h.resolve_left Bool.false_ne_true, Or.inr⟩
  · have hlen : (values ++ zeros (schema.rawStatusSize - schema.attributeValuesSize)).length
        = schema.rawStatusSize := by
      have := known_sizes schema hknown
      rw [List.length_append, zeros_length, hafter.values]
      omega
    refine ⟨_, decodeStatus_known hknown hlen, fun name v hv => ?_⟩
    -- the change was placed, so its name is a name of the schema
    have hmem := Dict.get?_eq_some_iff.mp hv
    obtain ⟨a, ha, hname, _, _⟩ :=
      (placeChanges_ok_iff hknown hsized htyped).mp ⟨_, h⟩ (name, v) hmem
    dsimp only at hname
    subst hname
    obtain ⟨haccepts, hwritable, n, hn, hheld⟩ :=
      placeChanges_holds hknown hsized htyped changes.nodup h a ha v hmem
    have hop := known_operable hknown ha hwritable
    have hfilled : Holds schema
        (values ++ zeros (schema.rawStatusSize - schema.attributeValuesSize)) a n :=
      fun i hi => (bit_append_zeros ..).trans (hheld i hi)
    have hfits : n < 2 ^ a.width := by
      have := lt_of_le_of_lt (wireNumber_range hop haccepts hn).2 hop.fits
      exact_mod_cast this
    have hgroup : schema.bitGroupWidth ≤ schema.rawStatusSize :=
      (known_width schema hknown).trans (known_sizes schema hknown)
    have hread := hfilled.readNumber hfits (by rw [hlen]; exact schema.within_status a ha)
      (by rw [hlen]; exact hgroup) hop.group
    refine ⟨a, ha, rfl, ?_⟩
    rw [Dict.get?_setAll_of_mem schema.names_unique ha, hread, interpret_wireNumber hop haccepts hn]
  · rw [hplaced.values.bits i, bit_zeros]
    rintro ⟨a, ha, hname, hai⟩
    exact Bool.false_ne_true ((hi a ha hname).symm.trans hai)

/-- **A control payload decodes to the request.** -/
theorem control_payload_round_trip (hknown : schema ∈ knownSchemas)
    (hcontrol : schema.controlSupported = true) {changes : Dict String Value}
    (htyped : ∀ change ∈ changes.entries, Typed schema change) :
    ((∃ payload, buildControlPayload schema changes = .ok payload)
        ↔ changes.entries ≠ [] ∧ ∀ change ∈ changes.entries, Admissible schema change)
      ∧ ∀ payload, buildControlPayload schema changes = .ok payload →
        (∃ flags values, payload = controlAction :: flags.reverse ++ values
          ∧ FrameOf schema changes flags values)
        ∧ ∀ changes' : Dict String Value, changes'.entries.Perm changes.entries →
          buildControlPayload schema changes' = .ok payload := by
  have hsized := zeros_sized schema
  refine ⟨⟨?_, ?_⟩, fun payload h => ⟨?_, fun changes' hperm => ?_⟩⟩
  · rintro ⟨payload, h⟩
    obtain ⟨_, flags, values, _, hplaced⟩ := buildControlPayload_ok h
    refine ⟨fun hempty => ?_, (placeChanges_ok_iff hknown hsized htyped).mp ⟨_, hplaced⟩⟩
    unfold buildControlPayload at h
    rw [if_neg (not_not.mpr hcontrol), if_pos hempty] at h
    cases h
  · rintro ⟨hsome, hadmissible⟩
    obtain ⟨buffers, hplaced⟩ := (placeChanges_ok_iff hknown hsized htyped).mpr hadmissible
    exact ⟨_, buildControlPayload_placed hcontrol hsome hplaced⟩
  · obtain ⟨_, flags, values, rfl, hplaced⟩ := buildControlPayload_ok h
    exact ⟨flags, values, rfl, placeChanges_frame hknown htyped hplaced⟩
  · obtain ⟨_, flags, values, rfl, hplaced⟩ := buildControlPayload_ok h
    have hsome : changes'.entries ≠ [] := by
      intro hempty
      rw [hempty, List.nil_perm] at hperm
      unfold buildControlPayload at h
      rw [if_neg (not_not.mpr hcontrol), if_pos hperm] at h
      cases h
    have htyped' : ∀ change ∈ changes'.entries, Typed schema change :=
      fun change hmem => htyped change (hperm.mem_iff.mp hmem)
    have hadmissible := (placeChanges_ok_iff hknown hsized htyped).mp ⟨_, hplaced⟩
    obtain ⟨buffers, hplaced'⟩ := (placeChanges_ok_iff hknown hsized htyped').mpr
      (fun change hmem => hadmissible change (hperm.mem_iff.mp hmem))
    have hsame := placeChanges_unique hknown hsized htyped changes.nodup hperm hplaced hplaced'
    rw [buildControlPayload_placed hcontrol hsome hplaced', hsame]

/-- The constant wave of a wavemaker at 55 percent. -/
def constantWave : Dict String Value where
  entries := [("SwitchON", .bool true), ("Mode", .str "constant"), ("Flow", .int 55)]
  nodup := by decide

theorem control_payload_round_trip_constantWave :
    (∃ payload, buildControlPayload localWavemaker constantWave = .ok payload)
      ∧ ∀ change ∈ constantWave.entries, Typed localWavemaker change := by
  have htyped : ∀ change ∈ constantWave.entries, Typed localWavemaker change := by
    unfold Typed
    decide +kernel
  refine ⟨?_, htyped⟩
  refine (control_payload_round_trip (by simp [knownSchemas]) rfl htyped).1.mpr ⟨by decide, ?_⟩
  unfold Admissible
  decide +kernel

end JebaoFlow
