import JebaoFlow.Proof.BitLayout
import JebaoFlow.Protocol.Profiles

/-!
# What a control payload carries

Every change of a payload sets the flag of its datapoint and writes the bits of
its position, and nothing else: a flag that is set names a change, a value bit
that is set belongs to a flagged datapoint. A number that is a byte of its own
reads back as the requested number.
-/

namespace JebaoFlow

open Bytes

variable {schema : ProductSchema}

/-! ## The bits of a datapoint -/

/-- Value bit `i` belongs to the datapoint. -/
def ProductSchema.occupies (schema : ProductSchema) (datapoint : Datapoint) (i : ℕ) : Bool :=
  let position := datapoint.position
  match position.unit with
  | .byte => decide (position.byteOffset * 8 ≤ i ∧ i < (position.byteOffset + position.length) * 8)
  | .bit =>
      if position.byteOffset = 0 ∧ 1 < schema.bitGroupWidth then
        decide (i < 8 * schema.bitGroupWidth ∧ position.bitOffset ≤ groupBit schema.bitGroupWidth i
          ∧ groupBit schema.bitGroupWidth i < position.bitOffset + position.length)
      else
        decide (position.byteOffset * 8 + position.bitOffset ≤ i
          ∧ i < position.byteOffset * 8 + position.bitOffset + position.length)

section Occupies

variable {datapoint : Datapoint} {i : ℕ}

theorem occupies_byte_iff (hunit : datapoint.position.unit = .byte) :
    schema.occupies datapoint i = true ↔ datapoint.position.byteOffset * 8 ≤ i
      ∧ i < (datapoint.position.byteOffset + datapoint.position.length) * 8 := by
  unfold ProductSchema.occupies
  dsimp only
  rw [hunit]
  exact decide_eq_true_iff

theorem occupies_group_iff (hunit : datapoint.position.unit = .bit)
    (hwidth : datapoint.position.byteOffset = 0 ∧ 1 < schema.bitGroupWidth) :
    schema.occupies datapoint i = true ↔ i < 8 * schema.bitGroupWidth
      ∧ datapoint.position.bitOffset ≤ groupBit schema.bitGroupWidth i
      ∧ groupBit schema.bitGroupWidth i
        < datapoint.position.bitOffset + datapoint.position.length := by
  unfold ProductSchema.occupies
  dsimp only
  rw [hunit]
  dsimp only
  rw [if_pos hwidth]
  exact decide_eq_true_iff

theorem occupies_single_iff (hunit : datapoint.position.unit = .bit)
    (hplain : ¬ (datapoint.position.byteOffset = 0 ∧ 1 < schema.bitGroupWidth)) :
    schema.occupies datapoint i = true
      ↔ datapoint.position.byteOffset * 8 + datapoint.position.bitOffset ≤ i
        ∧ i < datapoint.position.byteOffset * 8 + datapoint.position.bitOffset
          + datapoint.position.length := by
  unfold ProductSchema.occupies
  dsimp only
  rw [hunit]
  dsimp only
  rw [if_neg hplain]
  exact decide_eq_true_iff

end Occupies

/-- Buffers of one length that differ at most in the bits of a set. -/
structure AgreeOutside (inside : ℕ → Prop) (a b : Bytes) : Prop where
  length : b.length = a.length
  bits : ∀ i, ¬ inside i → bit b i = bit a i

theorem AgreeOutside.refl (inside : ℕ → Prop) (a : Bytes) : AgreeOutside inside a a :=
  ⟨rfl, fun _ _ => rfl⟩

theorem AgreeOutside.trans {inside : ℕ → Prop} {a b c : Bytes} (hab : AgreeOutside inside a b)
    (hbc : AgreeOutside inside b c) : AgreeOutside inside a c :=
  ⟨hbc.length.trans hab.length, fun i hi => (hbc.bits i hi).trans (hab.bits i hi)⟩

theorem AgreeOutside.mono {inside inside' : ℕ → Prop} {a b : Bytes} (h : AgreeOutside inside a b)
    (hsub : ∀ i, inside i → inside' i) : AgreeOutside inside' a b :=
  ⟨h.length, fun i hi => h.bits i (fun hc => hi (hsub i hc))⟩

/-- Writing bits one by one. -/
theorem placeSingleBits_agree (byteOffset bitOffset value : ℕ) : ∀ (indexes : List ℕ)
    (destination : Bytes), AgreeOutside
      (fun i => ∃ index ∈ indexes, i = byteOffset * 8 + bitOffset + index) destination
      (indexes.foldl (fun bytes index => setBit bytes (byteOffset + (bitOffset + index) / 8)
        ((bitOffset + index) % 8) (value.testBit index)) destination)
  | [], destination => .refl _ destination
  | index :: indexes, destination => by
      have hone : AgreeOutside
          (fun i => ∃ index' ∈ index :: indexes, i = byteOffset * 8 + bitOffset + index')
          destination (setBit destination (byteOffset + (bitOffset + index) / 8)
            ((bitOffset + index) % 8) (value.testBit index)) := by
        refine ⟨setBit_length .., fun i hi => bit_setBit_of_ne (Nat.mod_lt _ (by decide)) _ ?_⟩
        intro hself
        exact hi ⟨index, List.mem_cons_self .., by omega⟩
      refine hone.trans ((placeSingleBits_agree byteOffset bitOffset value indexes _).mono ?_)
      exact fun i ⟨index', hmem, hi⟩ => ⟨index', List.mem_cons_of_mem _ hmem, hi⟩

theorem placeBits_agree {destination written : Bytes} {datapoint : Datapoint} {value : ℕ}
    (hunit : datapoint.position.unit = .bit)
    (hgroup : schema.bitGroupWidth ≤ destination.length)
    (h : placeBits schema destination datapoint.position.byteOffset datapoint.position.bitOffset
      datapoint.position.length value = .ok written) :
    AgreeOutside (fun i => schema.occupies datapoint i = true) destination written := by
  by_cases hwidth : schema.grouped datapoint.position.byteOffset
  · obtain ⟨hlen, hbehind⟩ := placeGroup_behind hwidth hgroup h
    refine ⟨hlen, fun i hi => ?_⟩
    rw [occupies_group_iff hunit hwidth] at hi
    by_cases hin : i < 8 * schema.bitGroupWidth
    · -- a bit of the group that the mask leaves out
      rw [bit_placeGroup hwidth h hin, if_neg (fun hfield => hi ⟨hin, hfield⟩),
        testBit_front hgroup (groupBit_lt hin), groupBit_groupBit hin]
    · exact hbehind i (not_lt.mp hin)
  · unfold placeBits at h
    rw [if_neg hwidth] at h
    cases h
    refine (placeSingleBits_agree _ _ value _ destination).mono ?_
    rintro i ⟨index, hmem, rfl⟩
    have := List.mem_range.mp hmem
    rw [occupies_single_iff hunit hwidth]
    omega

/-- The bytes of a number, and the number they are of. -/
theorem encodeNumber_ok {datapoint : Datapoint} {numeric : NumericSpec} {requested : Value}
    {length : ℕ} {bytes : Bytes}
    (h : encodeNumber datapoint numeric requested length = .ok bytes) :
    ∃ number, requestedNumber datapoint requested = .ok number
      ∧ 0 ≤ pyRound ((number - numeric.addition) / numeric.ratio)
      ∧ toBytesBig length (pyRound ((number - numeric.addition) / numeric.ratio)).toNat
        = .ok bytes := by
  unfold encodeNumber at h
  obtain ⟨number, hnumber, h⟩ := PyError.bind_eq_ok h
  dsimp only at h
  split at h
  · cases h
  · split at h
    · cases h
    · split at h
      · cases h
      · rename_i hnonneg
        exact ⟨number, hnumber, not_lt.mp hnonneg, h⟩

/-- **Placing a value writes the bits of its datapoint and no others.** -/
theorem placeValue_agree {destination written : Bytes} {datapoint : Datapoint} {requested : Value}
    (hstop : datapoint.position.stop ≤ destination.length)
    (hgroup : schema.bitGroupWidth ≤ destination.length)
    (h : placeValue schema destination datapoint requested = .ok written) :
    AgreeOutside (fun i => schema.occupies datapoint i = true) destination written := by
  unfold placeValue at h
  dsimp only at h
  cases hunit : datapoint.position.unit with
  | bit =>
      rw [hunit] at h
      obtain ⟨rawValue, _, h⟩ := PyError.bind_eq_ok h
      split at h
      · exact placeBits_agree hunit hgroup h
      · cases h
  | byte =>
      -- binary values and numbers both replace the bytes of the datapoint
      have hpatch : ∀ chunk : Bytes, chunk.length = datapoint.position.length →
          AgreeOutside (fun i => schema.occupies datapoint i = true) destination
            (patch destination datapoint.position.byteOffset datapoint.position.length chunk) := by
        intro chunk hchunk
        unfold Position.stop at hstop
        rw [hunit] at hstop
        refine ⟨patch_length hchunk hstop, fun i hi => bit_patch_of_out hchunk hstop ?_⟩
        rw [occupies_byte_iff hunit] at hi
        omega
      rw [hunit] at h
      dsimp only at h
      split at h
      · obtain ⟨rawBytes, _, h⟩ := PyError.bind_eq_ok h
        split at h
        · cases h
        · rename_i hlen
          cases h
          exact hpatch rawBytes (not_not.mp hlen)
      · cases h
      · cases h
      · split at h
        · cases h
        · obtain ⟨rawBytes, hnumber, h⟩ := PyError.bind_eq_ok h
          cases h
          obtain ⟨number, _, _, hbytes⟩ := encodeNumber_ok hnumber
          exact hpatch rawBytes (toBytesBig_length hbytes)

/-! ## The changes of a frame -/

/-- The datapoint behind a name. -/
theorem byName_ok {name : String} {datapoint : Datapoint} (h : schema.byName name = .ok datapoint) :
    datapoint ∈ schema.attributes ∧ datapoint.name = name := by
  unfold ProductSchema.byName at h
  split at h
  · rename_i found hfind
    cases h
    have hname : decide (datapoint.name = name) = true :=
      List.find?_some (p := fun a : Datapoint => decide (a.name = name)) hfind
    exact ⟨List.mem_of_find?_eq_some hfind, of_decide_eq_true hname⟩
  · cases h

/-- The buffers hold the changes: their flags are set, and only their bits differ. -/
structure Placed (schema : ProductSchema) (names : List String) (before after : Bytes × Bytes) :
    Prop where
  flags_length : after.1.length = before.1.length
  flags : ∀ i, bit after.1 i = true ↔ bit before.1 i = true
    ∨ ∃ a ∈ schema.attributes, a.id = i ∧ a.name ∈ names
  values : AgreeOutside
    (fun i => ∃ a ∈ schema.attributes, a.name ∈ names ∧ schema.occupies a i = true)
    before.2 after.2

/-- One change: its datapoint is flagged, and its value is placed. -/
theorem placeChanges_cons {name : String} {requested : Value} {changes : List (String × Value)}
    {before after : Bytes × Bytes}
    (h : placeChanges schema ((name, requested) :: changes) before = .ok after) :
    ∃ datapoint values, schema.byName name = .ok datapoint ∧ datapoint.isWritable = true
      ∧ placeValue schema before.2 datapoint requested = .ok values
      ∧ placeChanges schema changes
        (setBit before.1 (datapoint.id / 8) (datapoint.id % 8) true, values) = .ok after := by
  rw [placeChanges] at h
  obtain ⟨datapoint, hname, h⟩ := PyError.bind_eq_ok h
  split at h
  · cases h
  · rename_i hwritable
    obtain ⟨values, hplace, h⟩ := PyError.bind_eq_ok h
    exact ⟨datapoint, values, hname, not_not.mp hwritable, hplace, h⟩

/-- The buffers have the sizes of the schema. -/
structure Sized (schema : ProductSchema) (buffers : Bytes × Bytes) : Prop where
  flags : buffers.1.length = schema.attributeFlagsSize
  values : buffers.2.length = schema.attributeValuesSize

theorem placed_one {datapoint : Datapoint} {requested : Value} {before : Bytes × Bytes}
    {values : Bytes} (hwidth : schema.bitGroupWidth ≤ schema.attributeValuesSize)
    (hsized : Sized schema before) (hmem : datapoint ∈ schema.attributes)
    (hwritable : datapoint.isWritable = true)
    (h : placeValue schema before.2 datapoint requested = .ok values) :
    Placed schema [datapoint.name] before
      (setBit before.1 (datapoint.id / 8) (datapoint.id % 8) true, values) := by
  obtain ⟨hid, hstop⟩ := schema.within_control datapoint hmem hwritable
  have hself : datapoint.id / 8 * 8 + datapoint.id % 8 = datapoint.id := by omega
  refine ⟨setBit_length .., fun i => ?_, ?_⟩
  · by_cases hi : i = datapoint.id
    · refine iff_of_true ?_ (Or.inr ⟨datapoint, hmem, hi.symm, List.mem_singleton_self _⟩)
      have hset := bit_setBit_self (Nat.mod_lt datapoint.id (by decide)) true
        (by rw [hsized.flags]; omega : datapoint.id / 8 < before.1.length)
      rw [hself] at hset
      rw [hi]
      exact hset
    · have hsame : bit (setBit before.1 (datapoint.id / 8) (datapoint.id % 8) true) i
          = bit before.1 i := bit_setBit_of_ne (Nat.mod_lt _ (by decide)) _ (by omega)
      show bit (setBit _ _ _ _) i = true ↔ _
      rw [hsame]
      refine ⟨Or.inl, ?_⟩
      rintro (hbefore | ⟨a, ha, rfl, hname⟩)
      · exact hbefore
      · -- names are unique, so the flag would be the datapoint's own
        have hsame := List.inj_on_of_nodup_map schema.names_unique ha hmem (List.mem_singleton.mp hname)
        exact absurd (congrArg Datapoint.id hsame) hi
  · have hagree := placeValue_agree (by rw [hsized.values]; exact hstop)
      (by rw [hsized.values]; exact hwidth) h
    exact hagree.mono (fun i hi => ⟨datapoint, hmem, List.mem_singleton_self _, hi⟩)

theorem Placed.trans {names names' : List String} {a b c : Bytes × Bytes}
    (hab : Placed schema names a b) (hbc : Placed schema names' b c) :
    Placed schema (names ++ names') a c := by
  refine ⟨hbc.flags_length.trans hab.flags_length, fun i => ?_, ?_⟩
  · rw [hbc.flags, hab.flags]
    constructor
    · rintro ((h | ⟨a, ha, hi, hn⟩) | ⟨a, ha, hi, hn⟩)
      · exact Or.inl h
      · exact Or.inr ⟨a, ha, hi, List.mem_append_left _ hn⟩
      · exact Or.inr ⟨a, ha, hi, List.mem_append_right _ hn⟩
    · rintro (h | ⟨a, ha, hi, hn⟩)
      · exact Or.inl (Or.inl h)
      · rcases List.mem_append.mp hn with hn | hn
        · exact Or.inl (Or.inr ⟨a, ha, hi, hn⟩)
        · exact Or.inr ⟨a, ha, hi, hn⟩
  · refine (hab.values.mono ?_).trans (hbc.values.mono ?_)
    · exact fun i ⟨a, ha, hn, hi⟩ => ⟨a, ha, List.mem_append_left _ hn, hi⟩
    · exact fun i ⟨a, ha, hn, hi⟩ => ⟨a, ha, List.mem_append_right _ hn, hi⟩

theorem Placed.sized {names : List String} {before after : Bytes × Bytes}
    (h : Placed schema names before after) (hsized : Sized schema before) : Sized schema after :=
  ⟨h.flags_length.trans hsized.flags, h.values.length.trans hsized.values⟩

/-- **The buffers of a frame hold its changes and nothing else.** -/
theorem placeChanges_placed (hwidth : schema.bitGroupWidth ≤ schema.attributeValuesSize) :
    ∀ (changes : List (String × Value)) {before after : Bytes × Bytes}, Sized schema before →
      placeChanges schema changes before = .ok after →
      Placed schema (changes.map Prod.fst) before after := by
  intro changes
  induction changes with
  | nil =>
      intro before after _ h
      rw [placeChanges] at h
      cases h
      refine ⟨rfl, fun i => ⟨Or.inl, ?_⟩, .refl _ _⟩
      rintro (h | ⟨_, _, _, hmem⟩)
      · exact h
      · cases hmem
  | cons change changes ih =>
      intro before after hsized h
      obtain ⟨name, requested⟩ := change
      obtain ⟨datapoint, values, hname, hwritable, hplace, hrest⟩ := placeChanges_cons h
      obtain ⟨hmem, rfl⟩ := byName_ok hname
      have hone := placed_one hwidth hsized hmem hwritable hplace
      exact hone.trans (ih (hone.sized hsized) hrest)

/-! ## Numbers -/

/-- A datapoint whose byte is the requested number itself. -/
structure PlainNumber (datapoint : Datapoint) : Prop where
  unit : datapoint.position.unit = .byte
  dataType : datapoint.dataType = .uint8
  labels : datapoint.enumValues = []
  numeric : ∀ numeric ∈ datapoint.numeric, numeric.addition = 0 ∧ numeric.ratio = 1

theorem pyRound_intCast (i : ℤ) : pyRound i = i := by
  unfold pyRound
  dsimp only
  rw [Int.floor_intCast, sub_self, if_pos (by norm_num)]

/-- A number placed reads back as itself. -/
theorem decodeAttribute_placed {destination written : Bytes} {datapoint : Datapoint} {number : ℤ}
    (hplain : PlainNumber datapoint) (hstop : datapoint.position.stop ≤ destination.length)
    (h : placeValue schema destination datapoint (.int number) = .ok written) :
    schema.decodeAttribute written datapoint = .ok (.int number) := by
  obtain ⟨hunit, htype, hlabels, hnumeric⟩ := hplain
  unfold Position.stop at hstop
  rw [hunit] at hstop
  unfold placeValue at h
  unfold ProductSchema.decodeAttribute
  dsimp only at h ⊢
  rw [hunit] at h ⊢
  rw [htype] at h ⊢
  dsimp only at h ⊢
  cases hspec : datapoint.numeric with
  | none =>
      rw [hspec] at h
      cases h
  | some numeric =>
      rw [hspec] at h
      obtain ⟨rawBytes, hencoded, h⟩ := PyError.bind_eq_ok h
      cases h
      obtain ⟨number', hrequested, hnonneg, hbytes⟩ := encodeNumber_ok hencoded
      cases hrequested
      obtain ⟨haddition, hratio⟩ := hnumeric numeric hspec
      rw [haddition, hratio, Int.cast_zero, Int.cast_one, sub_zero, div_one,
        pyRound_intCast] at hbytes hnonneg
      -- no offset and no scale: the number on the wire is the number
      have hread := fromBytesBig_toBytesBig hbytes
      simp only [reduceCtorEq, if_false, or_self]
      rw [slice_patch (toBytesBig_length hbytes) hstop, hread, hlabels, haddition, hratio]
      show Except.ok (Value.int ((number.toNat : ℤ) * 1 + 0)) = _
      rw [Int.toNat_of_nonneg hnonneg, mul_one, add_zero]

/-- What is written elsewhere does not change what a byte datapoint reads. -/
theorem decodeAttribute_congr {inside : ℕ → Prop} {a b : Bytes} {datapoint : Datapoint}
    (hunit : datapoint.position.unit = .byte) (h : AgreeOutside inside a b)
    (hout : ∀ i, schema.occupies datapoint i = true → ¬ inside i) :
    schema.decodeAttribute b datapoint = schema.decodeAttribute a datapoint := by
  have hslice : slice b datapoint.position.byteOffset datapoint.position.length
      = slice a datapoint.position.byteOffset datapoint.position.length :=
    slice_eq_of_bits h.length (fun i hlo hhi =>
      h.bits i (hout i ((occupies_byte_iff hunit).mpr ⟨hlo, hhi⟩)))
  unfold ProductSchema.decodeAttribute
  dsimp only
  rw [hunit]
  dsimp only
  rw [hslice]

/-- No other datapoint writes a bit of this one. -/
def Exclusive (schema : ProductSchema) (datapoint : Datapoint) : Prop :=
  ∀ b ∈ schema.attributes, b.name ≠ datapoint.name →
    ∀ i, schema.occupies datapoint i = true → schema.occupies b i = false

/-- **A number among the changes of a frame can be read off the frame.** -/
theorem placeChanges_number (hwidth : schema.bitGroupWidth ≤ schema.attributeValuesSize)
    {datapoint : Datapoint} (hmem : datapoint ∈ schema.attributes) (hplain : PlainNumber datapoint)
    (hexclusive : Exclusive schema datapoint) {number : ℤ} :
    ∀ (changes : List (String × Value)) {before after : Bytes × Bytes}, Sized schema before →
      (changes.map Prod.fst).Nodup → (datapoint.name, .int number) ∈ changes →
      placeChanges schema changes before = .ok after →
      schema.decodeAttribute after.2 datapoint = .ok (.int number) := by
  intro changes
  induction changes with
  | nil => exact fun _ _ hin _ => absurd hin List.not_mem_nil
  | cons change changes ih =>
      intro before after hsized hnodup hin h
      obtain ⟨name, requested⟩ := change
      obtain ⟨placed, values, hname, hwritable, hplace, hrest⟩ := placeChanges_cons h
      obtain ⟨hplaced, rfl⟩ := byName_ok hname
      have hone := placed_one hwidth hsized hplaced hwritable hplace
      rw [List.map_cons, List.nodup_cons] at hnodup
      rcases List.mem_cons.mp hin with heq | hin
      · -- the datapoint is placed here, and the later changes name others
        obtain ⟨hnames, hvalue⟩ := Prod.mk.inj heq
        have hself := List.inj_on_of_nodup_map schema.names_unique hmem hplaced hnames
        subst hself
        subst hvalue
        have hlater := placeChanges_placed hwidth changes (hone.sized hsized) hrest
        rw [decodeAttribute_congr hplain.unit hlater.values ?_]
        · have hstop := (schema.within_control datapoint hmem hwritable).2
          exact decodeAttribute_placed hplain (by rw [hsized.values]; exact hstop) hplace
        · rintro i hi ⟨b, hb, hbname, hbi⟩
          have hne : b.name ≠ datapoint.name := fun heq => hnodup.1 (heq ▸ hbname)
          rw [hexclusive b hb hne i hi] at hbi
          cases hbi
      · exact ih (hone.sized hsized) hnodup.2 hin hrest

/-- A payload is its action, the flags from the last byte to the first, and the values. -/
theorem buildControlPayload_ok {changes : Dict String Value} {payload : Bytes}
    (h : buildControlPayload schema changes = .ok payload) :
    schema.controlSupported = true ∧ ∃ flags values, payload = controlAction :: flags.reverse ++ values
      ∧ placeChanges schema changes.entries
        (zeros schema.attributeFlagsSize, zeros schema.attributeValuesSize) = .ok (flags, values) := by
  unfold buildControlPayload at h
  split at h
  · cases h
  · rename_i hcontrol
    split at h
    · cases h
    · obtain ⟨⟨flags, values⟩, hplaced, h⟩ := PyError.bind_eq_ok h
      cases h
      exact ⟨not_not.mp hcontrol, flags, values, rfl, hplaced⟩

/-- And a product that is controlled puts them together so. -/
theorem buildControlPayload_placed {changes : Dict String Value} {buffers : Bytes × Bytes}
    (hcontrol : schema.controlSupported = true) (hsome : changes.entries ≠ [])
    (h : placeChanges schema changes.entries
      (zeros schema.attributeFlagsSize, zeros schema.attributeValuesSize) = .ok buffers) :
    buildControlPayload schema changes = .ok (controlAction :: buffers.1.reverse ++ buffers.2) := by
  unfold buildControlPayload
  rw [if_neg (not_not.mpr hcontrol), if_neg hsome, h]
  rfl

/-! ## The known products -/

theorem known_width : ∀ schema ∈ knownSchemas, schema.bitGroupWidth ≤ schema.attributeValuesSize := by
  decide

/-- The power of every product is a byte of its own that holds the number itself. -/
theorem known_power : ∀ schema ∈ knownSchemas, ∀ a ∈ schema.attributes,
    schema.powerAttribute = some a.name → a.position.unit = .byte ∧ a.dataType = .uint8
      ∧ a.enumValues = [] ∧ ∀ numeric ∈ a.numeric, numeric.addition = 0 ∧ numeric.ratio = 1 := by
  decide +kernel

theorem known_power_bits : ∀ schema ∈ knownSchemas, ∀ a ∈ schema.attributes,
    schema.powerAttribute = some a.name → ∀ b ∈ schema.attributes, b.name ≠ a.name →
      ∀ k < 8 * a.position.length, schema.occupies b (a.position.byteOffset * 8 + k) = false := by
  decide +kernel

/-- No other logical name of a product stands for its power. -/
theorem known_power_name : ∀ schema ∈ knownSchemas, ∀ name ∈ schema.powerAttribute,
    schema.enabledAttribute ≠ some name ∧ schema.modeAttribute ≠ some name
      ∧ schema.frequencyAttribute ≠ some name := by
  decide +kernel

theorem known_power_plain (hknown : schema ∈ knownSchemas) {a : Datapoint}
    (hmem : a ∈ schema.attributes) (hpower : schema.powerAttribute = some a.name) :
    PlainNumber a ∧ Exclusive schema a := by
  obtain ⟨hunit, htype, hlabels, hnumeric⟩ := known_power schema hknown a hmem hpower
  refine ⟨⟨hunit, htype, hlabels, hnumeric⟩, fun b hb hne i hi => ?_⟩
  obtain ⟨hlo, hhi⟩ := (occupies_byte_iff hunit).mp hi
  have hfree := known_power_bits schema hknown a hmem hpower b hb hne
    (i - a.position.byteOffset * 8) (by omega)
  rwa [Nat.add_sub_cancel' hlo] at hfree

end JebaoFlow
