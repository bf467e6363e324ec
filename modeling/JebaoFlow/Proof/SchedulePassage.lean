import JebaoFlow.Proof.ScheduleSanitizer
import JebaoFlow.Proof.ScheduleSlots

/-!
# A decoded schedule reaches Home Assistant as it is

The daemon writes a decoded schedule as JSON and the sensor of the integration filters what
it finds there. The two were written apart, so everything the decoder can produce has to be
what the filter lets through: its times, the names of its modes and parameters, the kinds of
their values, and how many there are of each.
-/

namespace JebaoFlow

open Bytes HomeAssistant

/-! ## The payload -/

/-- The JSON behind a scalar; a number that JSON cannot write is null. -/
def Scalar.json : Scalar → Json
  | .null => .null
  | .bool b => .bool b
  | .int i => .int i
  | .float x => if x.isFinite then .float x else .null
  | .str s => .str (PyStr.ofString s)

/-- The parameters of a slot as the host has them, key by key. -/
def ScheduleEntry.jsonParameters (entry : ScheduleEntry) : List (PyStr × Json) :=
  entry.parameters.entries.map (fun e => (PyStr.ofString e.1, e.2.json))

/-- The JSON object of an entry, parsed. -/
def ScheduleEntry.json (entry : ScheduleEntry) : List (PyStr × Json) :=
  [(PyStr.ofString "slot", .int entry.slot),
    (PyStr.ofString "start", .str (PyStr.ofString entry.start)),
    (PyStr.ofString "end", .str (PyStr.ofString entry.end)),
    (PyStr.ofString "mode", .str (PyStr.ofString entry.mode)),
    (PyStr.ofString "mode_code", .int entry.modeCode),
    (PyStr.ofString "parameters", .dict entry.jsonParameters)]

/-- The JSON object of a schedule, parsed, with the clock of the device in the given notation. -/
def DeviceSchedule.json (isoformat : Datetime → PyStr) (schedule : DeviceSchedule) :
    List (PyStr × Json) :=
  [(PyStr.ofString "enabled", .bool schedule.enabled),
    (PyStr.ofString "device_local_time",
      schedule.deviceLocalTime.elim .null (fun moment => .str (isoformat moment))),
    (PyStr.ofString "slot_capacity", .int slotCapacity),
    (PyStr.ofString "entries", .list (schedule.entries.map (fun entry => .dict entry.json))),
    (PyStr.ofString "invalid_slots",
      .list (schedule.invalidSlots.map (fun slot : Fin 48 => .int (slot : ℕ))))]

theorem ofChar_injective : Function.Injective PyStr.ofChar := by
  intro a b h
  have hval : (PyStr.ofChar a).val = (PyStr.ofChar b).val := by rw [h]
  exact Char.ext (UInt32.toNat_inj.mp hval)

theorem ofString_injective : Function.Injective PyStr.ofString := fun _ _ h =>
  String.toList_inj.mp (List.map_injective_iff.mpr ofChar_injective h)

theorem ScheduleEntry.jsonParameters_nodup (entry : ScheduleEntry) :
    (entry.jsonParameters.map Prod.fst).Nodup := by
  have hkeys : entry.jsonParameters.map Prod.fst
      = (entry.parameters.entries.map Prod.fst).map PyStr.ofString := by
    unfold ScheduleEntry.jsonParameters
    rw [List.map_map, List.map_map]
    rfl
  rw [hkeys]
  exact entry.parameters.nodup.map ofString_injective

/-- The entry, unchanged, as the sensor shows entries. -/
def ScheduleEntry.shown (entry : ScheduleEntry) : ShownEntry where
  slot := entry.slot
  start := PyStr.ofString entry.start
  «end» := PyStr.ofString entry.end
  mode := PyStr.ofString entry.mode
  modeCode := entry.modeCode
  parameters := ⟨entry.jsonParameters, entry.jsonParameters_nodup⟩

/-! ## Times -/

theorem twoDecimals_ofChar {a b : Char} (ha : 48 ≤ a.toNat ∧ a.toNat ≤ 57)
    (hb : 48 ≤ b.toNat ∧ b.toNat ≤ 57) : twoDecimals (PyStr.ofChar a) (PyStr.ofChar b)
      = some ((a.toNat - 48) * 10 + (b.toNat - 48)) := by
  unfold twoDecimals
  rw [PyStr.decimal?_ascii ha, PyStr.decimal?_ascii hb]
  rfl

theorem toNat_le {a b : Char} (h : a ≤ b) : a.toNat ≤ b.toNat := UInt32.le_iff_toNat_le.mp h

theorem digit_range {c : Char} (h : c.isDigit = true) : 48 ≤ c.toNat ∧ c.toNat ≤ 57 := by
  unfold Char.isDigit at h
  rw [Bool.and_eq_true, decide_eq_true_iff, decide_eq_true_iff] at h
  exact ⟨UInt32.le_iff_toNat_le.mp h.1, UInt32.le_iff_toNat_le.mp h.2⟩

/-- What the pattern of a start time lets through, the sensor reads. -/
theorem isStartTime_readable {text : String} (h : isStartTime text = true) :
    Readable (.str (PyStr.ofString text)) := by
  unfold isStartTime at h
  split at h
  · rename_i a b c d hchars
    rw [decide_eq_true_iff] at h
    obtain ⟨hhour, hc, hc', hd⟩ := h
    have hd := digit_range hd
    have hc : 48 ≤ c.toNat ∧ c.toNat ≤ 53 := ⟨toNat_le hc, toNat_le hc'⟩
    have hab : (48 ≤ a.toNat ∧ a.toNat ≤ 57) ∧ (48 ≤ b.toNat ∧ b.toNat ≤ 57)
        ∧ (a.toNat - 48) * 10 + (b.toNat - 48) < 24 := by
      rcases hhour with ⟨rfl | rfl, hb⟩ | ⟨rfl, hb, hb'⟩
      · have hb := digit_range hb
        exact ⟨by decide, hb, show (48 - 48) * 10 + (b.toNat - 48) < 24 by omega⟩
      · have hb := digit_range hb
        exact ⟨by decide, hb, show (49 - 48) * 10 + (b.toNat - 48) < 24 by omega⟩
      · have hb : 48 ≤ b.toNat ∧ b.toNat ≤ 51 := ⟨toNat_le hb, toNat_le hb'⟩
        exact ⟨by decide, by omega, show (50 - 48) * 10 + (b.toNat - 48) < 24 by omega⟩
    refine Or.inr ⟨PyStr.ofChar a, PyStr.ofChar b, PyStr.ofChar c, PyStr.ofChar d, _, _, ?_,
      twoDecimals_ofChar hab.1 hab.2.1, twoDecimals_ofChar (by omega) hd, hab.2.2, by omega⟩
    unfold PyStr.ofString
    rw [hchars]
    rfl
  · cases h

theorem isEndTime_readable {text : String} (h : isEndTime text = true) :
    Readable (.str (PyStr.ofString text)) := by
  unfold isEndTime at h
  rw [Bool.or_eq_true, beq_iff_eq] at h
  rcases h with h | rfl
  · exact isStartTime_readable h
  · exact Or.inl rfl

/-! ## Modes -/

/-- A text that is not blank, has no blanks around it and is not too long. -/
structure Trimmed (text : PyStr) : Prop where
  nonempty : PyStr.strip text ≠ []
  stays : (PyStr.strip text).take 64 = text

instance (text : PyStr) : Decidable (Trimmed text) :=
  decidable_of_iff (PyStr.strip text ≠ [] ∧ (PyStr.strip text).take 64 = text)
    ⟨fun h => ⟨h.1, h.2⟩, fun h => ⟨h.1, h.2⟩⟩

variable {productKey : String} {spec : ScheduleSpec} {raw : Bytes}

/-- **Every mode of every table passes the sensor.** -/
theorem modes_trimmed (hspec : (productKey, spec) ∈ scheduleSpecs) :
    ∀ mode ∈ spec.modes, Trimmed (PyStr.ofString mode) := by
  have htables : ∀ entry ∈ scheduleSpecs, ∀ mode ∈ entry.2.modes, Trimmed (PyStr.ofString mode) := by
    decide +kernel
  exact htables _ hspec

/-! ## Parameters -/

/-- The names of the parameters of all products. -/
def allParameterNames : List String :=
  ["flow", "frequency", "feed_time", "pulse_tide", "custom_frequency", "gears"]

/-- The parameters are among the known ones, and are numbers and switches. -/
def PlainParameters (parameters : Dict String Scalar) : Prop :=
  ∀ name value, parameters.get? name = some value →
    name ∈ allParameterNames ∧ ((∃ b, value = .bool b) ∨ ∃ i, value = .int i)

theorem namedBytes_plain {slot : Bytes} {fields : List (String × ℕ)} {parameters : Dict String Scalar}
    (hnames : ∀ field ∈ fields, field.1 ∈ allParameterNames)
    (h : namedBytes slot fields = .ok parameters) : PlainParameters parameters := by
  intro name value hget
  rcases Dict.collect_inv h hget with hempty | ⟨field, hfield, rfl, hbyte⟩
  · cases hempty
  · refine ⟨hnames field hfield, Or.inr ?_⟩
    cases hread : byteAt slot field.2 with
    | error e =>
        rw [hread] at hbyte
        cases hbyte
    | ok b =>
        rw [hread] at hbyte
        cases hbyte
        exact ⟨b, rfl⟩

theorem PlainParameters.set {parameters : Dict String Scalar} (h : PlainParameters parameters)
    {name : String} (hname : name ∈ allParameterNames) (b : Bool) :
    PlainParameters (parameters.set name (.bool b)) := by
  intro name' value hget
  rw [Dict.get?_set] at hget
  split at hget
  · rename_i heq
    cases hget
    exact ⟨heq ▸ hname, Or.inl ⟨b, rfl⟩⟩
  · exact h name' value hget

/-- **Every decoder makes known parameters of a plain kind.** -/
theorem decodeParameters_plain (hspec : (productKey, spec) ∈ scheduleSpecs) {mode : String}
    {slot : Bytes} {parameters : Dict String Scalar}
    (h : spec.decodeParameters mode slot = .ok parameters) : PlainParameters parameters := by
  have hfeed : ∀ name ∈ allParameterNames,
      (if mode = "feed" then "feed_time" else name) ∈ allParameterNames := by
    intro name hname
    split
    · decide
    · exact hname
  simp only [scheduleSpecs, List.mem_cons, List.not_mem_nil, or_false, Prod.mk.injEq] at hspec
  rcases hspec with ⟨rfl, rfl⟩ | ⟨rfl, rfl⟩ | ⟨rfl, rfl⟩ | ⟨rfl, rfl⟩
  · exact namedBytes_plain (by decide) h
  · obtain ⟨pulseTide, _, h⟩ := PyError.bind_eq_ok h
    split at h
    · cases h
    · obtain ⟨named, hnamed, h⟩ := PyError.bind_eq_ok h
      cases h
      refine PlainParameters.set (namedBytes_plain ?_ hnamed) (by decide) _
      exact List.forall_mem_cons.mpr ⟨hfeed "flow" (by decide), by decide⟩
  · exact namedBytes_plain (by decide) h
  · exact namedBytes_plain (List.forall_mem_cons.mpr ⟨hfeed "gears" (by decide), by decide⟩) h

theorem readSlot_parameters {slot : Bytes} {fields : SlotFields}
    (h : spec.readSlot slot = .ok fields) :
    spec.decodeParameters fields.mode slot = .ok fields.parameters := by
  unfold ScheduleSpec.readSlot at h
  obtain ⟨_, _, h⟩ := PyError.bind_eq_ok h
  obtain ⟨_, _, h⟩ := PyError.bind_eq_ok h
  obtain ⟨start, _, h⟩ := PyError.bind_eq_ok h
  obtain ⟨_, _, h⟩ := PyError.bind_eq_ok h
  obtain ⟨_, _, h⟩ := PyError.bind_eq_ok h
  obtain ⟨stop, _, h⟩ := PyError.bind_eq_ok h
  obtain ⟨modeCode, _, h⟩ := PyError.bind_eq_ok h
  split at h
  · cases h
  · obtain ⟨parameters, hparameters, h⟩ := PyError.bind_eq_ok h
    cases h
    exact hparameters

theorem validate_parameters {slot : Fin 48} {start stop mode : String} {modeCode : ℕ}
    {parameters : Dict String Scalar} {entry : ScheduleEntry}
    (h : ScheduleEntry.validate slot start stop mode modeCode parameters = .ok entry) :
    entry.parameters = parameters := by
  unfold ScheduleEntry.validate at h
  split at h
  · cases h
  split at h
  · cases h
  split at h
  · cases h
  split at h
  · cases h
    rfl
  · cases h

/-- The parameters of an entry came out of the decoder of its product. -/
theorem decodeSlots_parameters (hspec : (productKey, spec) ∈ scheduleSpecs) :
    ∀ {indexes : List (Fin 48)} {entries entries' : List ScheduleEntry}
      {invalidSlots invalidSlots' : List (Fin 48)},
      spec.decodeSlots raw indexes entries invalidSlots = .ok (entries', invalidSlots') →
      (∀ entry ∈ entries, PlainParameters entry.parameters) →
      ∀ entry ∈ entries', PlainParameters entry.parameters
  | [], _, _, _, _, h, hplain => by
      cases h
      exact hplain
  | index :: indexes, entries, entries', invalidSlots, invalidSlots', h, hplain => by
      rw [ScheduleSpec.decodeSlots] at h
      split at h
      · exact decodeSlots_parameters hspec h hplain
      split at h
      · rename_i fields hread
        obtain ⟨entry, hentry, h⟩ := PyError.bind_eq_ok h
        refine decodeSlots_parameters hspec h (List.forall_mem_append.mpr ⟨hplain, ?_⟩)
        rw [List.forall_mem_singleton, validate_parameters hentry]
        exact decodeParameters_plain hspec (readSlot_parameters hread)
      · exact decodeSlots_parameters hspec h hplain
      · exact decodeSlots_parameters hspec h hplain
      · cases h

/-- A parameter that the sensor keeps as it is. -/
structure KeptParameter (e : PyStr × Json) : Prop where
  key : Trimmed e.1
  notRaw : looksRaw e.1 = false
  value : scheduleScalar e.2 = some e.2

theorem keepParameter_kept {safe : Dict PyStr Json} {e : PyStr × Json} (h : KeptParameter e) :
    keepParameter safe e = safe.set e.1 e.2 := by
  unfold keepParameter
  rw [h.key.stays]
  dsimp only
  rw [h.notRaw, h.value]
  refine if_neg (not_or.mpr ⟨fun hnil => h.key.nonempty ?_, Bool.false_ne_true⟩)
  rw [hnil]
  rfl

/-- The loop over parameters that are all kept adds them in their order. -/
theorem keepParameters_kept : ∀ {items : List (PyStr × Json)} {safe : Dict PyStr Json},
    (∀ e ∈ items, KeptParameter e) → ((safe.entries ++ items).map Prod.fst).Nodup →
    (items.foldl keepParameter safe).entries = safe.entries ++ items
  | [], safe, _, _ => (List.append_nil _).symm
  | e :: items, safe, hkept, hnodup => by
      have hnew : safe.get? e.1 = none := by
        rw [← Option.not_isSome_iff_eq_none, ← Dict.mem_keys_iff]
        intro hmem
        rw [List.map_append, List.nodup_append] at hnodup
        exact hnodup.2.2 _ hmem e.1 List.mem_cons_self rfl
      have hentries : (safe.set e.1 e.2).entries = safe.entries ++ [e] :=
        Dict.entries_set_of_new hnew e.2
      rw [List.foldl_cons, keepParameter_kept (hkept e List.mem_cons_self),
        keepParameters_kept (fun e' he' => hkept e' (List.mem_cons_of_mem _ he')), hentries,
        List.append_assoc]
      · rfl
      · rw [hentries, List.append_assoc]
        exact hnodup

/-- **Parameters of a plain kind reach the host as they are.** -/
theorem safeParameters_plain {entry : ScheduleEntry} (h : PlainParameters entry.parameters) :
    safeParameters (.dict entry.jsonParameters)
      = ⟨entry.jsonParameters, entry.jsonParameters_nodup⟩ := by
  have hplain : ∀ e ∈ entry.parameters.entries,
      e.1 ∈ allParameterNames ∧ ((∃ b, e.2 = .bool b) ∨ ∃ i, e.2 = .int i) :=
    fun e he => h e.1 e.2 (Dict.get?_eq_some_iff.mpr he)
  have hfew : entry.jsonParameters.length ≤ 16 := by
    have hsubset : entry.parameters.entries.map Prod.fst ⊆ allParameterNames := by
      intro name hname
      obtain ⟨e, he, rfl⟩ := List.mem_map.mp hname
      exact (hplain e he).1
    have hlength := (List.subperm_of_subset entry.parameters.nodup hsubset).length_le
    rw [List.length_map] at hlength
    unfold ScheduleEntry.jsonParameters
    rw [List.length_map]
    exact hlength.trans (by decide)
  have hkept : ∀ e ∈ entry.jsonParameters, KeptParameter e := by
    have hnames : ∀ name ∈ allParameterNames,
        Trimmed (PyStr.ofString name) ∧ looksRaw (PyStr.ofString name) = false := by
      decide +kernel
    intro e' he'
    obtain ⟨e, he, rfl⟩ := List.mem_map.mp he'
    obtain ⟨hname, hvalue⟩ := hplain e he
    refine ⟨(hnames _ hname).1, (hnames _ hname).2, ?_⟩
    rcases hvalue with ⟨b, hb⟩ | ⟨i, hi⟩
    · dsimp only
      rw [hb]
      rfl
    · dsimp only
      rw [hi]
      rfl
  refine Dict.ext ?_
  show ((entry.jsonParameters.take 16).foldl keepParameter Dict.empty).entries = _
  rw [List.take_of_length_le hfew]
  exact keepParameters_kept hkept entry.jsonParameters_nodup

/-! ## The schedule -/

theorem field_cons (name key : String) (value : Json) (items : List (PyStr × Json)) :
    field ((PyStr.ofString name, value) :: items) key
      = if name = key then value else field items key := by
  unfold field
  rw [Dict.lookupEntries]
  by_cases h : name = key
  · rw [if_pos (congrArg _ h), if_pos h]
    rfl
  · rw [if_neg (fun heq => h (ofString_injective heq)), if_neg h]

/-- **An entry of the decoder is shown unchanged.** -/
theorem scheduleEntry_json (hspec : (productKey, spec) ∈ scheduleSpecs) {entry : ScheduleEntry}
    (hentry : EntryOf productKey spec raw entry) (hplain : PlainParameters entry.parameters) :
    scheduleEntry (.dict entry.json) = .ok (some entry.shown) := by
  have hmode := modes_trimmed hspec _ (List.mem_of_getElem? hentry.mode)
  dsimp only at hmode
  have hslot : checkedSlot entry.json = some ((entry.slot : ℕ) : ℤ) := by
    have hrange : 0 ≤ ((entry.slot : ℕ) : ℤ) ∧ ((entry.slot : ℕ) : ℤ) < scheduleSlotCapacity := by
      have hlt := entry.slot.isLt
      unfold scheduleSlotCapacity
      omega
    simp only [checkedSlot, ScheduleEntry.json, field_cons, if_true, if_pos hrange]
  have hchecked : checkedMode entry.json
      = some (PyStr.ofString entry.mode, ((entry.modeCode : ℕ) : ℤ)) := by
    have hrange : 0 ≤ ((entry.modeCode : ℕ) : ℤ) ∧ ((entry.modeCode : ℕ) : ℤ) ≤ 255 := by
      have hlt := entry.modeCode.isLt
      omega
    simp [checkedMode, ScheduleEntry.json, field_cons, hmode.nonempty, hrange]
  have hstart : field entry.json "start" = .str (PyStr.ofString entry.start) := by
    simp [ScheduleEntry.json, field_cons]
  have hstop : field entry.json "end" = .str (PyStr.ofString entry.end) := by
    simp [ScheduleEntry.json, field_cons]
  have hparameters : field entry.json "parameters" = .dict entry.jsonParameters := by
    simp [ScheduleEntry.json, field_cons]
  rw [scheduleEntry_of_times hslot hstart hstop (isStartTime_readable hentry.start)
    (isEndTime_readable hentry.end), hchecked, hparameters, safeParameters_plain hplain]
  dsimp only [Option.map_some]
  rw [hmode.stays]
  rfl

theorem scheduleEntriesFrom_json (hspec : (productKey, spec) ∈ scheduleSpecs) :
    ∀ {entries : List ScheduleEntry}, (∀ entry ∈ entries, EntryOf productKey spec raw entry) →
      (∀ entry ∈ entries, PlainParameters entry.parameters) →
      scheduleEntriesFrom (entries.map (fun entry => .dict entry.json))
        = .ok (entries.map ScheduleEntry.shown)
  | [], _, _ => rfl
  | entry :: entries, hentries, hplain => by
      rw [List.forall_mem_cons] at hentries hplain
      rw [List.map_cons, scheduleEntriesFrom,
        PyError.bind_of_ok (scheduleEntry_json hspec hentries.1 hplain.1),
        PyError.bind_of_ok (scheduleEntriesFrom_json hspec hentries.2 hplain.2)]
      rfl

theorem invalidScheduleSlots_json {invalidSlots : List (Fin 48)} (hfew : invalidSlots.length ≤ 48) :
    invalidScheduleSlots (.list (invalidSlots.map (fun slot : Fin 48 => .int (slot : ℕ))))
      = invalidSlots.map (fun slot : Fin 48 => ((slot : ℕ) : ℤ)) := by
  unfold invalidScheduleSlots
  dsimp only
  rw [List.take_of_length_le (by rw [List.length_map]; exact hfew), List.filterMap_map,
    ← List.filterMap_eq_map]
  refine List.filterMap_congr (fun slot _ => if_pos ?_)
  have hlt := slot.isLt
  unfold scheduleSlotCapacity
  omega

/-- **The entries and the invalid slots of a decoded schedule reach the host as they are.** -/
theorem decodedSchedule_passes (hspec : (productKey, spec) ∈ scheduleSpecs)
    (hlen : raw.length = spec.rawStatusSize) {enabled : Bool} {schedule : DeviceSchedule}
    (hdecoded : decodeSchedule productKey raw enabled = .ok (some schedule))
    (isoformat : Datetime → PyStr) :
    scheduleEntries (field (schedule.json isoformat) "entries")
        = .ok (schedule.entries.map ScheduleEntry.shown)
      ∧ invalidScheduleSlots (field (schedule.json isoformat) "invalid_slots")
        = schedule.invalidSlots.map (fun slot : Fin 48 => ((slot : ℕ) : ℤ)) := by
  obtain ⟨_, hslots⟩ := decodeSchedule_ok hspec hdecoded
  have hplain := decodeSlots_parameters hspec hslots (fun _ h => absurd h List.not_mem_nil)
  obtain ⟨entries, invalidSlots, hslots', hpicks, hpicks', hentries⟩ :=
    decodeSlots_outcome hspec hlen (List.finRange slotCapacity) [] []
  rw [hslots, List.nil_append, List.nil_append] at hslots'
  obtain ⟨rfl, rfl⟩ := Prod.mk.inj (Except.ok.inj hslots')
  -- one entry or one invalid slot for each of the 48 slots at most
  have hcapacity : (List.finRange slotCapacity).length = 48 := List.length_finRange
  have hfew : schedule.entries.length ≤ 48 := by
    have hlength := hpicks.sublist.length_le
    rw [List.length_map] at hlength
    exact hlength.trans (le_of_eq hcapacity)
  have hfew' : schedule.invalidSlots.length ≤ 48 :=
    hpicks'.sublist.length_le.trans (le_of_eq hcapacity)
  have hfield : field (schedule.json isoformat) "entries"
      = .list (schedule.entries.map (fun entry => .dict entry.json)) := by
    simp [DeviceSchedule.json, field_cons]
  have hfield' : field (schedule.json isoformat) "invalid_slots"
      = .list (schedule.invalidSlots.map (fun slot : Fin 48 => .int (slot : ℕ))) := by
    simp [DeviceSchedule.json, field_cons]
  constructor
  · rw [hfield]
    unfold scheduleEntries
    dsimp only
    rw [List.take_of_length_le (by rw [List.length_map]; exact hfew)]
    exact scheduleEntriesFrom_json hspec hentries hplain
  · rw [hfield']
    exact invalidScheduleSlots_json hfew'

/--
**Home Assistant shows a decoded schedule exactly as the daemon decoded it.**

For every product with a schedule and every status buffer of its size: the same entries in
the same order, with the same times, modes and parameters, and the same invalid slots.
-/
theorem schedule_passes_unchanged (hspec : (productKey, spec) ∈ scheduleSpecs)
    (hlen : raw.length = spec.rawStatusSize) (enabled : Bool) (isoformat : Datetime → PyStr) :
    ∃ schedule, decodeSchedule productKey raw enabled = .ok (some schedule)
      ∧ scheduleEntries (field (schedule.json isoformat) "entries")
        = .ok (schedule.entries.map ScheduleEntry.shown)
      ∧ invalidScheduleSlots (field (schedule.json isoformat) "invalid_slots")
        = schedule.invalidSlots.map (fun slot : Fin 48 => ((slot : ℕ) : ℤ)) := by
  obtain ⟨schedule, hdecoded⟩ := decodeSchedule_returns hspec hlen enabled
  exact ⟨schedule, hdecoded, decodedSchedule_passes hspec hlen hdecoded isoformat⟩

theorem schedule_passes_unchanged_allDay : ∃ schedule,
    decodeSchedule aquariumPumpProductKey allDayStatus true = .ok (some schedule)
      ∧ scheduleEntries (field (schedule.json (fun _ => PyStr.ofString "2026-01-01T00:00:00")) "entries")
        = .ok (schedule.entries.map ScheduleEntry.shown) := by
  have hspec := List.mem_of_find?_eq_some
    (show scheduleSpecs.find? (fun spec => spec.1 = aquariumPumpProductKey) = some _ from rfl)
  obtain ⟨schedule, hdecoded, hentries, _⟩ :=
    schedule_passes_unchanged hspec (show allDayStatus.length = 302 by decide +kernel) true
      (fun _ => PyStr.ofString "2026-01-01T00:00:00")
  exact ⟨schedule, hdecoded, hentries⟩

end JebaoFlow
