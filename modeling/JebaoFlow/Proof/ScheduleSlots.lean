import JebaoFlow.Protocol.Schedule

/-!
# What a decoded schedule keeps of the slots

The loop over the slots sorts every populated slot into the entries or the invalid
slots, and whether it becomes an entry is a matter of its own bytes only. Nothing of an
entry's slot is lost: its bytes can be read back off the entry, so schedules that
compare equal come from equal slots.
-/

namespace JebaoFlow

open Bytes

variable {productKey : String} {spec : ScheduleSpec} {raw slot : Bytes}

/-! ## Times -/

/-- The number two digits show. -/
def readTwo (tens ones : Char) : ℕ := (tens.toNat - 48) * 10 + (ones.toNat - 48)

/-- The hour and the minute a time of day shows. -/
def clockBytes (text : String) : Bytes :=
  match text.toList with
  | [a, b, _, c, d] => [UInt8.ofNat (readTwo a b), UInt8.ofNat (readTwo c d)]
  | _ => []

theorem readTwo_twoDigits : ∀ n < 60,
    readTwo (Nat.digitChar (n / 10)) (Nat.digitChar (n % 10)) = n := by
  decide

theorem hour_pattern : ∀ n < 24,
    (((Nat.digitChar (n / 10) = '0' ∨ Nat.digitChar (n / 10) = '1')
        ∧ (Nat.digitChar (n % 10)).isDigit = true)
      ∨ (Nat.digitChar (n / 10) = '2' ∧ '0' ≤ Nat.digitChar (n % 10)
        ∧ Nat.digitChar (n % 10) ≤ '3')) := by
  decide

theorem minute_pattern : ∀ n < 60, '0' ≤ Nat.digitChar (n / 10) ∧ Nat.digitChar (n / 10) ≤ '5'
    ∧ (Nat.digitChar (n % 10)).isDigit = true := by
  decide

/-- What the two checks of a time allow. -/
def IsTime (hour minute : ℕ) (allow24 : Bool) : Prop :=
  (hour ≤ 23 ∧ minute ≤ 59) ∨ (allow24 = true ∧ hour = 24 ∧ minute = 0)

/-- A formatted time passes the pattern of its field and shows its hour and minute. -/
theorem formatTime_ok {hour minute : ℕ} {allow24 : Bool} {text : String}
    (h : formatTime hour minute allow24 = .ok text) :
    IsTime hour minute allow24 ∧ (allow24 = false → isStartTime text = true)
      ∧ isEndTime text = true ∧ clockBytes text = [UInt8.ofNat hour, UInt8.ofNat minute] := by
  unfold formatTime at h
  split at h
  · rename_i hrange
    cases h
    have hhour := hour_pattern hour (by omega)
    have hminute := minute_pattern minute (by omega)
    have hchars : (String.ofList (twoDigits hour ++ ':' :: twoDigits minute)).toList
        = [Nat.digitChar (hour / 10), Nat.digitChar (hour % 10), ':',
          Nat.digitChar (minute / 10), Nat.digitChar (minute % 10)] := String.toList_ofList
    have hstart : isStartTime (String.ofList (twoDigits hour ++ ':' :: twoDigits minute)) = true := by
      unfold isStartTime
      rw [hchars]
      exact decide_eq_true ⟨hhour, hminute⟩
    refine ⟨Or.inl hrange, fun _ => hstart, ?_, ?_⟩
    · unfold isEndTime
      rw [hstart, Bool.true_or]
    · unfold clockBytes
      rw [hchars]
      dsimp only
      rw [readTwo_twoDigits hour (by omega), readTwo_twoDigits minute (by omega)]
  · split at h
    · rename_i hend
      cases h
      obtain ⟨rfl, rfl, rfl⟩ := hend
      exact ⟨Or.inr ⟨rfl, rfl, rfl⟩, nofun, by decide, by decide⟩
    · cases h

theorem formatTime_of_isTime {hour minute : ℕ} {allow24 : Bool} (h : IsTime hour minute allow24) :
    ∃ text, formatTime hour minute allow24 = .ok text := by
  unfold formatTime
  rcases h with h | h
  · rw [if_pos h]
    exact ⟨_, rfl⟩
  · rw [if_neg (by omega), if_pos h]
    exact ⟨_, rfl⟩

theorem formatTime_error {hour minute : ℕ} {allow24 : Bool} {e : PyError}
    (h : formatTime hour minute allow24 = .error e) : ∃ message, e = .valueError message := by
  unfold formatTime at h
  split at h
  · cases h
  · split at h
    · cases h
    · cases h
      exact ⟨_, rfl⟩

/-! ## Parameters -/

/-- The parameters of a slot, in the order of its bytes. -/
def parameterNames (productKey mode : String) : List String :=
  if productKey = dcPumpProProductKey then ["flow", "frequency", "feed_time"]
  else if productKey = localWavemakerProductKey then
    [if mode = "feed" then "feed_time" else "flow", "frequency", "pulse_tide"]
  else if productKey = localWavemakerProProductKey then
    ["flow", "frequency", "feed_time", "custom_frequency"]
  else [if mode = "feed" then "feed_time" else "gears"]

/-- The byte a parameter stands for; a switch is a byte `0` or `1`. -/
def parameterByte (parameters : Dict String Scalar) (name : String) : UInt8 :=
  match (parameters.get? name).bind Scalar.number? with
  | some (.fin q) => UInt8.ofNat q.num.toNat
  | _ => 0

/-- The selector of a local wavemaker's slot is a switch. -/
def SelectorLegal (productKey : String) (slot : Bytes) : Prop :=
  productKey = localWavemakerProductKey → slot.getD 7 0 = 0 ∨ slot.getD 7 0 = 1

/-- The parameters show the bytes behind the mode of the slot, every one of them as a number. -/
structure ParametersShow (productKey mode : String) (slot : Bytes) (parameters : Dict String Scalar) :
    Prop where
  bytes : (parameterNames productKey mode).map (parameterByte parameters) = slot.drop 5
  numbers : ∀ name ∈ parameterNames productKey mode,
    ∃ v q, parameters.get? name = some v ∧ v.number? = some q

theorem byteAt_lt {data : Bytes} {index : ℕ} (h : index < data.length) :
    byteAt data index = .ok (data.getD index 0).toNat := by
  unfold byteAt
  rw [List.getElem?_eq_getElem h, List.getD_eq_getElem data 0 h]

theorem ofNat_num (b : UInt8) : UInt8.ofNat (((b.toNat : ℤ) : ℚ).num.toNat) = b := by
  rw [Rat.num_intCast, Int.toNat_natCast, UInt8.ofNat_toNat]

/-- Named fields that hold the bytes behind the mode of a slot show them. -/
theorem parametersShow_of_fields {mode : String} {parameters : Dict String Scalar}
    (fields : List (String × ℕ)) (hnames : parameterNames productKey mode = fields.map Prod.fst)
    (hbytes : slot.drop 5 = fields.map (fun field => slot.getD field.2 0))
    (hget : ∀ field ∈ fields, ∃ v, parameters.get? field.1 = some v
      ∧ v.number? = some (.fin (((slot.getD field.2 0).toNat : ℤ) : ℚ))) :
    ParametersShow productKey mode slot parameters := by
  refine ⟨?_, fun name hname => ?_⟩
  · rw [hnames, hbytes, List.map_map]
    refine List.map_congr_left (fun field hfield => ?_)
    obtain ⟨v, hv, hnumber⟩ := hget field hfield
    show parameterByte parameters field.1 = _
    unfold parameterByte
    rw [hv, Option.bind_some, hnumber]
    exact ofNat_num _
  · rw [hnames] at hname
    obtain ⟨field, hfield, rfl⟩ := List.mem_map.mp hname
    obtain ⟨v, hv, hnumber⟩ := hget field hfield
    exact ⟨v, _, hv, hnumber⟩

theorem namedBytes_ok {fields : List (String × ℕ)} (hnodup : (fields.map Prod.fst).Nodup)
    (hlt : ∀ field ∈ fields, field.2 < slot.length) : ∃ parameters,
      namedBytes slot fields = .ok parameters
        ∧ ∀ field ∈ fields, parameters.get? field.1 = some (.int (slot.getD field.2 0).toNat) := by
  refine ⟨Dict.setAll Prod.fst (fun field => .int (slot.getD field.2 0).toNat) fields Dict.empty,
    Dict.collect_eq_setAll (fun field hfield => ?_),
    fun field hfield => Dict.get?_setAll_of_mem hnodup hfield⟩
  rw [byteAt_lt (hlt field hfield)]
  rfl

/-- The bytes from an index on, one by one. -/
theorem drop_eq_map_getD (bytes : Bytes) (start : ℕ) :
    bytes.drop start
      = (List.range' start (bytes.length - start)).map (fun index => bytes.getD index 0) := by
  refine List.ext_getElem (by rw [List.length_drop, List.length_map, List.length_range'])
    (fun k hk _ => ?_)
  rw [List.length_drop] at hk
  rw [List.getElem_drop, List.getElem_map, List.getElem_range', Nat.one_mul,
    List.getD_eq_getElem bytes 0 (by omega)]

/-- The fields of a decoder that only names bytes. -/
theorem namedBytes_show {mode : String} {fields : List (String × ℕ)}
    (hnodup : (fields.map Prod.fst).Nodup)
    (hnames : parameterNames productKey mode = fields.map Prod.fst)
    (hfields : fields.map Prod.snd = List.range' 5 (slot.length - 5)) :
    ∃ parameters, namedBytes slot fields = .ok parameters
      ∧ ParametersShow productKey mode slot parameters := by
  have hlt : ∀ field ∈ fields, field.2 < slot.length := by
    intro field hfield
    have hmem := List.mem_map_of_mem (f := Prod.snd) hfield
    rw [hfields, List.mem_range'_1] at hmem
    omega
  obtain ⟨parameters, hok, hget⟩ := namedBytes_ok hnodup hlt
  refine ⟨parameters, hok, parametersShow_of_fields fields hnames ?_
    (fun field hfield => ⟨_, hget field hfield, rfl⟩)⟩
  rw [drop_eq_map_getD, ← hfields, List.map_map]
  rfl

/-- **The parameter decoders keep every byte behind the mode.** -/
theorem decodeParameters_show (hspec : (productKey, spec) ∈ scheduleSpecs)
    (hlen : slot.length = spec.slotSize) (hlegal : SelectorLegal productKey slot) (mode : String) :
    ∃ parameters, spec.decodeParameters mode slot = .ok parameters
      ∧ ParametersShow productKey mode slot parameters := by
  simp only [scheduleSpecs, List.mem_cons, List.not_mem_nil, or_false, Prod.mk.injEq] at hspec
  rcases hspec with ⟨rfl, rfl⟩ | ⟨rfl, rfl⟩ | ⟨rfl, rfl⟩ | ⟨rfl, rfl⟩
  · exact namedBytes_show (by simp) rfl (by rw [hlen]; rfl)
  · dsimp only at hlen
    have hselector := hlegal rfl
    obtain ⟨parameters, hok, hget⟩ := @namedBytes_ok slot
      [(if mode = "feed" then "feed_time" else "flow", 5), ("frequency", 6)]
      (by by_cases h : mode = "feed" <;> simp [h]) (by simp; omega)
    have hbyte : byteAt slot 7 = .ok (slot.getD 7 0).toNat := byteAt_lt (by omega)
    have hswitch : (slot.getD 7 0).toNat = 0 ∨ (slot.getD 7 0).toNat = 1 := by
      rcases hselector with h | h
      · rw [h]; exact Or.inl rfl
      · rw [h]; exact Or.inr rfl
    refine ⟨parameters.set "pulse_tide" (.bool ((slot.getD 7 0).toNat != 0)), ?_, ?_⟩
    · show localWavemakerParameters mode slot = _
      unfold localWavemakerParameters
      rw [hbyte, PyError.bind_of_ok rfl, if_neg (not_not.mpr hswitch), hok]
      rfl
    · refine parametersShow_of_fields
        [(if mode = "feed" then "feed_time" else "flow", 5), ("frequency", 6), ("pulse_tide", 7)]
        rfl (by rw [drop_eq_map_getD, hlen]; rfl) ?_
      intro field hfield
      by_cases hlast : field = ("pulse_tide", 7)
      · subst hlast
        refine ⟨_, Dict.get?_set_self .., ?_⟩
        rcases hswitch with h | h
        · rw [h]; rfl
        · rw [h]; rfl
      · have hfirst : field
            ∈ [(if mode = "feed" then "feed_time" else "flow", 5), ("frequency", 6)] := by
          simp only [List.mem_cons, List.not_mem_nil, or_false] at hfield ⊢
          tauto
        have hne : "pulse_tide" ≠ field.1 := by
          simp only [List.mem_cons, List.not_mem_nil, or_false] at hfirst
          rcases hfirst with rfl | rfl
          · by_cases h : mode = "feed" <;> simp [h]
          · simp
        exact ⟨_, (Dict.get?_set_ne _ _ hne).trans (hget field hfirst), rfl⟩
  · exact namedBytes_show (by simp) rfl (by rw [hlen]; rfl)
  · refine namedBytes_show (by simp) ?_ (by rw [hlen]; rfl)
    rfl

/-- A selector that is no switch is refused. -/
theorem decodeParameters_illegal (hspec : (productKey, spec) ∈ scheduleSpecs)
    (hlen : slot.length = spec.slotSize) (hillegal : ¬ SelectorLegal productKey slot)
    (mode : String) : ∃ message, spec.decodeParameters mode slot = .error (.valueError message) := by
  have hkey : productKey = localWavemakerProductKey := by
    by_contra hne
    exact hillegal (fun h => absurd h hne)
  have hbad : ¬ (slot.getD 7 0 = 0 ∨ slot.getD 7 0 = 1) := fun h => hillegal (fun _ => h)
  subst hkey
  simp only [scheduleSpecs, List.mem_cons, List.not_mem_nil, or_false, Prod.mk.injEq] at hspec
  rcases hspec with ⟨hkey, _⟩ | ⟨_, rfl⟩ | ⟨hkey, _⟩ | ⟨hkey, _⟩
  · exact absurd hkey (by decide)
  · dsimp only at hlen
    have hbyte : byteAt slot 7 = .ok (slot.getD 7 0).toNat := byteAt_lt (by omega)
    have hswitch : ¬ ((slot.getD 7 0).toNat = 0 ∨ (slot.getD 7 0).toNat = 1) := by
      rintro (h | h)
      · exact hbad (Or.inl (UInt8.toNat_inj.mp h))
      · exact hbad (Or.inr (UInt8.toNat_inj.mp h))
    refine ⟨"pulse/tide selector is outside its audited boolean range", ?_⟩
    show localWavemakerParameters mode slot = _
    unfold localWavemakerParameters
    rw [hbyte, PyError.bind_of_ok rfl, if_pos hswitch]
  · exact absurd hkey (by decide)
  · exact absurd hkey (by decide)

/-! ## One slot -/

/-- The slot is in use. -/
def Populated (slot : Bytes) : Prop :=
  slot ≠ zeros slot.length ∧ slot ≠ List.replicate slot.length 0xEE

instance (slot : Bytes) : Decidable (Populated slot) := inferInstanceAs (Decidable (_ ∧ _))

/-- The slot says when it starts and ends, in which mode, and selects what there is. -/
structure ValidSlot (productKey : String) (spec : ScheduleSpec) (slot : Bytes) : Prop where
  start : IsTime (slot.getD 0 0).toNat (slot.getD 1 0).toNat false
  «end» : IsTime (slot.getD 2 0).toNat (slot.getD 3 0).toNat true
  mode : (slot.getD 4 0).toNat < spec.modes.length
  selector : SelectorLegal productKey slot

/-- The bytes that the fields of an entry stand for. -/
def slotBytes (productKey : String) (spec : ScheduleSpec) (start «end» : String) (modeCode : ℕ)
    (parameters : Dict String Scalar) : Bytes :=
  clockBytes start ++ clockBytes «end» ++ [UInt8.ofNat modeCode]
    ++ (parameterNames productKey (spec.modes.getD modeCode "")).map (parameterByte parameters)

theorem isUnused_iff : isUnused slot = true ↔ ¬ Populated slot := by
  unfold isUnused Populated
  rw [decide_eq_true_iff]
  tauto

/-- What the fields read from a slot say about its bytes. -/
structure FieldsOf (productKey : String) (spec : ScheduleSpec) (slot : Bytes) (fields : SlotFields) :
    Prop where
  start : isStartTime fields.start = true
  «end» : isEndTime fields.end = true
  mode : spec.modes[fields.modeCode]? = some fields.mode
  modeCode : fields.modeCode < 256
  bytes : slotBytes productKey spec fields.start fields.end fields.modeCode fields.parameters = slot
  numbers : ∀ name ∈ parameterNames productKey (spec.modes.getD fields.modeCode ""),
    ∃ v q, fields.parameters.get? name = some v ∧ v.number? = some q

theorem known_slotSize (hspec : (productKey, spec) ∈ scheduleSpecs) : 5 < spec.slotSize := by
  have hfacts : ∀ entry ∈ scheduleSpecs, 5 < entry.2.slotSize := by decide
  exact hfacts _ hspec

/-- The first five bytes and the ones behind them. -/
theorem slot_eq_bytes (h : 5 ≤ slot.length) :
    slot = [slot.getD 0 0, slot.getD 1 0] ++ [slot.getD 2 0, slot.getD 3 0] ++ [slot.getD 4 0]
      ++ slot.drop 5 := by
  match slot, h with
  | a :: b :: c :: d :: e :: rest, _ => rfl

/-- **A slot is read exactly when it is valid, and then nothing of it is lost.** -/
theorem readSlot_cases (hspec : (productKey, spec) ∈ scheduleSpecs)
    (hlen : slot.length = spec.slotSize) :
    (ValidSlot productKey spec slot ∧ ∃ fields, spec.readSlot slot = .ok fields
        ∧ FieldsOf productKey spec slot fields)
      ∨ (¬ ValidSlot productKey spec slot ∧ ∃ message,
        spec.readSlot slot = .error (.indexError message)
          ∨ spec.readSlot slot = .error (.valueError message)) := by
  have hsize := known_slotSize hspec
  unfold ScheduleSpec.readSlot
  rw [byteAt_lt (by omega), byteAt_lt (by omega), byteAt_lt (by omega), byteAt_lt (by omega),
    byteAt_lt (by omega)]
  simp only [PyError.bind_of_ok rfl]
  -- the checks in the order in which they are made; the first that fails decides
  cases hstart : formatTime (slot.getD 0 0).toNat (slot.getD 1 0).toNat false with
  | error e =>
      obtain ⟨message, rfl⟩ := formatTime_error hstart
      refine Or.inr ⟨fun hvalid => ?_, message, Or.inr rfl⟩
      obtain ⟨text, hok⟩ := formatTime_of_isTime hvalid.start
      rw [hstart] at hok
      cases hok
  | ok start =>
      obtain ⟨hstartTime, hstartPattern, _, hstartBytes⟩ := formatTime_ok hstart
      rw [PyError.bind_of_ok rfl]
      cases hend : formatTime (slot.getD 2 0).toNat (slot.getD 3 0).toNat true with
      | error e =>
          obtain ⟨message, rfl⟩ := formatTime_error hend
          refine Or.inr ⟨fun hvalid => ?_, message, Or.inr rfl⟩
          obtain ⟨text, hok⟩ := formatTime_of_isTime hvalid.end
          rw [hend] at hok
          cases hok
      | ok stop =>
          obtain ⟨hendTime, _, hendPattern, hendBytes⟩ := formatTime_ok hend
          rw [PyError.bind_of_ok rfl]
          cases hmode : spec.modes[(slot.getD 4 0).toNat]? with
          | none =>
              refine Or.inr ⟨fun hvalid => ?_, "tuple index out of range", Or.inl rfl⟩
              rw [List.getElem?_eq_getElem hvalid.mode] at hmode
              cases hmode
          | some mode =>
              have hlt := (List.getElem?_eq_some_iff.mp hmode).1
              have hgetD : spec.modes.getD (slot.getD 4 0).toNat "" = mode := by
                rw [List.getD_eq_getElem?_getD, hmode, Option.getD_some]
              by_cases hlegal : SelectorLegal productKey slot
              · obtain ⟨parameters, hok, hshow⟩ := decodeParameters_show hspec hlen hlegal mode
                refine Or.inl ⟨⟨hstartTime, hendTime, hlt, hlegal⟩, _, PyError.bind_of_ok hok,
                  ⟨hstartPattern rfl, hendPattern, hmode, UInt8.toNat_lt _, ?_, ?_⟩⟩
                · unfold slotBytes
                  dsimp only
                  rw [hgetD, hshow.bytes, hstartBytes, hendBytes]
                  simp only [UInt8.ofNat_toNat]
                  exact (slot_eq_bytes (by omega)).symm
                · dsimp only
                  rw [hgetD]
                  exact hshow.numbers
              · obtain ⟨message, herror⟩ := decodeParameters_illegal hspec hlen hlegal mode
                exact Or.inr ⟨fun hvalid => hlegal hvalid.selector, message,
                  Or.inr (PyError.bind_of_error herror)⟩

/-! ## The loop -/

/-- The entry is what was read from its slot. -/
def EntryOf (productKey : String) (spec : ScheduleSpec) (raw : Bytes) (entry : ScheduleEntry) :
    Prop :=
  FieldsOf productKey spec (spec.slot raw entry.slot)
    { start := entry.start, «end» := entry.end, mode := entry.mode, modeCode := entry.modeCode
      parameters := entry.parameters }

theorem known_layout (hspec : (productKey, spec) ∈ scheduleSpecs) :
    spec.slotOffset + 48 * spec.slotSize ≤ spec.rawStatusSize ∧ "" ∉ spec.modes
      ∧ spec.ymdOffset + 4 ≤ spec.rawStatusSize ∧ spec.hmsOffset + 4 ≤ spec.rawStatusSize := by
  have hfacts : ∀ entry ∈ scheduleSpecs,
      entry.2.slotOffset + 48 * entry.2.slotSize ≤ entry.2.rawStatusSize ∧ "" ∉ entry.2.modes
        ∧ entry.2.ymdOffset + 4 ≤ entry.2.rawStatusSize
        ∧ entry.2.hmsOffset + 4 ≤ entry.2.rawStatusSize := by
    decide
  exact hfacts _ hspec

theorem slot_length (hspec : (productKey, spec) ∈ scheduleSpecs)
    (hlen : raw.length = spec.rawStatusSize) (index : Fin 48) :
    (spec.slot raw index).length = spec.slotSize := by
  have hfits := (known_layout hspec).1
  have hindex : index * spec.slotSize + spec.slotSize ≤ 48 * spec.slotSize := by
    rw [← Nat.succ_mul]
    exact Nat.mul_le_mul_right _ index.isLt
  unfold ScheduleSpec.slot slice
  rw [List.length_take, List.length_drop]
  omega

/-- What was read from a valid slot passes the validators of the entry. -/
theorem validate_fields (hspec : (productKey, spec) ∈ scheduleSpecs) {index : Fin 48}
    {fields : SlotFields} (h : FieldsOf productKey spec (spec.slot raw index) fields) :
    ∃ entry, ScheduleEntry.validate index fields.start fields.end fields.mode fields.modeCode
        fields.parameters = .ok entry
      ∧ entry.slot = index ∧ EntryOf productKey spec raw entry := by
  have hmode : fields.mode ≠ "" := fun hempty =>
    (known_layout hspec).2.1 (hempty ▸ List.mem_of_getElem? h.mode)
  unfold ScheduleEntry.validate
  rw [if_neg (by rw [h.start]; decide), if_neg (by rw [h.end]; decide), if_neg hmode,
    dif_pos h.modeCode]
  exact ⟨_, rfl, rfl, h⟩

/-- The elements of a list that have a property, in their order. -/
structure Picks {α : Type} (P : α → Prop) (list picked : List α) : Prop where
  sublist : picked.Sublist list
  mem_iff : ∀ x, x ∈ picked ↔ x ∈ list ∧ P x

section Picks

variable {α : Type} {P : α → Prop} {list picked : List α} {x : α}

theorem Picks.nil : Picks P [] [] :=
  ⟨.slnil, fun _ => ⟨fun h => absurd h List.not_mem_nil, fun h => h.1⟩⟩

theorem Picks.take (h : Picks P list picked) (hx : P x) : Picks P (x :: list) (x :: picked) := by
  refine ⟨h.sublist.cons_cons _, fun y => ?_⟩
  rw [List.mem_cons, List.mem_cons, h.mem_iff]
  constructor
  · rintro (rfl | ⟨hmem, hy⟩)
    · exact ⟨Or.inl rfl, hx⟩
    · exact ⟨Or.inr hmem, hy⟩
  · rintro ⟨rfl | hmem, hy⟩
    · exact Or.inl rfl
    · exact Or.inr ⟨hmem, hy⟩

theorem Picks.skip (h : Picks P list picked) (hx : ¬ P x) : Picks P (x :: list) picked := by
  refine ⟨h.sublist.cons _, fun y => ?_⟩
  rw [List.mem_cons, h.mem_iff]
  constructor
  · exact fun ⟨hmem, hy⟩ => ⟨Or.inr hmem, hy⟩
  · rintro ⟨rfl | hmem, hy⟩
    · exact absurd hy hx
    · exact ⟨hmem, hy⟩

end Picks

/-- **The loop sorts the populated slots by whether they are valid.** -/
theorem decodeSlots_outcome (hspec : (productKey, spec) ∈ scheduleSpecs)
    (hlen : raw.length = spec.rawStatusSize) : ∀ (indexes : List (Fin 48))
    (entries : List ScheduleEntry) (invalidSlots : List (Fin 48)), ∃ entries' invalidSlots',
      spec.decodeSlots raw indexes entries invalidSlots
          = .ok (entries ++ entries', invalidSlots ++ invalidSlots')
        ∧ Picks (fun i => Populated (spec.slot raw i) ∧ ValidSlot productKey spec (spec.slot raw i))
          indexes (entries'.map ScheduleEntry.slot)
        ∧ Picks (fun i => Populated (spec.slot raw i) ∧ ¬ ValidSlot productKey spec (spec.slot raw i))
          indexes invalidSlots'
        ∧ ∀ entry ∈ entries', EntryOf productKey spec raw entry := by
  intro indexes
  induction indexes with
  | nil =>
      intro entries invalidSlots
      exact ⟨[], [], by rw [List.append_nil, List.append_nil]; rfl, .nil, .nil,
        fun _ h => absurd h List.not_mem_nil⟩
  | cons index indexes ih =>
      intro entries invalidSlots
      rw [ScheduleSpec.decodeSlots]
      by_cases hpopulated : Populated (spec.slot raw index)
      · rw [if_neg (fun h => isUnused_iff.mp h hpopulated)]
        rcases readSlot_cases hspec (slot_length hspec hlen index) with
          ⟨hvalid, fields, hread, hfields⟩ | ⟨hinvalid, message, hread⟩
        · obtain ⟨entry, hentry, hslot, hof⟩ := validate_fields hspec hfields
          obtain ⟨entries', invalidSlots', hrest, hpicks, hpicks', hall⟩ :=
            ih (entries ++ [entry]) invalidSlots
          rw [hread]
          dsimp only
          rw [hentry, PyError.bind_of_ok rfl, hrest]
          refine ⟨entry :: entries', invalidSlots', by rw [List.append_assoc]; rfl, ?_,
            hpicks'.skip (fun h => h.2 hvalid), List.forall_mem_cons.mpr ⟨hof, hall⟩⟩
          rw [List.map_cons, hslot]
          exact hpicks.take ⟨hpopulated, hvalid⟩
        · obtain ⟨entries', invalidSlots', hrest, hpicks, hpicks', hall⟩ :=
            ih entries (invalidSlots ++ [index])
          refine ⟨entries', index :: invalidSlots', ?_, hpicks.skip (fun h => hinvalid h.2),
            hpicks'.take ⟨hpopulated, hinvalid⟩, hall⟩
          -- both kinds of error list the slot
          rcases hread with hread | hread
          · rw [hread]
            dsimp only
            rw [hrest, List.append_assoc]
            rfl
          · rw [hread]
            dsimp only
            rw [hrest, List.append_assoc]
            rfl
      · obtain ⟨entries', invalidSlots', hrest, hpicks, hpicks', hall⟩ := ih entries invalidSlots
        rw [if_pos (isUnused_iff.mpr hpopulated)]
        exact ⟨entries', invalidSlots', hrest, hpicks.skip (fun h => hpopulated h.1),
          hpicks'.skip (fun h => hpopulated h.1), hall⟩

/-! ## The clock -/

theorem makeDatetime_error {year month day hour minute second : ℕ} {e : PyError}
    (h : makeDatetime year month day hour minute second = .error e) :
    ∃ message, e = .valueError message := by
  unfold makeDatetime at h
  dsimp only at h
  repeat' split at h
  all_goals cases h
  all_goals exact ⟨_, rfl⟩

theorem decodeDeviceLocalTime_ok (hspec : (productKey, spec) ∈ scheduleSpecs)
    (hlen : raw.length = spec.rawStatusSize) :
    ∃ moment, decodeDeviceLocalTime raw spec = .ok moment := by
  obtain ⟨_, _, hymd, hhms⟩ := known_layout hspec
  have hsize : ∀ start, start + 4 ≤ spec.rawStatusSize → (slice raw start 4).length = 4 := by
    intro start hfits
    unfold slice
    rw [List.length_take, List.length_drop]
    omega
  have hymdSize := hsize _ hymd
  have hhmsSize := hsize _ hhms
  unfold decodeDeviceLocalTime
  dsimp only
  split
  · exact ⟨_, rfl⟩
  · rw [byteAt_lt (by omega), PyError.bind_of_ok rfl]
    split
    · exact ⟨_, rfl⟩
    · rw [byteAt_lt (by omega), byteAt_lt (by omega), byteAt_lt (by omega), byteAt_lt (by omega),
        byteAt_lt (by omega), byteAt_lt (by omega), byteAt_lt (by omega)]
      simp only [PyError.bind_of_ok rfl]
      split
      · exact ⟨_, rfl⟩
      · exact ⟨_, rfl⟩
      · rename_i e hother herror
        obtain ⟨message, rfl⟩ := makeDatetime_error herror
        exact absurd rfl (hother message)

/-! ## Whole schedules -/

theorem scheduleSpec?_of_mem (hspec : (productKey, spec) ∈ scheduleSpecs) :
    scheduleSpec? productKey = some spec := by
  simp only [scheduleSpecs, List.mem_cons, List.not_mem_nil, or_false, Prod.mk.injEq] at hspec
  rcases hspec with ⟨rfl, rfl⟩ | ⟨rfl, rfl⟩ | ⟨rfl, rfl⟩ | ⟨rfl, rfl⟩ <;> rfl

/-- The parts of a decoded schedule. -/
theorem decodeSchedule_ok (hspec : (productKey, spec) ∈ scheduleSpecs) {enabled : Bool}
    {schedule : DeviceSchedule} (h : decodeSchedule productKey raw enabled = .ok (some schedule)) :
    raw.length = spec.rawStatusSize
      ∧ spec.decodeSlots raw (List.finRange slotCapacity) [] []
        = .ok (schedule.entries, schedule.invalidSlots) := by
  unfold decodeSchedule at h
  rw [scheduleSpec?_of_mem hspec] at h
  dsimp only at h
  split at h
  · cases h
  · rename_i hlen
    obtain ⟨⟨entries, invalidSlots⟩, hslots, h⟩ := PyError.bind_eq_ok h
    obtain ⟨moment, _, h⟩ := PyError.bind_eq_ok h
    cases h
    exact ⟨not_not.mp hlen, hslots⟩

theorem decodeSchedule_returns (hspec : (productKey, spec) ∈ scheduleSpecs)
    (hlen : raw.length = spec.rawStatusSize) (enabled : Bool) :
    ∃ schedule, decodeSchedule productKey raw enabled = .ok (some schedule) := by
  obtain ⟨entries, invalidSlots, hslots, _⟩ :=
    decodeSlots_outcome hspec hlen (List.finRange slotCapacity) [] []
  obtain ⟨moment, hmoment⟩ := decodeDeviceLocalTime_ok hspec hlen
  unfold decodeSchedule
  rw [scheduleSpec?_of_mem hspec]
  dsimp only
  rw [if_neg (not_not.mpr hlen), hslots, PyError.bind_of_ok rfl, hmoment]
  exact ⟨_, rfl⟩

/-- Parameters that compare equal stand for the same bytes. -/
theorem parameterByte_congr {a b : Dict String Scalar} (h : Scalar.eqDict a b = true) {name : String}
    (hname : ∃ v q, a.get? name = some v ∧ v.number? = some q) :
    parameterByte a name = parameterByte b name := by
  obtain ⟨v, q, hv, hq⟩ := hname
  unfold Scalar.eqDict at h
  rw [Bool.and_eq_true, List.all_eq_true] at h
  have heq := h.2 (name, v) (Dict.get?_eq_some_iff.mp hv)
  dsimp only at heq
  unfold parameterByte
  cases hw : b.get? name with
  | none => rw [hw] at heq; cases heq
  | some w =>
      rw [hw] at heq
      dsimp only at heq
      unfold Scalar.eq at heq
      rw [hq] at heq
      cases hq' : w.number? with
      | none => rw [hq'] at heq; cases heq
      | some q' =>
          rw [hq'] at heq
          rw [hv, Option.bind_some, Option.bind_some, hq, hq', (PyFloat.eq_iff.mp heq).1]

theorem mem_of_eqList : ∀ {as bs : List ScheduleEntry}, ScheduleEntry.eqList as bs = true →
    ∀ a ∈ as, ∃ b ∈ bs, a.eq b = true
  | [], [], _ => fun _ h => absurd h List.not_mem_nil
  | a :: as, b :: bs, h => by
      rw [ScheduleEntry.eqList, Bool.and_eq_true] at h
      refine List.forall_mem_cons.mpr ⟨⟨b, List.mem_cons_self .., h.1⟩, fun c hc => ?_⟩
      obtain ⟨d, hd, heq⟩ := mem_of_eqList h.2 c hc
      exact ⟨d, List.mem_cons_of_mem _ hd, heq⟩
  | [], _ :: _, h => by cases h
  | _ :: _, [], h => by cases h

/-- Entries that compare equal have one slot, with the same bytes in it. -/
theorem slot_congr {raw' : Bytes} {a b : ScheduleEntry} (ha : EntryOf productKey spec raw a)
    (hb : EntryOf productKey spec raw' b) (h : a.eq b = true) :
    spec.slot raw a.slot = spec.slot raw' a.slot := by
  unfold ScheduleEntry.eq at h
  simp only [Bool.and_eq_true, beq_iff_eq] at h
  obtain ⟨⟨⟨⟨⟨hslot, hstart⟩, hend⟩, _⟩, hcode⟩, hparameters⟩ := h
  have hbytes := hb.bytes
  dsimp only at hbytes
  rw [← hslot, ← hstart, ← hend, ← hcode] at hbytes
  rw [← hbytes, ← ha.bytes]
  unfold slotBytes
  dsimp only
  congr 1
  exact List.map_congr_left (fun name hname => parameterByte_congr hparameters (ha.numbers name hname))

/-- **Schedule decoding partitions the populated slots and loses nothing of an entry.** -/
theorem schedule_partition (hspec : (productKey, spec) ∈ scheduleSpecs)
    (hlen : raw.length = spec.rawStatusSize) (enabled : Bool) : ∃ schedule,
      decodeSchedule productKey raw enabled = .ok (some schedule)
        ∧ (schedule.entries.map ScheduleEntry.slot).Pairwise (· < ·)
        ∧ schedule.invalidSlots.Pairwise (· < ·)
        ∧ (∀ i, i ∈ schedule.entries.map ScheduleEntry.slot → i ∉ schedule.invalidSlots)
        ∧ (∀ i, (i ∈ schedule.entries.map ScheduleEntry.slot ∨ i ∈ schedule.invalidSlots)
          ↔ Populated (spec.slot raw i))
        ∧ (∀ i, Populated (spec.slot raw i) → (i ∈ schedule.entries.map ScheduleEntry.slot
          ↔ ValidSlot productKey spec (spec.slot raw i)))
        ∧ (∀ e ∈ schedule.entries,
          slotBytes productKey spec e.start e.end e.modeCode e.parameters = spec.slot raw e.slot)
        ∧ ∀ (raw' : Bytes) (enabled' : Bool) (schedule' : DeviceSchedule),
          decodeSchedule productKey raw' enabled' = .ok (some schedule') →
          ScheduleEntry.eqList schedule.entries schedule'.entries = true →
          ∀ e ∈ schedule.entries, spec.slot raw e.slot = spec.slot raw' e.slot := by
  obtain ⟨schedule, hdecoded⟩ := decodeSchedule_returns hspec hlen enabled
  -- what the loop says of any decoded schedule of the product
  have houtcome : ∀ {raw : Bytes} {enabled : Bool} {schedule : DeviceSchedule},
      decodeSchedule productKey raw enabled = .ok (some schedule) →
      Picks (fun i => Populated (spec.slot raw i) ∧ ValidSlot productKey spec (spec.slot raw i))
          (List.finRange slotCapacity) (schedule.entries.map ScheduleEntry.slot)
        ∧ Picks (fun i => Populated (spec.slot raw i) ∧ ¬ ValidSlot productKey spec (spec.slot raw i))
          (List.finRange slotCapacity) schedule.invalidSlots
        ∧ ∀ entry ∈ schedule.entries, EntryOf productKey spec raw entry := by
    intro raw enabled schedule h
    obtain ⟨hlen, hslots⟩ := decodeSchedule_ok hspec h
    obtain ⟨entries, invalidSlots, hslots', hpicks⟩ :=
      decodeSlots_outcome hspec hlen (List.finRange slotCapacity) [] []
    rw [hslots] at hslots'
    obtain ⟨hentries, hinvalid⟩ := Prod.mk.inj (Except.ok.inj hslots')
    rw [List.nil_append] at hentries hinvalid
    rw [hentries, hinvalid]
    exact hpicks
  obtain ⟨hpicks, hpicks', hentries⟩ := houtcome hdecoded
  have hsorted : (List.finRange slotCapacity).Pairwise (· < ·) := List.pairwise_lt_finRange _
  refine ⟨schedule, hdecoded, hsorted.sublist hpicks.sublist, hsorted.sublist hpicks'.sublist,
    fun i hi hi' => ((hpicks'.mem_iff i).mp hi').2.2 ((hpicks.mem_iff i).mp hi).2.2,
    fun i => ?_, fun i hi => ?_, fun e he => (hentries e he).bytes, ?_⟩
  · rw [hpicks.mem_iff, hpicks'.mem_iff]
    constructor
    · rintro (h | h)
      · exact h.2.1
      · exact h.2.1
    · intro h
      by_cases hvalid : ValidSlot productKey spec (spec.slot raw i)
      · exact Or.inl ⟨List.mem_finRange i, h, hvalid⟩
      · exact Or.inr ⟨List.mem_finRange i, h, hvalid⟩
  · rw [hpicks.mem_iff]
    exact ⟨fun h => h.2.2, fun h => ⟨List.mem_finRange i, hi, h⟩⟩
  · intro raw' enabled' schedule' hdecoded' heq e he
    obtain ⟨_, _, hentries'⟩ := houtcome hdecoded'
    obtain ⟨e', he', heq⟩ := mem_of_eqList heq e he
    exact slot_congr (hentries e he) (hentries' e' he') heq

/-- An aquarium pump that runs all day, with one slot that starts at a 25th hour. -/
def allDayStatus : Bytes :=
  zeros 13 ++ [0, 0, 0, 0, 1, 100, 25, 0, 0, 0, 1, 100] ++ List.replicate 277 0xEE

theorem schedule_partition_allDay : ∃ schedule,
    decodeSchedule aquariumPumpProductKey allDayStatus true = .ok (some schedule)
      ∧ (0 ∈ schedule.entries.map ScheduleEntry.slot ∨ 0 ∈ schedule.invalidSlots)
      ∧ ¬ (2 ∈ schedule.entries.map ScheduleEntry.slot ∨ 2 ∈ schedule.invalidSlots) := by
  have hspec := List.mem_of_find?_eq_some
    (show scheduleSpecs.find? (fun spec => spec.1 = aquariumPumpProductKey) = some _ from rfl)
  obtain ⟨schedule, hdecoded, _, _, _, hsorted, _⟩ :=
    schedule_partition hspec (show allDayStatus.length = 302 by decide +kernel) true
  refine ⟨schedule, hdecoded, (hsorted 0).mpr (by decide +kernel), fun h => ?_⟩
  exact absurd ((hsorted 2).mp h) (by decide +kernel)

end JebaoFlow
