import JebaoFlow.HomeAssistant.Schedule

/-!
# What the schedule sensor lets through

The sensor is meant to survive any JSON and to show well-formed slots only. All of its
checks do that except the one of a time: characters that are digits without being decimal
pass the first half and are refused by the conversion, with an exception, and the decimal
digits of other scripts pass both.
-/

namespace JebaoFlow.HomeAssistant

open PyStr

/-! ## Times -/

/-- Two decimal digits as a number. -/
def twoDecimals (a b : CodePoint) : Option ℕ := do
  let tens ← decimal? a
  let ones ← decimal? b
  some (tens * 10 + ones)

/-- Five characters with a colon in the middle and digits around it. -/
structure ClockText (value : Json) (a b c d : CodePoint) : Prop where
  text : value = .str [a, b, ofChar ':', c, d]
  hour : isDigit a = true ∧ isDigit b = true
  minute : isDigit c = true ∧ isDigit d = true

/-- Digits that the conversion is asked for and does not read. -/
def Unreadable (value : Json) : Prop :=
  ∃ a b c d, ClockText value a b c d ∧ (twoDecimals a b = none
    ∨ ∃ hour, twoDecimals a b = some hour ∧ hour < 24 ∧ twoDecimals c d = none)

/-- A time of the day, in the digits of any script, or the end of the day. -/
def Readable (value : Json) : Prop :=
  value = .str (ofString "24:00") ∨ ∃ a b c d hour minute, value = .str [a, b, ofChar ':', c, d]
    ∧ twoDecimals a b = some hour ∧ twoDecimals c d = some minute ∧ hour < 24 ∧ minute < 60

/-- Written in ASCII. -/
def Ascii (value : Json) : Prop := ∃ text, value = .str text ∧ ∀ c ∈ text, c.val < 0x80

theorem midnight_text : ofString "24:00"
    = [ofChar '2', ofChar '4', ofChar ':', ofChar '0', ofChar '0'] := by decide

theorem midnight_ascii : ∀ c ∈ ofString "24:00", c.val < 0x80 := by
  have hvals : (ofString "24:00").map Fin.val = [0x32, 0x34, 0x3A, 0x30, 0x30] := by decide
  intro c hc
  have hmem : c.val ∈ (ofString "24:00").map Fin.val := List.mem_map_of_mem hc
  rw [hvals] at hmem
  revert hmem
  generalize c.val = v
  revert v
  decide

theorem twoDecimals_some {a b : CodePoint} {value : ℕ} (h : twoDecimals a b = some value) :
    isDigit a = true ∧ isDigit b = true := by
  unfold twoDecimals at h
  obtain ⟨tens, htens, h⟩ := Option.bind_eq_some_iff.mp h
  obtain ⟨ones, hones, _⟩ := Option.bind_eq_some_iff.mp h
  exact ⟨isDigit_of_decimal? htens, isDigit_of_decimal? hones⟩

/-- The conversion of two digits. -/
theorem int_two (a b : CodePoint) : PyStr.int [a, b] = match twoDecimals a b with
    | some value => .ok value
    | none => .error (.valueError "invalid literal for int() with base 10") := by
  unfold PyStr.int twoDecimals
  rw [List.mapM_cons, List.mapM_cons, List.mapM_nil]
  cases decimal? a with
  | none => rfl
  | some tens =>
      cases decimal? b with
      | none => rfl
      | some ones =>
          show Except.ok ((0 * 10 + tens) * 10 + ones) = Except.ok (tens * 10 + ones)
          rw [Nat.zero_mul, Nat.zero_add]

theorem isdigit_two (a b : CodePoint) : isdigit [a, b] = (isDigit a && isDigit b) := by
  unfold isdigit
  simp

/-- What is no text of the right shape is no time. -/
theorem isScheduleTime_of_shape {value : Json} (h : ¬ ∃ a b c d, ClockText value a b c d) :
    isScheduleTime value = .ok false := by
  unfold isScheduleTime
  split
  · rename_i a b colon c d
    split
    · rfl
    · rename_i hcolon
      obtain rfl : colon = ofChar ':' := not_not.mp hcolon
      split
      · rfl
      · rename_i hdigits
        rw [isdigit_two, isdigit_two] at hdigits
        simp only [Bool.or_eq_true, Bool.not_eq_true', not_or, Bool.not_eq_false,
          Bool.and_eq_true] at hdigits
        exact absurd ⟨a, b, c, d, rfl, hdigits.1, hdigits.2⟩ h
  · rfl

/-- What the check makes of a text of the right shape. -/
theorem isScheduleTime_clock {value : Json} {a b c d : CodePoint} (h : ClockText value a b c d) :
    isScheduleTime value = if [a, b, ofChar ':', c, d] = ofString "24:00" then .ok true else
      match twoDecimals a b, twoDecimals c d with
      | none, _ => .error (.valueError "invalid literal for int() with base 10")
      | some hour, none => if hour < 24
          then .error (.valueError "invalid literal for int() with base 10") else .ok false
      | some hour, some minute => .ok (decide (hour < 24 ∧ minute < 60)) := by
  obtain ⟨rfl, ⟨ha, hb⟩, hc, hd⟩ := h
  have hhour : isdigit [a, b] = true := by rw [isdigit_two, ha, hb]; rfl
  have hminute : isdigit [c, d] = true := by rw [isdigit_two, hc, hd]; rfl
  rw [isScheduleTime, if_neg (not_not.mpr rfl), hhour, hminute, if_neg (by decide)]
  split
  · rfl
  rw [int_two, int_two]
  cases twoDecimals a b with
  | none => rfl
  | some hour =>
      by_cases hlt : hour < 24
      · cases twoDecimals c d with
        | none =>
            rw [PyError.bind_of_ok rfl, if_neg (not_not.mpr hlt)]
            exact (if_pos hlt).symm
        | some minute =>
            rw [PyError.bind_of_ok rfl, if_neg (not_not.mpr hlt)]
            simp [hlt, PyError.bind_of_ok]
      · cases twoDecimals c d with
        | none =>
            rw [PyError.bind_of_ok rfl, if_pos hlt]
            exact (if_neg hlt).symm
        | some minute =>
            rw [PyError.bind_of_ok rfl, if_pos hlt]
            simp [hlt]

theorem ClockText.inj {value : Json} {a b c d a' b' c' d' : CodePoint}
    (h : ClockText value a b c d) (h' : ClockText value a' b' c' d') :
    a = a' ∧ b = b' ∧ c = c' ∧ d = d' := by
  have heq := h.text.symm.trans h'.text
  simp only [Json.str.injEq, List.cons.injEq, and_true, true_and] at heq
  exact heq

theorem unreadable_clock {value : Json} {a b c d : CodePoint} (h : ClockText value a b c d) :
    Unreadable value ↔ twoDecimals a b = none
      ∨ ∃ hour, twoDecimals a b = some hour ∧ hour < 24 ∧ twoDecimals c d = none := by
  constructor
  · rintro ⟨a', b', c', d', h', hnone⟩
    obtain ⟨rfl, rfl, rfl, rfl⟩ := h.inj h'
    exact hnone
  · exact fun hnone => ⟨a, b, c, d, h, hnone⟩

theorem readable_clock {value : Json} {a b c d : CodePoint} (h : ClockText value a b c d) :
    Readable value ↔ [a, b, ofChar ':', c, d] = ofString "24:00"
      ∨ ∃ hour minute, twoDecimals a b = some hour ∧ twoDecimals c d = some minute
        ∧ hour < 24 ∧ minute < 60 := by
  unfold Readable
  rw [h.text, Json.str.injEq]
  refine or_congr_right ⟨?_, fun ⟨hour, minute, htimes⟩ => ⟨a, b, c, d, hour, minute, rfl, htimes⟩⟩
  rintro ⟨a', b', c', d', hour, minute, heq, htimes⟩
  simp only [Json.str.injEq, List.cons.injEq, and_true, true_and] at heq
  obtain ⟨rfl, rfl, rfl, rfl⟩ := heq
  exact ⟨hour, minute, htimes⟩

/-- A readable text is in shape. -/
theorem Readable.clock {value : Json} (h : Readable value) : ∃ a b c d, ClockText value a b c d := by
  rcases h with rfl | ⟨a, b, c, d, hour, minute, rfl, hhour, hminute, _⟩
  · exact ⟨ofChar '2', ofChar '4', ofChar '0', ofChar '0', rfl, by decide, by decide⟩
  · exact ⟨a, b, c, d, rfl, twoDecimals_some hhour, twoDecimals_some hminute⟩

/-- **The check of a time raises on what it takes for digits and cannot read.** -/
theorem isScheduleTime_raises_iff {value : Json} :
    (∃ e, isScheduleTime value = .error e) ↔ Unreadable value := by
  by_cases hshape : ∃ a b c d, ClockText value a b c d
  · obtain ⟨a, b, c, d, hclock⟩ := hshape
    rw [isScheduleTime_clock hclock, unreadable_clock hclock]
    by_cases hmidnight : [a, b, ofChar ':', c, d] = ofString "24:00"
    · have hhour : twoDecimals a b = some 24 := by
        rw [midnight_text] at hmidnight
        simp only [List.cons.injEq] at hmidnight
        obtain ⟨rfl, rfl, _⟩ := hmidnight
        decide
      rw [if_pos hmidnight, hhour]
      simp
    · rw [if_neg hmidnight]
      cases twoDecimals a b with
      | none => simp
      | some hour =>
          cases twoDecimals c d with
          | none => by_cases hlt : hour < 24 <;> simp [hlt]
          | some minute => simp
  · rw [isScheduleTime_of_shape hshape]
    refine ⟨fun ⟨e, h⟩ => (by cases h), ?_⟩
    rintro ⟨a, b, c, d, hclock, _⟩
    exact absurd ⟨a, b, c, d, hclock⟩ hshape

/-- **It accepts the times of the day, in the digits of any script.** -/
theorem isScheduleTime_true_iff {value : Json} : isScheduleTime value = .ok true ↔ Readable value := by
  by_cases hshape : ∃ a b c d, ClockText value a b c d
  · obtain ⟨a, b, c, d, hclock⟩ := hshape
    rw [isScheduleTime_clock hclock, readable_clock hclock]
    by_cases hmidnight : [a, b, ofChar ':', c, d] = ofString "24:00"
    · rw [if_pos hmidnight]
      simp [hmidnight]
    · rw [if_neg hmidnight, or_iff_right hmidnight]
      cases twoDecimals a b with
      | none => simp
      | some hour =>
          cases twoDecimals c d with
          | none => by_cases hlt : hour < 24 <;> simp [hlt]
          | some minute => simp
  · rw [isScheduleTime_of_shape hshape]
    exact ⟨fun h => (by cases h), fun h => absurd h.clock hshape⟩

/-! ## Entries -/

/-- `HH:MM` in ASCII digits within the day, or `24:00`. -/
def IsClock (text : PyStr) : Prop :=
  text = ofString "24:00" ∨ ∃ a b c d : CodePoint, text = [a, b, ofChar ':', c, d]
    ∧ (∀ digit ∈ [a, b, c, d], 0x30 ≤ digit.val ∧ digit.val ≤ 0x39)
    ∧ (a.val - 0x30) * 10 + (b.val - 0x30) < 24 ∧ (c.val - 0x30) * 10 + (d.val - 0x30) < 60

/-- A scalar; a number is finite. -/
def FiniteScalar : Json → Prop
  | .null | .bool _ | .int _ | .str _ => True
  | .float x => x.isFinite = true
  | .list _ | .dict _ => False

/-- Keys that are neither blank nor look raw, and scalars. -/
def SoundParameters (parameters : Dict PyStr Json) : Prop :=
  ∀ key value, parameters.get? key = some value →
    key ≠ [] ∧ looksRaw key = false ∧ FiniteScalar value

/-- What an entry is meant to be. -/
structure SoundEntry (entry : ShownEntry) : Prop where
  slot : 0 ≤ entry.slot ∧ entry.slot ≤ 47
  start : IsClock entry.start
  «end» : IsClock entry.end
  mode : entry.mode ≠ []
  modeCode : 0 ≤ entry.modeCode ∧ entry.modeCode ≤ 255
  parameters : SoundParameters entry.parameters

theorem scheduleScalar_finite {value safe : Json} (h : scheduleScalar value = some safe) :
    FiniteScalar safe := by
  cases value with
  | null | bool | int | str => cases h; trivial
  | float x =>
      rw [scheduleScalar] at h
      split at h
      · rename_i hfinite
        cases h
        exact hfinite
      · cases h
  | list | dict => cases h

theorem keepParameter_sound {safe : Dict PyStr Json} (h : SoundParameters safe)
    (entry : PyStr × Json) : SoundParameters (keepParameter safe entry) := by
  unfold keepParameter
  dsimp only
  split
  · exact h
  rename_i hkey
  obtain ⟨hne, hraw⟩ := not_or.mp hkey
  split
  · rename_i safeValue hscalar
    intro key value hget
    rw [Dict.get?_set] at hget
    split at hget
    · rename_i heq
      cases hget
      exact heq ▸ ⟨hne, Bool.not_eq_true _ ▸ hraw, scheduleScalar_finite hscalar⟩
    · exact h key value hget
  · exact h

/-- **Whatever the parameters are, the ones kept are sound.** -/
theorem safeParameters_sound (parameters : Json) : SoundParameters (safeParameters parameters) := by
  have hempty : SoundParameters Dict.empty := fun _ _ h => by cases h
  cases parameters with
  | dict items =>
      show SoundParameters (List.foldl keepParameter Dict.empty (items.take 16))
      generalize items.take 16 = items
      revert hempty
      generalize (Dict.empty : Dict PyStr Json) = safe
      induction items generalizing safe with
      | nil => exact fun h => h
      | cons entry items ih => exact fun h => ih _ (keepParameter_sound h entry)
  | null | bool | int | float | str | list => exact hempty

/-- Two ASCII characters that are read are digits of ASCII, and are read as such. -/
theorem twoDecimals_ascii {a b : CodePoint} {value : ℕ} (h : twoDecimals a b = some value)
    (ha : a.val < 0x80) (hb : b.val < 0x80) :
    (0x30 ≤ a.val ∧ a.val ≤ 0x39) ∧ (0x30 ≤ b.val ∧ b.val ≤ 0x39)
      ∧ value = (a.val - 0x30) * 10 + (b.val - 0x30) := by
  unfold twoDecimals at h
  obtain ⟨tens, htens, h⟩ := Option.bind_eq_some_iff.mp h
  obtain ⟨ones, hones, h⟩ := Option.bind_eq_some_iff.mp h
  have hadigit := ascii_of_decimal? htens ha
  have hbdigit := ascii_of_decimal? hones hb
  rw [decimal?_ascii hadigit] at htens
  rw [decimal?_ascii hbdigit] at hones
  cases htens
  cases hones
  exact ⟨hadigit, hbdigit, (Option.some.inj h).symm⟩

/-- Readable text is a clock exactly in ASCII. -/
theorem isClock_iff {text : PyStr} :
    IsClock text ↔ Readable (.str text) ∧ ∀ c ∈ text, c.val < 0x80 := by
  constructor
  · rintro (rfl | ⟨a, b, c, d, rfl, hdigits, hhour, hminute⟩)
    · exact ⟨Or.inl rfl, midnight_ascii⟩
    · simp only [List.mem_cons, List.not_mem_nil, or_false, forall_eq_or_imp, forall_eq] at hdigits
      obtain ⟨ha, hb, hc, hd⟩ := hdigits
      refine ⟨Or.inr ⟨a, b, c, d, _, _, rfl, ?_, ?_, hhour, hminute⟩, ?_⟩
      · unfold twoDecimals
        rw [decimal?_ascii ha, decimal?_ascii hb]
        rfl
      · unfold twoDecimals
        rw [decimal?_ascii hc, decimal?_ascii hd]
        rfl
      · simp only [List.mem_cons, List.not_mem_nil, or_false, forall_eq_or_imp, forall_eq]
        have hcolon : (ofChar ':').val < 0x80 := by decide
        exact ⟨by omega, by omega, hcolon, by omega, by omega⟩
  · rintro ⟨hmidnight | ⟨a, b, c, d, hour, minute, htext, hhour, hminute, hlt⟩, hascii⟩
    · exact Or.inl (Json.str.inj hmidnight)
    · obtain rfl := Json.str.inj htext
      simp only [List.mem_cons, List.not_mem_nil, or_false, forall_eq_or_imp, forall_eq] at hascii
      obtain ⟨ha, hb, _, hc, hd⟩ := hascii
      obtain ⟨ha, hb, rfl⟩ := twoDecimals_ascii hhour ha hb
      obtain ⟨hc, hd, rfl⟩ := twoDecimals_ascii hminute hc hd
      refine Or.inr ⟨a, b, c, d, rfl, ?_, hlt⟩
      simp only [List.mem_cons, List.not_mem_nil, or_false, forall_eq_or_imp, forall_eq]
      exact ⟨ha, hb, hc, hd⟩

/-! ## What is read of an item -/

/-- The rest of the checks of a slot would let it through. -/
def Complete (items : List (PyStr × Json)) : Prop := ∃ mode, checkedMode items = some mode

/-- **The times of a slot are read as they are meant.** -/
structure WellRead (items : List (PyStr × Json)) : Prop where
  start : ¬ Unreadable (field items "start")
  «end» : Readable (field items "start") → ¬ Unreadable (field items "end")
  ascii : Readable (field items "start") → Readable (field items "end") → Complete items →
    Ascii (field items "start") ∧ Ascii (field items "end")

/-- The condition on an item of the list. -/
def ReadsWell (item : Json) : Prop :=
  ∀ items, item = .dict items → (checkedSlot items).isSome = true → WellRead items

/-- The item is handled as it is meant: nothing is raised, and an entry made of it is sound. -/
def HandledWell (item : Json) : Prop :=
  ∃ entry, scheduleEntry item = .ok entry ∧ ∀ e ∈ entry, SoundEntry e

theorem checkedSlot_range {items : List (PyStr × Json)} {slot : ℤ}
    (h : checkedSlot items = some slot) : 0 ≤ slot ∧ slot ≤ 47 := by
  unfold checkedSlot at h
  split at h
  · split at h
    · rename_i hrange
      cases h
      unfold scheduleSlotCapacity at hrange
      omega
    · cases h
  · cases h

theorem checkedMode_sound {items : List (PyStr × Json)} {mode : PyStr} {modeCode : ℤ}
    (h : checkedMode items = some (mode, modeCode)) :
    (strip mode).take 64 ≠ [] ∧ 0 ≤ modeCode ∧ modeCode ≤ 255 := by
  unfold checkedMode at h
  split at h
  · split at h
    · rename_i hchecks
      cases h
      refine ⟨fun hnil => ?_, hchecks.2⟩
      rcases List.take_eq_nil_iff.mp hnil with hzero | hnil
      · cases hzero
      · exact hchecks.1 hnil
    · cases h
  · cases h

theorem Readable.text {value : Json} (h : Readable value) : ∃ text, value = .str text := by
  obtain ⟨a, b, c, d, hclock⟩ := h.clock
  exact ⟨_, hclock.text⟩

theorem isScheduleTime_ok {value : Json} (h : ¬ Unreadable value) :
    isScheduleTime value = .ok true ∨ isScheduleTime value = .ok false := by
  cases hcheck : isScheduleTime value with
  | error e => exact absurd (isScheduleTime_raises_iff.mp ⟨e, hcheck⟩) h
  | ok accepted =>
      cases accepted with
      | true => exact Or.inl rfl
      | false => exact Or.inr rfl

/-- The entry of an item whose times are readable, if the rest of it will do. -/
theorem scheduleEntry_of_times {items : List (PyStr × Json)} {slot : ℤ} {start stop : PyStr}
    (hslot : checkedSlot items = some slot) (hstart : field items "start" = .str start)
    (hstop : field items "end" = .str stop) (hstarts : Readable (.str start))
    (hends : Readable (.str stop)) :
    scheduleEntry (.dict items) = .ok ((checkedMode items).map fun mode =>
      { slot, start, «end» := stop, mode := (strip mode.1).take 64, modeCode := mode.2
        parameters := safeParameters (field items "parameters") }) := by
  simp only [scheduleEntry, hslot, hstart, hstop]
  rw [PyError.bind_of_ok (isScheduleTime_true_iff.mpr hstarts), if_neg (by decide),
    PyError.bind_of_ok (isScheduleTime_true_iff.mpr hends), if_neg (by decide)]
  cases checkedMode items with
  | none => rfl
  | some mode => rfl

theorem scheduleEntry_sound {items : List (PyStr × Json)} {slot : ℤ} {start stop mode : PyStr}
    {modeCode : ℤ} (hslot : checkedSlot items = some slot)
    (hmode : checkedMode items = some (mode, modeCode)) (hstart : IsClock start)
    (hstop : IsClock stop) : SoundEntry
      { slot, start, «end» := stop, mode := (strip mode).take 64, modeCode
        parameters := safeParameters (field items "parameters") } where
  slot := checkedSlot_range hslot
  start := hstart
  «end» := hstop
  mode := (checkedMode_sound hmode).1
  modeCode := (checkedMode_sound hmode).2
  parameters := safeParameters_sound _

/-- **A slot is handled well exactly when its times are read well.** -/
theorem handledWell_slot {items : List (PyStr × Json)} {slot : ℤ}
    (hslot : checkedSlot items = some slot) : HandledWell (.dict items) ↔ WellRead items := by
  constructor
  · rintro ⟨entry, hentry, hsound⟩
    have hstart : ¬ Unreadable (field items "start") := by
      intro hunreadable
      obtain ⟨e, he⟩ := isScheduleTime_raises_iff.mpr hunreadable
      simp only [scheduleEntry, hslot, PyError.bind_of_error he] at hentry
      cases hentry
    refine ⟨hstart, fun hstarts hunreadable => ?_, fun hstarts hends hcomplete => ?_⟩
    · obtain ⟨e, he⟩ := isScheduleTime_raises_iff.mpr hunreadable
      simp only [scheduleEntry, hslot, PyError.bind_of_ok (isScheduleTime_true_iff.mpr hstarts),
        PyError.bind_of_error he, Bool.true_eq_false, if_false] at hentry
      cases hentry
    · obtain ⟨start, htext⟩ := hstarts.text
      obtain ⟨stop, htext'⟩ := hends.text
      obtain ⟨mode, hmode⟩ := hcomplete
      rw [htext] at hstarts
      rw [htext'] at hends
      rw [scheduleEntry_of_times hslot htext htext' hstarts hends, hmode] at hentry
      have hshown := hsound _ (Option.mem_def.mpr (Except.ok.inj hentry).symm)
      exact ⟨⟨start, htext, (isClock_iff.mp hshown.start).2⟩,
        ⟨stop, htext', (isClock_iff.mp hshown.end).2⟩⟩
  · rintro ⟨hstart, hend, hascii⟩
    rcases isScheduleTime_ok hstart with hstarts | hstarts
    swap
    · refine ⟨none, ?_, fun _ h => by cases h⟩
      simp only [scheduleEntry, hslot, PyError.bind_of_ok hstarts, if_true]
    have hreadable := isScheduleTime_true_iff.mp hstarts
    rcases isScheduleTime_ok (hend hreadable) with hends | hends
    swap
    · refine ⟨none, ?_, fun _ h => by cases h⟩
      simp only [scheduleEntry, hslot, PyError.bind_of_ok hstarts, PyError.bind_of_ok hends,
        Bool.true_eq_false, if_false, if_true]
    have hreadable' := isScheduleTime_true_iff.mp hends
    obtain ⟨start, htext⟩ := hreadable.text
    obtain ⟨stop, htext'⟩ := hreadable'.text
    refine ⟨_, scheduleEntry_of_times hslot htext htext' (htext ▸ hreadable) (htext' ▸ hreadable'),
      fun e he => ?_⟩
    obtain ⟨mode, hmode, rfl⟩ := Option.map_eq_some_iff.mp he
    obtain ⟨⟨start', hstart', hascii⟩, stop', hstop', hascii'⟩ :=
      hascii hreadable hreadable' ⟨mode, hmode⟩
    obtain rfl := Json.str.inj (hstart'.symm.trans htext)
    obtain rfl := Json.str.inj (hstop'.symm.trans htext')
    exact scheduleEntry_sound hslot hmode (isClock_iff.mpr ⟨htext ▸ hreadable, hascii⟩)
      (isClock_iff.mpr ⟨htext' ▸ hreadable', hascii'⟩)

/-- The same of any item; what is no slot is passed over. -/
theorem handledWell_iff (item : Json) : HandledWell item ↔ ReadsWell item := by
  have hpassed : ∀ {item : Json}, scheduleEntry item = .ok none → HandledWell item :=
    fun h => ⟨none, h, fun _ h => by cases h⟩
  cases item with
  | dict items =>
      cases hslot : checkedSlot items with
      | none =>
          refine iff_of_true (hpassed (by simp only [scheduleEntry, hslot])) ?_
          intro items' heq hsome
          cases heq
          rw [hslot] at hsome
          cases hsome
      | some slot =>
          rw [handledWell_slot hslot]
          constructor
          · intro h items' heq _
            cases heq
            exact h
          · exact fun h => h items rfl (by rw [hslot]; rfl)
  | null | bool | int | float | str | list => exact iff_of_true (hpassed rfl) (fun _ heq => by cases heq)

/-! ## The whole schedule -/

/-- The sanitizer survives the value and shows sound entries only. -/
def Sanitized (value : Json) : Prop :=
  ∃ entries, scheduleEntries value = .ok entries ∧ ∀ entry ∈ entries, SoundEntry entry

/-- What the loop returns is well handled item by item. -/
theorem scheduleEntriesFrom_iff : ∀ items : List Json,
    (∃ entries, scheduleEntriesFrom items = .ok entries ∧ ∀ entry ∈ entries, SoundEntry entry)
      ↔ ∀ item ∈ items, HandledWell item
  | [] => iff_of_true ⟨[], rfl, fun _ h => (by cases h)⟩ (fun _ h => (by cases h))
  | item :: items => by
      rw [List.forall_mem_cons, ← scheduleEntriesFrom_iff items]
      constructor
      · rintro ⟨entries, hentries, hsound⟩
        obtain ⟨entry, hentry, hrest⟩ := PyError.bind_eq_ok hentries
        obtain ⟨others, hothers, hjoined⟩ := PyError.bind_eq_ok hrest
        obtain rfl := Except.ok.inj hjoined
        exact ⟨⟨entry, hentry, fun e he =>
            hsound e (List.mem_append_left _ (Option.mem_toList.mpr he))⟩,
          others, hothers, fun e he => hsound e (List.mem_append_right _ he)⟩
      · rintro ⟨⟨entry, hentry, hsound⟩, others, hothers, hsounds⟩
        refine ⟨entry.toList ++ others, ?_, fun e he => ?_⟩
        · rw [scheduleEntriesFrom, PyError.bind_of_ok hentry, PyError.bind_of_ok hothers]
        · rcases List.mem_append.mp he with he | he
          · exact hsound e (Option.mem_toList.mp he)
          · exact hsounds e he

/--
**The sanitizer survives and is sound exactly when the times of the slots are read as they
are meant.**

Only the first 48 items count, and of those the objects with an integer slot in range.
-/
theorem schedule_sanitized_iff (value : Json) :
    Sanitized value ↔ ∀ items, value = .list items →
      ∀ item ∈ items.take scheduleSlotCapacity, ReadsWell item := by
  cases value with
  | list items =>
      refine (scheduleEntriesFrom_iff _).trans ?_
      constructor
      · intro h items' heq item hitem
        cases heq
        exact (handledWell_iff item).mp (h item hitem)
      · exact fun h item hitem => (handledWell_iff item).mpr (h items rfl item hitem)
  | null | bool | int | float | str | dict =>
      exact iff_of_true ⟨[], rfl, fun _ h => (by cases h)⟩ (fun _ heq => (by cases heq))

/-- A slot that starts at the hour of two superscripts. -/
def superscriptSchedule : Json :=
  .list [.dict [(ofString "slot", .int 0), (ofString "start", .str (ofString "²²:00")),
    (ofString "end", .str (ofString "23:00")), (ofString "mode", .str (ofString "sine")),
    (ofString "mode_code", .int 1)]]

/-- It takes the sensor down: both superscripts are digits, and neither is a decimal one. -/
theorem schedule_sanitizer_raises_superscripts : ¬ ∀ value, Sanitized value := by
  intro h
  obtain ⟨entries, hentries, _⟩ := h superscriptSchedule
  have hraises : (scheduleEntries superscriptSchedule).toOption.isSome = false := by decide +kernel
  rw [hentries] at hraises
  cases hraises

end JebaoFlow.HomeAssistant
