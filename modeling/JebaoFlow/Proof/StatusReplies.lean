import JebaoFlow.Devices.Reading
import JebaoFlow.Proof.PayloadBits
import JebaoFlow.Proof.ScheduleSlots

/-!
# Status replies that are no device state

A complete status buffer always decodes, and so does its schedule: labels without a
name become numbers and slots that make no sense are listed. Power and frequency have
no such form. A byte above 100 in one of them is refused by the state, and the whole
reading is lost with it.
-/

namespace JebaoFlow

open Bytes

variable {dev : LanJebaoDevice} {schema : ProductSchema} {raw : Bytes}

/-- The power and the frequency of the buffer, where the product has them, are percentages. -/
def PercentagesInRange (schema : ProductSchema) (raw : Bytes) : Prop :=
  ∀ a ∈ schema.attributes,
    schema.powerAttribute = some a.name ∨ schema.frequencyAttribute = some a.name →
      (raw.getD a.position.byteOffset 0).toNat ≤ 100

/-- The values of a complete status buffer. -/
def statusValues (schema : ProductSchema) (raw : Bytes) : Dict String Value :=
  Dict.setAll Datapoint.name (fun a => a.interpret (schema.readNumber raw a)) schema.attributes
    Dict.empty

theorem statusValues_get? {a : Datapoint} (ha : a ∈ schema.attributes) :
    (statusValues schema raw).get? a.name = some (a.interpret (schema.readNumber raw a)) :=
  Dict.get?_setAll_of_mem schema.names_unique ha

/-! ## The percentages -/

/-- The percentages of the products are plain bytes. -/
theorem known_percentage : ∀ schema ∈ knownSchemas, ∀ a ∈ schema.attributes,
    schema.powerAttribute = some a.name ∨ schema.frequencyAttribute = some a.name →
      a.position.unit = .byte ∧ a.position.length = 1 ∧ a.dataType = .uint8 ∧ a.enumValues = [] := by
  decide +kernel

/-- The attribute behind a logical name of the product. -/
theorem logical_attribute {logical : Option String} (hlogical : logical
      ∈ [schema.enabledAttribute, schema.powerAttribute, schema.modeAttribute,
        schema.frequencyAttribute]) :
    logical = none ∨ ∃ a ∈ schema.attributes, logical = some a.name := by
  cases hname : logical with
  | none => exact Or.inl rfl
  | some name =>
      obtain ⟨a, ha, rfl⟩ := List.mem_map.mp (schema.logical_known logical hlogical name hname)
      exact Or.inr ⟨a, ha, rfl⟩

theorem slice_one {start : ℕ} (h : start < raw.length) : slice raw start 1 = [raw.getD start 0] := by
  unfold slice
  rw [List.drop_eq_getElem_cons h, List.take_succ_cons, List.take_zero,
    List.getD_eq_getElem raw 0 h]

theorem percentage_value (hknown : schema ∈ knownSchemas) {a : Datapoint} (ha : a ∈ schema.attributes)
    (hlogical : schema.powerAttribute = some a.name ∨ schema.frequencyAttribute = some a.name)
    (hlen : raw.length = schema.rawStatusSize) :
    (statusValues schema raw).get? a.name
      = some (.int ((raw.getD a.position.byteOffset 0).toNat : ℤ)) := by
  obtain ⟨hunit, hone, huint, hlabels⟩ := known_percentage schema hknown a ha hlogical
  have hstop := schema.within_status a ha
  unfold Position.stop at hstop
  rw [hunit, hone] at hstop
  rw [statusValues_get? ha]
  unfold Datapoint.interpret ProductSchema.readNumber
  rw [hunit, huint, hlabels, hone, slice_one (by rw [hlen]; exact hstop)]
  unfold fromBytesBig
  rw [List.foldl_cons, List.foldl_nil, Nat.zero_mul, Nat.zero_add]
  rfl

theorem percentOf_returns_iff {name : String} {n : ℕ} :
    (∃ percent, percentOf name n = .ok percent) ↔ n ≤ 100 := by
  unfold percentOf
  constructor
  · rintro ⟨percent, h⟩
    split at h
    · omega
    · cases h
  · intro h
    rw [dif_pos ⟨Int.natCast_nonneg n, by omega⟩]
    exact ⟨_, rfl⟩

/-- A whole number is not changed by rounding. -/
theorem round_fin (i : ℤ) : (PyFloat.fin (i : ℚ)).round = .ok i := by
  show Except.ok (pyRound i) = _
  rw [pyRound_intCast]

/-! ## Everything else -/

theorem interpret_scalar (a : Datapoint) (n : ℕ) :
    ∃ scalar, (a.interpret n).toScalar = .ok scalar := by
  unfold Datapoint.interpret
  split
  · exact ⟨_, rfl⟩
  · cases a.enumValues[n]? with
    | none => exact ⟨_, rfl⟩
    | some label => exact ⟨_, rfl⟩

/-- Every decoded value is one that can be reported. -/
theorem observed_returns (entries : List (String × Value))
    (h : ∀ e ∈ entries, e ∈ (statusValues schema raw).entries) :
    ∃ observed, Dict.collect Prod.fst (fun e => e.2.toScalar.map some) entries Dict.empty
      = .ok observed := by
  have hbody : ∀ e ∈ entries,
      e.2.toScalar.map some = .ok (some (e.2.toScalar.toOption.getD .null)) := ?_
  · exact ⟨_, Dict.collect_eq_setAll hbody⟩
  intro e he
  have hget := Dict.get?_eq_some_iff.mpr (h e he)
  obtain ⟨a, ha, _, hvalue⟩ := Dict.item_of_get?
    (P := fun (a : Datapoint) v => v = a.interpret (schema.readNumber raw a))
    (fun k hk => Dict.get?_setAll_of_notMem schema.names_unique hk)
    (fun a ha => ⟨_, statusValues_get? ha, rfl⟩) hget
  obtain ⟨scalar, hscalar⟩ := interpret_scalar a (schema.readNumber raw a)
  rw [hvalue, hscalar]
  rfl

theorem known_schedule (hknown : schema ∈ knownSchemas) :
    scheduleSpec? schema.productKey = none
      ∨ ∃ spec, (schema.productKey, spec) ∈ scheduleSpecs
        ∧ spec.rawStatusSize = schema.rawStatusSize := by
  simp only [knownSchemas, List.mem_cons, List.not_mem_nil, or_false] at hknown
  rcases hknown with rfl | rfl | rfl | rfl | rfl
  · exact Or.inr ⟨_, List.mem_cons_self .., rfl⟩
  · exact Or.inl (by decide)
  · exact Or.inr ⟨_, List.mem_cons_of_mem _ (List.mem_cons_self ..), rfl⟩
  · exact Or.inr ⟨_, List.mem_of_getElem? (i := 3) rfl, rfl⟩
  · exact Or.inr ⟨_, List.mem_of_getElem? (i := 2) rfl, rfl⟩

/-- **A complete status buffer has a schedule, or its product has none.** -/
theorem schedule_returns (hknown : schema ∈ knownSchemas) (hlen : raw.length = schema.rawStatusSize)
    (enabled : Bool) : ∃ schedule, decodeSchedule schema.productKey raw enabled = .ok schedule := by
  rcases known_schedule hknown with hnone | ⟨spec, hspec, hsize⟩
  · unfold decodeSchedule
    rw [hnone]
    exact ⟨none, rfl⟩
  · obtain ⟨schedule, hdecoded⟩ := decodeSchedule_returns hspec (hlen.trans hsize.symm) enabled
    exact ⟨some schedule, hdecoded⟩

/-! ## The state -/

/-- A percentage of the product, and when it is one. -/
theorem logical_percentage (hknown : schema ∈ knownSchemas) (hlen : raw.length = schema.rawStatusSize)
    {logical : Option String}
    (hlogical : logical = schema.powerAttribute ∨ logical = schema.frequencyAttribute) :
    ∃ number : Option ℕ,
      LanJebaoDevice.logicalValue (statusValues schema raw) logical = number.map (fun n : ℕ => Value.int n)
        ∧ ((∀ n ∈ number, n ≤ 100) ↔ ∀ a ∈ schema.attributes, logical = some a.name →
          (raw.getD a.position.byteOffset 0).toNat ≤ 100) := by
  have hknownName : logical ∈ [schema.enabledAttribute, schema.powerAttribute, schema.modeAttribute,
      schema.frequencyAttribute] := by
    rcases hlogical with rfl | rfl <;> simp
  rcases logical_attribute hknownName with rfl | ⟨a, ha, rfl⟩
  · exact ⟨none, rfl, fun _ _ _ h => (nomatch h), fun _ _ h => (nomatch h)⟩
  · have hvalue := percentage_value hknown ha
      (hlogical.imp (fun h => h.symm) (fun h => h.symm)) hlen
    refine ⟨some (raw.getD a.position.byteOffset 0).toNat, hvalue, ?_⟩
    constructor
    · intro h b hb hname
      have hself := List.inj_on_of_nodup_map schema.names_unique ha hb (Option.some.inj hname)
      exact hself ▸ h _ rfl
    · intro h n hn
      cases hn
      exact h a ha rfl

/-- **The values of a complete buffer are a state exactly when its percentages are.** -/
theorem stateOf_returns_iff (hlen : raw.length = dev.schema.rawStatusSize) (observedAt : Datetime) :
    (∃ state, dev.stateOf raw (statusValues dev.schema raw) observedAt = .ok state)
      ↔ PercentagesInRange dev.schema raw := by
  obtain ⟨power, hpower, hpowerRange⟩ := logical_percentage dev.known hlen (Or.inl rfl)
  obtain ⟨frequency, hfrequency, hfrequencyRange⟩ := logical_percentage dev.known hlen (Or.inr rfl)
  have hrange : PercentagesInRange dev.schema raw
      ↔ (∀ n ∈ power, n ≤ 100) ∧ ∀ n ∈ frequency, n ≤ 100 := by
    rw [hpowerRange, hfrequencyRange]
    exact ⟨fun h => ⟨fun a ha hname => h a ha (Or.inl hname), fun a ha hname =>
      h a ha (Or.inr hname)⟩, fun h a ha hname => hname.elim (h.1 a ha) (h.2 a ha)⟩
  obtain ⟨schedule, hschedule⟩ := schedule_returns dev.known hlen
    (((statusValues dev.schema raw).get? "TimerON").any Value.truthy)
  obtain ⟨observed, hobserved⟩ := @observed_returns dev.schema raw
    ((statusValues dev.schema raw).entries.filter (fun e => isObserved e.1))
    (fun e he => List.mem_of_mem_filter he)
  have hpowerFloat : ((power.map (fun n : ℕ => Value.int n)).getD (.int 0)).toFloat
      = .ok (.fin (((power.getD 0 : ℕ) : ℤ) : ℚ)) := by
    cases power with
    | none => rfl
    | some n => rfl
  have hfrequencyValue : (frequency.map (fun n : ℕ => Value.int n)).mapM
      (fun value => do (← value.toFloat).round) = .ok (frequency.map (fun n : ℕ => (n : ℤ))) := by
    cases frequency with
    | none => rfl
    | some n =>
        exact congrArg (fun x => x >>= fun i => Except.ok (some i)) (round_fin n)
  rw [hrange]
  unfold LanJebaoDevice.stateOf LanJebaoDevice.toDeviceState
  rw [hschedule, PyError.bind_of_ok rfl, hpower, hfrequency, hfrequencyValue, hpowerFloat]
  dsimp only
  rw [PyError.bind_of_ok rfl, PyError.bind_of_ok (round_fin _), PyError.bind_of_ok rfl]
  constructor
  · rintro ⟨state, h⟩
    obtain ⟨percent, hpercent, h⟩ := PyError.bind_eq_ok h
    obtain ⟨percents, hpercents, _⟩ := PyError.bind_eq_ok h
    refine ⟨fun n hn => ?_, fun n hn => ?_⟩
    · cases hn
      exact percentOf_returns_iff.mp ⟨percent, hpercent⟩
    · cases hn
      obtain ⟨percent', hpercent', _⟩ := PyError.bind_eq_ok (show
        (percentOf "frequency" (n : ℤ) >>= fun percent => Except.ok (some percent)) = _ from hpercents)
      exact percentOf_returns_iff.mp ⟨percent', hpercent'⟩
  · rintro ⟨hpowerPercent, hfrequencyPercent⟩
    obtain ⟨percent, hpercent⟩ := (@percentOf_returns_iff "power" (power.getD 0)).mpr (by
      cases power with
      | none => exact Nat.zero_le _
      | some n => exact hpowerPercent n rfl)
    have hpercents : ∃ percents, (frequency.map (fun n : ℕ => (n : ℤ))).mapM (percentOf "frequency")
        = .ok percents := by
      cases frequency with
      | none => exact ⟨none, rfl⟩
      | some n =>
          obtain ⟨percent', hpercent'⟩ := percentOf_returns_iff.mpr (hfrequencyPercent n rfl)
          exact ⟨some percent', PyError.bind_of_ok hpercent'⟩
    obtain ⟨percents, hpercents⟩ := hpercents
    rw [hpercent, PyError.bind_of_ok rfl, hpercents, PyError.bind_of_ok rfl, hobserved]
    exact ⟨_, rfl⟩

/-- Reading a complete buffer is making a state of its values. -/
theorem getState_returns_iff (hlen : raw.length = dev.schema.rawStatusSize) (s : LanState)
    (observedAt : Datetime) : (∃ state, (dev.getState (.ok raw) observedAt s).1 = .ok state)
      ↔ ∃ state, dev.stateOf raw (statusValues dev.schema raw) observedAt = .ok state := by
  unfold LanJebaoDevice.getState LanJebaoDevice.readValues
  dsimp only
  rw [decodeStatus_known dev.known hlen]
  dsimp only
  unfold statusValues
  split
  · rename_i e hstate
    rw [hstate]
    refine iff_of_false ?_ ?_
    · rintro ⟨_, h⟩
      cases h
    · rintro ⟨_, h⟩
      cases h
  · rename_i state hstate
    rw [hstate]
    exact iff_of_true ⟨state, rfl⟩ ⟨state, rfl⟩

/-- **A complete status reply yields a state exactly when its percentages are in range.** -/
theorem status_reply_state_iff (dev : LanJebaoDevice) (s : LanState) (observedAt : Datetime)
    {raw : Bytes} (hlen : raw.length = dev.schema.rawStatusSize) :
    (∃ state, (dev.getState (.ok raw) observedAt s).1 = .ok state)
      ↔ PercentagesInRange dev.schema raw :=
  (getState_returns_iff hlen s observedAt).trans (stateOf_returns_iff hlen observedAt)

/-- A status of the pump whose flow byte is the given one. -/
def flowStatus (flow : UInt8) : Bytes := [0, 0, flow] ++ zeros 399

/-- A pump to read from. -/
def readPump : LanJebaoDevice where
  deviceId := "return"
  schema := dcPumpPro
  powerLimits := ⟨0, 100, by decide⟩
  known := List.mem_cons_self ..
  step_range := LanJebaoDevice.step_default
  interval_ge := LanJebaoDevice.interval_default
  attempts_pos := LanJebaoDevice.attempts_default

/-- A flow of 100 is reported. -/
theorem status_reply_state_iff_readPump :
    ∃ state, (readPump.getState (.ok (flowStatus 100)) 0 {}).1 = .ok state := by
  refine (status_reply_state_iff readPump {} 0 (by decide +kernel)).mpr ?_
  unfold PercentagesInRange
  decide +kernel

/-- A flow of 101, and nothing of the status is reported. -/
theorem status_reply_lost_readPump :
    ¬ ∀ (dev : LanJebaoDevice) (s : LanState) (observedAt : Datetime) (raw : Bytes),
      raw.length = dev.schema.rawStatusSize →
        ∃ state, (dev.getState (.ok raw) observedAt s).1 = .ok state := by
  intro h
  have hlen : (flowStatus 101).length = readPump.schema.rawStatusSize := by decide +kernel
  have hrange := (stateOf_returns_iff hlen 0).mp
    ((getState_returns_iff hlen {} 0).mp (h readPump {} 0 (flowStatus 101) hlen))
  have hflow := hrange (uint8Datapoint 3 "Flow" 2 0 100)
    (List.mem_of_getElem? (i := 3) rfl) (Or.inl rfl)
  exact absurd hflow (by decide +kernel)

end JebaoFlow
