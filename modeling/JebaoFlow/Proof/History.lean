import JebaoFlow.Lib.Records
import JebaoFlow.Proof.Changes

/-!
# Change timestamps follow their definition

A device record is updated one observation at a time, with commands, status reports
and late reads in between. What it says about the pump is a function of the reads
delivered so far: the accepted ones are the records of that sequence, the last of
them is what the device shows, and the two change timestamps are those of the last
accepted read that differs from the one accepted before it.
-/

namespace JebaoFlow

open Records

variable {cfg : AppConfig} {units : UnitSource}

/-! ## The history of a device -/

/-- What a device record says about the reads of the pump. -/
structure History where
  actualEnabled : Option Bool := none
  actualPower : Option Percent := none
  actualMode : Option String := none
  actualFrequency : Option Percent := none
  observedAttributes : Dict String Scalar := Dict.empty
  schedule : Option DeviceSchedule := none
  lastSeenAt : Option Datetime := none
  lastChangedAt : Option Datetime := none
  lastConfigurationChangedAt : Option Datetime := none

def DeviceStatePayload.history (device : DeviceStatePayload) : History where
  actualEnabled := device.actualEnabled
  actualPower := device.actualPower
  actualMode := device.actualMode
  actualFrequency := device.actualFrequency
  observedAttributes := device.observedAttributes
  schedule := device.schedule
  lastSeenAt := device.lastSeenAt
  lastChangedAt := device.lastChangedAt
  lastConfigurationChangedAt := device.lastConfigurationChangedAt

/-- The pump runs differently. -/
def operationDiffers (a b : DeviceState) : Bool :=
  (a.enabled, a.power, a.mode, a.frequency) ≠ (b.enabled, b.power, b.mode, b.frequency)

/-- The pump is set up differently, its clock aside. -/
def configurationDiffers (a b : DeviceState) : Bool :=
  !Scalar.eqDict a.observedAttributes b.observedAttributes
    || !scheduleConfigurationEq (scheduleConfiguration a.schedule) (scheduleConfiguration b.schedule)

/-- The read of this device an operation delivers. -/
def deliveredRead (did : String) : ServiceOp → Option DeviceState
  | .observe event _ => if event.deviceId = did then event.state else none
  | _ => none

/-- The reads of this device accepted from those delivered. -/
def acceptedReads (reads : List DeviceState) : List DeviceState :=
  records DeviceState.observedAt reads

/-- What the accepted reads say. -/
def historyOf (accepted : List DeviceState) : History where
  actualEnabled := accepted.getLast?.map (·.enabled)
  actualPower := accepted.getLast?.map (·.power)
  actualMode := accepted.getLast?.map (·.mode)
  actualFrequency := accepted.getLast?.bind (·.frequency)
  observedAttributes := (accepted.getLast?.map (·.observedAttributes)).getD Dict.empty
  schedule := accepted.getLast?.bind (·.schedule)
  lastSeenAt := accepted.getLast?.map (·.observedAt)
  lastChangedAt := latestChange DeviceState.observedAt operationDiffers accepted
  lastConfigurationChangedAt := latestChange DeviceState.observedAt configurationDiffers accepted

/-! ## One event -/

section Events

variable {current : DeviceStatePayload} {accepted : List DeviceState} {state : DeviceState}

/-- A read is dropped as stale exactly when it is not later than every accepted one. -/
theorem isStale_iff {reads : List DeviceState}
    (h : current.history = historyOf (acceptedReads reads)) :
    isStale current state = false
      ↔ (acceptedReads reads).all (·.observedAt < state.observedAt) = true := by
  have hseen : current.lastSeenAt = (acceptedReads reads).getLast?.map (·.observedAt) :=
    congrArg History.lastSeenAt h
  unfold acceptedReads at hseen ⊢
  rw [later_iff]
  unfold isStale
  rw [hseen]
  cases (records DeviceState.observedAt reads).getLast? with
  | none => simp
  | some r => simp

/-- **An accepted read extends the history.** -/
theorem mergeRead_history (h : current.history = historyOf accepted) :
    (mergeRead current state).1.history = historyOf (accepted ++ [state]) := by
  unfold historyOf DeviceStatePayload.history at h
  rw [History.mk.injEq] at h
  obtain ⟨henabled, hpower, hmode, hfrequency, hattributes, hschedule, hseen, hchanged,
    hconfiguration⟩ := h
  unfold mergeRead historyOf DeviceStatePayload.history
  dsimp only
  rw [List.getLast?_concat, latestChange_concat, latestChange_concat, henabled, hpower, hmode,
    hfrequency, hattributes, hschedule, hseen, hchanged, hconfiguration]
  -- without an accepted read there is no baseline, and with one it is what the record shows
  cases accepted.getLast? with
  | none => rfl
  | some r => simp [operationDiffers, configurationDiffers]

/-- A status report says nothing about the reads. -/
theorem mergeReport_history (event : ObserverEvent) :
    (mergeReport current event).1.history = current.history := rfl

/-- A fresh event extends the history by the read it carries, if any. -/
theorem mergeEvent_history {event : ObserverEvent} (h : current.history = historyOf accepted) :
    (mergeEvent current event).1.history = historyOf (accepted ++ event.state.toList) := by
  unfold mergeEvent
  cases event.state with
  | none =>
      rw [Option.toList_none, List.append_nil]
      exact (mergeReport_history event).trans h
  | some state => exact mergeRead_history h

end Events

section Steps

variable {s s' : ServiceState} {clk : Clock} {did : String} {event : ObserverEvent}
  {current : DeviceStatePayload}

/-- A stale read leaves everything as it is. -/
theorem recordObserverEvent_stale {state : DeviceState}
    (hcur : s.deviceStates.get? event.deviceId = some current) (hstate : event.state = some state)
    (hstale : isStale current state = true) :
    recordObserverEvent cfg units clk event s = (.ok (), s) := by
  unfold recordObserverEvent
  simp only [hcur, hstate, hstale, if_true]

/-- A command rewrites no reading. -/
theorem Written.history {before after : DeviceStatePayload}
    (h : after = before ∨ Written before after) : after.history = before.history := by
  rcases h with rfl | ⟨_, _, _, _, _, rfl⟩
  · rfl
  · rfl

/-! ## Runs -/

/-- The record of the device says what the reads delivered so far say. -/
def Remembers (did : String) (s : ServiceState) (reads : List DeviceState) : Prop :=
  ∀ device, s.deviceStates.get? did = some device →
    device.history = historyOf (acceptedReads reads)

theorem remembers_observe {reads : List DeviceState} (hinv : ServiceInv cfg s)
    (h : Remembers did s reads) :
    Remembers did (serviceStep cfg units s (.observe event clk))
      (reads ++ (deliveredRead did (.observe event clk)).toList) := by
  have hout := recordObserverEvent_outcome units clk event hinv
  intro device hdevice
  rw [serviceStep] at hdevice
  rw [deliveredRead]
  by_cases heq : event.deviceId = did
  · subst heq
    rw [if_pos rfl]
    generalize recordObserverEvent cfg units clk event s = out at hout hdevice
    obtain ⟨r, s'⟩ := out
    cases hout with
    | unknown hnone =>
        rw [hnone] at hdevice
        cases hdevice
    | @stale current hcur hstale =>
        obtain ⟨state, hstate, hdropped⟩ : ∃ state, event.state = some state
            ∧ isStale current state ≠ false := by
          simpa only [Fresh, not_forall, exists_prop] using hstale
        -- the service drops a read exactly when the list of accepted ones does
        have hlog : acceptedReads (reads ++ [state]) = acceptedReads reads := by
          rw [acceptedReads, records_concat, if_neg]
          · rfl
          · exact fun hlater => hdropped ((isStale_iff (h current hcur)).mpr hlater)
        rw [hstate, Option.toList_some, hlog]
        exact h device hdevice
    | @merged d current _ hd hid hcur hfresh hmerged =>
        rw [hmerged.device, Dict.get?_set_self] at hdevice
        cases hdevice
        have hlog : acceptedReads (reads ++ event.state.toList)
            = acceptedReads reads ++ event.state.toList := by
          cases hstate : event.state with
          | none => simp
          | some state =>
              have hlater := (isStale_iff (h current hcur)).mp (hfresh state hstate)
              rw [Option.toList_some, acceptedReads, records_concat]
              exact if_pos hlater
        rw [hlog]
        exact mergeEvent_history (h current hcur)
  · rw [if_neg heq, Option.toList_none, List.append_nil]
    generalize recordObserverEvent cfg units clk event s = out at hout hdevice
    obtain ⟨r, s'⟩ := out
    cases hout with
    | unknown => exact h device hdevice
    | stale => exact h device hdevice
    | merged _ _ _ _ hmerged =>
        rw [hmerged.device, Dict.get?_set_ne _ _ heq] at hdevice
        exact h device hdevice

theorem remembers_step (op : ServiceOp) {reads : List DeviceState} (hinv : ServiceInv cfg s)
    (h : Remembers did s reads) :
    Remembers did (serviceStep cfg units s op) (reads ++ (deliveredRead did op).toList) := by
  have hchanged := changed_step units hinv op
  have hinv' : ServiceInv cfg (serviceStep cfg units s op) := serviceInv_step s op hinv
  -- a command delivers no read and rewrites nothing that was read
  have hcommand : (∀ event clk, op ≠ .observe event clk) → deliveredRead did op = none →
      Remembers did (serviceStep cfg units s op) (reads ++ (deliveredRead did op).toList) := by
    intro hop hnone device hdevice
    obtain ⟨before, hbefore⟩ := hinv'.device_before hinv hdevice
    obtain ⟨after, hafter, hwritten⟩ := hchanged.device_written hinv hop hbefore
    rw [hdevice] at hafter
    cases hafter
    rw [hnone, Option.toList_none, List.append_nil, Written.history hwritten]
    exact h before hbefore
  cases op with
  | apply => exact hcommand (fun _ _ hc => ServiceOp.noConfusion hc) rfl
  | applyDevice => exact hcommand (fun _ _ hc => ServiceOp.noConfusion hc) rfl
  | observe event clk => exact remembers_observe hinv h

theorem init_remembers (h : GroupControlService.init cfg units clk = .ok s) {d : DeviceConfig}
    (hd : d ∈ cfg.devices) : Remembers d.id s [] := by
  have hblank := (init_records (P := fun _ _ => True)
    (Q := fun _ device => device.history = {}) h (fun _ _ _ _ _ => trivial)
    (fun _ _ _ _ => trivial) (fun d _ states record hrecord => ?_)).2
  · exact hblank d hd
  · unfold initialDeviceState at hrecord
    obtain ⟨_, _, hrecord⟩ := PyError.bind_eq_ok hrecord
    cases hrecord
    rfl

/--
**A device record is the history of its reads.**

After any run of a fresh service, whatever the order in which reads, reports and
commands came: the record shows the last accepted read and the two change
timestamps of the accepted reads, that read is the first of the latest ones
delivered, and a read that is not accepted leaves the whole service as it is.
-/
theorem change_timestamps {clk₀ : Clock} {s₀ : ServiceState}
    (hinit : GroupControlService.init cfg units clk₀ = .ok s₀) (ops : List ServiceOp)
    {d : DeviceConfig} (hd : d ∈ cfg.devices) :
    let s := Run.exec (serviceStep cfg units) s₀ ops
    let reads := ops.filterMap (deliveredRead d.id)
    (∃ device, s.deviceStates.get? d.id = some device
      ∧ device.history = historyOf (acceptedReads reads))
    ∧ (reads ≠ [] → ∃ r before after, (acceptedReads reads).getLast? = some r
      ∧ reads = before ++ r :: after ∧ (∀ b ∈ before, b.observedAt < r.observedAt)
      ∧ ∀ a ∈ after, a.observedAt ≤ r.observedAt)
    ∧ ∀ event r clk, event.deviceId = d.id → event.state = some r →
      (∃ a ∈ acceptedReads reads, r.observedAt ≤ a.observedAt) →
      serviceStep cfg units s (.observe event clk) = s := by
  intro s reads
  have hrun : ServiceInv cfg s ∧ Remembers d.id s
      ([] ++ Run.trace (serviceStep cfg units) (fun _ op => deliveredRead d.id op) s₀ ops) :=
    Run.trace_invariant (R := fun s reads => ServiceInv cfg s ∧ Remembers d.id s reads)
      (fun s op _ h => ⟨serviceInv_step s op h.1, remembers_step op h.1 h.2⟩) ops
      ⟨(init_started hinit).inv, init_remembers hinit hd⟩
  rw [Run.trace_const, List.nil_append] at hrun
  obtain ⟨hinv, hremembers⟩ := hrun
  obtain ⟨device, hdevice⟩ := hinv.device_present d hd
  have hhistory := hremembers device hdevice
  refine ⟨⟨device, hdevice, hhistory⟩, fun hne => ?_, ?_⟩
  · obtain ⟨first, hfirst⟩ := List.exists_mem_of_ne_nil reads hne
    obtain ⟨a, ha, _⟩ : ∃ a ∈ acceptedReads reads, first.observedAt ≤ a.observedAt :=
      exists_record hfirst
    have hlast := List.getLast?_eq_getLast_of_ne_nil (List.ne_nil_of_mem ha)
    obtain ⟨before, after, hreads, hbefore, hafter⟩ := last_record hlast
    exact ⟨_, before, after, hlast, hreads, hbefore, hafter⟩
  · intro event r clk hid hstate hearlier
    have hstale : isStale device r = true := by
      by_contra hfresh
      rw [Bool.not_eq_true, isStale_iff hhistory, List.all_eq_true] at hfresh
      obtain ⟨a, ha, hle⟩ := hearlier
      exact absurd (of_decide_eq_true (hfresh a ha)) (not_lt.mpr hle)
    rw [serviceStep, recordObserverEvent_stale (hid ▸ hdevice) hstate hstale]

end Steps

/-- One poll: it is the history, and the same read delivered again changes nothing. -/
theorem change_timestamps_reefTank :
    let polled := Run.exec (serviceStep reefTank steadyUnits)
      (startState reefTank steadyUnits (fun _ => 0)) [.observe leftPoll (fun _ => 1)]
    (∃ device, polled.deviceStates.get? "left" = some device
      ∧ device.history = historyOf (acceptedReads leftPoll.state.toList))
    ∧ serviceStep reefTank steadyUnits polled (.observe leftPoll (fun _ => 2)) = polled := by
  have hinit := @startState_eq reefTank steadyUnits (fun _ => 0) (by decide +kernel)
  have hreads : [ServiceOp.observe leftPoll (fun _ => 1)].filterMap (deliveredRead "left")
      = leftPoll.state.toList := by simp [deliveredRead, leftPoll]
  obtain ⟨hhistory, _, hdropped⟩ := change_timestamps hinit [.observe leftPoll (fun _ => 1)]
    (show leftPump ∈ reefTank.devices from List.mem_cons_self ..)
  rw [show leftPump.id = "left" from rfl, hreads] at hhistory hdropped
  exact ⟨hhistory, hdropped leftPoll _ _ rfl rfl
    ⟨_, by simp [acceptedReads, records, leftPoll], le_refl _⟩⟩

end JebaoFlow
