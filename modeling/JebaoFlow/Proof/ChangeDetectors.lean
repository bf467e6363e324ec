import JebaoFlow.Proof.JournalGrammar
import JebaoFlow.Proof.Reports

/-!
# Two detectors of one change

The observer journals a change when the signature of a read differs from that of the
read before; the service counts a revision when one of its comparisons does. After a
read that the service recorded, both compare with that read, and they agree.

The service drops a read that is not newer than the last it recorded, which the observer
does not. After such a read the two compare with different states.
-/

namespace JebaoFlow

/-! ## The comparisons -/

/-- The record holds what the read reported. -/
structure Records (device : DeviceStatePayload) (state : DeviceState) : Prop where
  actualEnabled : device.actualEnabled = some state.enabled
  actualPower : device.actualPower = some state.power
  actualMode : device.actualMode = some state.mode
  actualFrequency : device.actualFrequency = state.frequency
  online : device.online = some true
  error : device.error = state.error
  lastSeenAt : device.lastSeenAt = some state.observedAt
  observedAttributes : device.observedAttributes = state.observedAttributes
  schedule : device.schedule = state.schedule
  status : device.status = if truthy state.error then .error
    else if state.enabled then .running else .stopped

theorem mergeRead_records (current : DeviceStatePayload) (state : DeviceState) :
    Records (mergeRead current state).1 state :=
  ⟨rfl, rfl, rfl, rfl, rfl, rfl, rfl, rfl, rfl, rfl⟩

/-- **A read is a semantic change exactly when its signature is another.** -/
theorem mergeRead_changed {device : DeviceStatePayload} {a : DeviceState} (h : Records device a)
    (b : DeviceState) : (mergeRead device b).2 = false ↔ a.sameSignature b = true := by
  unfold mergeRead DeviceState.sameSignature
  dsimp only
  rw [h.lastSeenAt, h.actualEnabled, h.actualPower, h.actualMode, h.actualFrequency, h.online,
    h.error, h.observedAttributes, h.schedule, h.status]
  simp only [Option.isSome_some, Bool.not_true, Bool.false_or, Bool.true_and, Bool.or_eq_false_iff,
    Bool.not_eq_false', Bool.and_eq_true, beq_iff_eq, decide_eq_false_iff_not, ne_eq,
    Classical.not_not, Prod.mk.injEq, Option.some.injEq, true_and]
  constructor
  · rintro ⟨⟨⟨henabled, hpower, hmode, hfrequency⟩, hattributes, hschedule⟩, herror, _⟩
    exact ⟨⟨⟨⟨⟨⟨henabled, hpower⟩, hmode⟩, hfrequency⟩, herror⟩, hattributes⟩, hschedule⟩
  · rintro ⟨⟨⟨⟨⟨⟨henabled, hpower⟩, hmode⟩, hfrequency⟩, herror⟩, hattributes⟩, hschedule⟩
    -- the status is derived from what is equal
    refine ⟨⟨⟨henabled, hpower, hmode, hfrequency⟩, hattributes, hschedule⟩, herror, ?_⟩
    rw [herror, henabled]

/-! ## One read -/

section Step

variable {cfg : AppConfig} {units : UnitSource} {did : String}

/-- The service's record after a read that is newer than the one it recorded last. -/
theorem observe_fresh {s : ServiceState} (hinv : ServiceInv cfg s) (clk : Clock)
    {current : DeviceStatePayload} (hcur : s.deviceStates.get? did = some current)
    {state : DeviceState} (hfresh : isStale current state = false) :
    (recordObserverEvent cfg units clk (Report.online did state).event s).2.deviceStates.get? did
      = some (mergeRead current state).1 := by
  have hout := recordObserverEvent_outcome units clk (Report.online did state).event hinv
  generalize recordObserverEvent cfg units clk (Report.online did state).event s = out at hout ⊢
  obtain ⟨r, s'⟩ := out
  cases hout with
  | unknown hdevice =>
      rw [show (Report.online did state).event.deviceId = did from rfl, hcur] at hdevice
      cases hdevice
  | @stale current' hcur' hstale =>
      obtain rfl : current = current' := Option.some.inj (hcur.symm.trans hcur')
      refine absurd (fun state' hstate => ?_) hstale
      cases hstate
      exact hfresh
  | @merged d current' _ hd hid hcur' hfresh' hmerged =>
      obtain rfl : current = current' := Option.some.inj (hcur.symm.trans hcur')
      rw [hmerged.device]
      exact Dict.get?_set_self ..

/-- What both sides know of a device. -/
structure Kept (did : String) (m m' : Monitor) : Prop where
  device : m'.service.deviceStates.get? did = m.service.deviceStates.get? did
  lastStates : m'.observer.lastStates.get? did = m.observer.lastStates.get? did
  offline : did ∈ m'.observer.offline ↔ did ∈ m.observer.offline

/-- Only an observation of the device rewrites its record. -/
theorem serviceStep_device (hmode : cfg.runtime.mode = .observer) {s : ServiceState}
    (hinv : ServiceInv cfg s) {op : ServiceOp}
    (hop : ∀ event clk, op = .observe event clk → event.deviceId ≠ did) :
    (serviceStep cfg units s op).deviceStates.get? did = s.deviceStates.get? did := by
  rcases (changed_step units hinv op).observed_or_idle hmode with ⟨_, hdevices⟩ |
    ⟨event, clk, d, current, hobserve, _, _, _, hmerged⟩
  · rw [hdevices]
  · rw [hmerged.device]
    exact Dict.get?_set_ne _ _ (hop event clk hobserve)

/-- **What is about other devices is kept out of this one.** -/
theorem monitorStep_kept (hmode : cfg.runtime.mode = .observer) {m : Monitor}
    (hinv : ServiceInv cfg m.service) {action : MonitorAction} (h : ¬ action.about did) :
    Kept did m (monitorStep cfg units m action) := by
  cases action with
  | report call clk =>
      have hother : call.report.deviceId ≠ did := h
      refine ⟨?_, ?_, complete_offline_other m.observer hother⟩
      · have hevent : call.report.event.deviceId ≠ did := by
          cases hreport : call.report <;> rw [hreport] at hother <;> exact hother
        exact @serviceStep_device cfg units did hmode m.service hinv (.observe call.report.event clk)
          (fun event clk' hobserve => by cases hobserve; exact hevent)
      · show (m.observer.complete call).lastStates.get? did = _
        rw [complete_lastStates, stateOf_other hother]
        rfl
  | service op =>
      refine ⟨serviceStep_device hmode hinv (fun event clk hobserve hid => h ?_), rfl, Iff.rfl⟩
      rw [hobserve]
      exact hid

theorem monitorStep_inv (units : UnitSource) (m : Monitor) (action : MonitorAction)
    (hinv : ServiceInv cfg m.service) : ServiceInv cfg (monitorStep cfg units m action).service := by
  cases action with
  | report call clk => exact serviceInv_step m.service (.observe call.report.event clk) hinv
  | service op => exact serviceInv_step m.service op hinv

theorem monitor_kept (units : UnitSource) (hmode : cfg.runtime.mode = .observer) :
    ∀ {between : List MonitorAction} {m : Monitor}, ServiceInv cfg m.service →
      (∀ action ∈ between, ¬ action.about did) →
      Kept did m (Run.exec (monitorStep cfg units) m between)
  | [], _, _, _ => ⟨rfl, rfl, Iff.rfl⟩
  | action :: between, m, hinv, hother => by
      have hstep := @monitorStep_kept cfg units did hmode m hinv action
        (hother action (List.mem_cons_self ..))
      have hrest := monitor_kept units hmode (monitorStep_inv units m action hinv)
        (fun other hmem => hother other (List.mem_cons_of_mem _ hmem))
      exact ⟨hrest.device.trans hstep.device, hrest.lastStates.trans hstep.lastStates,
        hrest.offline.trans hstep.offline⟩

end Step

/-! ## Consecutive reads -/

/-- What the first read leaves: both sides hold it, and the device is not offline. -/
structure Watching (did : String) (a : DeviceState) (m : Monitor) : Prop where
  device : ∃ device, m.service.deviceStates.get? did = some device ∧ Records device a
  lastState : m.observer.lastStates.get? did = some a
  online : did ∉ m.observer.offline

section Reads

variable {cfg : AppConfig} {units : UnitSource} {did : String} {a b : DeviceState}

theorem Watching.kept {m m' : Monitor} (h : Watching did a m) (hkept : Kept did m m') :
    Watching did a m' :=
  ⟨hkept.device.symm ▸ h.device, hkept.lastStates.trans h.lastState,
    fun hmem => h.online (hkept.offline.mp hmem)⟩

theorem watching_of_read (units : UnitSource) {m : Monitor} (hinv : ServiceInv cfg m.service)
    (clk : Clock) {current : DeviceStatePayload} (hcur : m.service.deviceStates.get? did = some current)
    (hfresh : isStale current a = false) (written : Bool) :
    Watching did a (monitorStep cfg units m (.report ⟨.online did a, written⟩ clk)) := by
  have hstate : (Report.online did a).stateOf did = some a := if_pos rfl
  refine ⟨⟨_, observe_fresh hinv clk hcur hfresh, mergeRead_records current a⟩, ?_, ?_⟩
  · refine (complete_lastStates m.observer ⟨.online did a, written⟩ did).trans ?_
    rw [hstate]
    rfl
  · intro hmem
    rcases (complete_offline m.observer ⟨.online did a, written⟩ did).mp hmem with ⟨_, _, h⟩ | ⟨_, h⟩
    · cases h
    · exact Option.some_ne_none _ (hstate.symm.trans h)

/-- The call is journalled as a change: the file has one record more, and that says so. -/
def JournalsChange (before after : ObserverState) : Prop :=
  ∃ record, after.file = before.file ++ [record] ∧ record.event = .stateChanged

/-- A call whose write succeeds journals the change that its record says. -/
theorem journalsChange_complete (s : ObserverState) (report : Report) :
    JournalsChange s (s.complete { report })
      ↔ (s.report report).2.map JournalRecord.event = some .stateChanged := by
  unfold JournalsChange
  rw [complete_file, if_pos rfl, Option.map_eq_some_iff]
  refine exists_congr fun record => and_congr_left fun _ => ?_
  rw [List.append_right_inj]
  cases (s.report report).2 with
  | none => exact ⟨fun h => (by cases h), fun h => (by cases h)⟩
  | some other => exact ⟨fun h => congrArg some (List.singleton_inj.mp h), fun h => (by cases h; rfl)⟩

/-- **From there the next read is journalled as a change exactly when it counts as one.** -/
theorem Watching.agree (units : UnitSource) {m : Monitor} (h : Watching did a m)
    (hinv : ServiceInv cfg m.service) (clk : Clock) (hnewer : a.observedAt < b.observedAt) :
    ∃ device device',
      m.service.deviceStates.get? did = some device
      ∧ (monitorStep cfg units m (.report { report := .online did b } clk)).service.deviceStates.get? did
        = some device'
      ∧ (JournalsChange m.observer (m.observer.complete { report := .online did b })
          ↔ device'.revision = device.revision + 1) := by
  obtain ⟨device, hdevice, hrecords⟩ := h.device
  have hfresh : isStale device b = false := by
    unfold isStale
    rw [hrecords.lastSeenAt]
    exact decide_eq_false (not_le.mpr hnewer)
  refine ⟨device, _, hdevice, observe_fresh hinv clk hdevice hfresh, ?_⟩
  have hrevision : (mergeRead device b).1.revision
      = if (mergeRead device b).2 then device.revision + 1 else device.revision := rfl
  have hevent := (report_record m.observer (.online did b)).1
  rw [show (Report.online did b).deviceId = did from rfl, h.lastState,
    decide_eq_false h.online] at hevent
  have hchanged := mergeRead_changed hrecords b
  rw [journalsChange_complete, hevent, hrevision]
  cases hsame : a.sameSignature b with
  | true =>
      have hnone : written (some a) false (.online did b) = none := by simp [written, hsame]
      rw [hchanged.mpr hsame, hnone, if_neg Bool.false_ne_true]
      exact ⟨fun h => (by cases h), fun h => absurd h (by omega)⟩
  | false =>
      have hjournal : written (some a) false (.online did b) = some .stateChanged := by
        simp [written, hsame]
      have htrue : (mergeRead device b).2 = true := by
        rw [← Bool.not_eq_false, hchanged, hsame]
        exact Bool.false_ne_true
      rw [hjournal, htrue, if_pos rfl]
      exact ⟨fun _ => rfl, fun _ => rfl⟩

end Reads

/--
The agreement on the second of two consecutive, increasing reads of a device,
whose record, if there is one, gets into the file.
-/
def DetectorsAgree (cfg : AppConfig) (units : UnitSource) (m : Monitor) (did : String)
    (a b : DeviceState) (written : Bool) (between : List MonitorAction) (clk clk' : Clock) : Prop :=
  let middle := Run.exec (monitorStep cfg units) m (.report ⟨.online did a, written⟩ clk :: between)
  let last := monitorStep cfg units middle (.report { report := .online did b } clk')
  ∃ device device',
    middle.service.deviceStates.get? did = some device
      ∧ last.service.deviceStates.get? did = some device'
      ∧ (JournalsChange middle.observer last.observer ↔ device'.revision = device.revision + 1)

/--
**The journal and the service agree on what a change is.**

In observer mode, take two consecutive reads of a device, the second newer than the
first, with nothing else about the device between them. When the service records the
first one, which is newer than the last it recorded, and the write of the second
succeeds, the second is journalled as a change exactly when it increments the revision
of the device.
-/
theorem change_detectors_agree {cfg : AppConfig} {units : UnitSource} {clk₀ : Clock}
    {s₀ : ServiceState} (hmode : cfg.runtime.mode = .observer)
    (hinit : GroupControlService.init cfg units clk₀ = .ok s₀) {d : DeviceConfig}
    (hd : d ∈ cfg.devices) (before between : List MonitorAction) {a b : DeviceState}
    (written : Bool) (clk clk' : Clock) (hbetween : ∀ action ∈ between, ¬ action.about d.id)
    (hnewer : a.observedAt < b.observedAt)
    (hrecorded : ∀ current, (Run.exec (monitorStep cfg units) ⟨{}, s₀⟩
      before).service.deviceStates.get? d.id = some current → isStale current a = false) :
    DetectorsAgree cfg units (Run.exec (monitorStep cfg units) ⟨{}, s₀⟩ before) d.id a b written
      between clk clk' := by
  have hinv : ServiceInv cfg (Run.exec (monitorStep cfg units) ⟨{}, s₀⟩ before).service :=
    @Run.invariant_exec _ _ (monitorStep cfg units) (fun m => ServiceInv cfg m.service)
      (monitorStep_inv units) before _ (init_started hinit).inv
  obtain ⟨current, hcur⟩ := hinv.device_present d hd
  have hfirst := watching_of_read units hinv clk hcur (hrecorded current hcur) written
  have hinv₁ := monitorStep_inv units _ (.report ⟨.online d.id a, written⟩ clk) hinv
  have hwatching := hfirst.kept (monitor_kept units hmode hinv₁ hbetween)
  have hinv₂ := @Run.invariant_exec _ _ (monitorStep cfg units) (fun m => ServiceInv cfg m.service)
    (monitorStep_inv units) between _ hinv₁
  exact hwatching.agree units hinv₂ clk' hnewer

/--
A pump that is turned up between two reads, with a poll of the other one between them; the
record of the first read is lost.
-/
theorem change_detectors_agree_watchedTank :
    DetectorsAgree watchedTank steadyUnits ⟨{}, startState watchedTank steadyUnits (fun _ => 0)⟩
      "left" (pumpAt 50 5) (pumpAt 60 7) false
      [.report { report := .offline "right" "timed out" 6 } (fun _ => 0)] (fun _ => 0) (fun _ => 0) :=
  change_detectors_agree rfl (startState_eq (by decide +kernel))
    (show leftPump ∈ watchedTank.devices from List.mem_cons_self ..) [] _ _ _ _
    (by simp [MonitorAction.about, Report.deviceId, leftPump]) (by decide)
    (by decide +kernel)

/-- The tank after a first read of the left pump, and a second one by a clock that was set back. -/
def setBackTank : Monitor :=
  Run.exec (monitorStep watchedTank steadyUnits)
    (Run.exec (monitorStep watchedTank steadyUnits)
      ⟨{}, startState watchedTank steadyUnits (fun _ => 0)⟩
      [.report { report := .online "left" (pumpAt 50 10) } (fun _ => 0)])
    [.report { report := .online "left" (pumpAt 50 5) } (fun _ => 0)]

/--
The clock of the host is set back after a first read: the service drops the two reads
that follow, and the observer journals the second as a change.
-/
theorem change_detectors_differ_watchedTank :
    ¬ ∀ (cfg : AppConfig) (units : UnitSource) (clk₀ : Clock) (s₀ : ServiceState),
      cfg.runtime.mode = .observer → GroupControlService.init cfg units clk₀ = .ok s₀ →
      ∀ d ∈ cfg.devices, ∀ (before between : List MonitorAction) (a b : DeviceState)
        (written : Bool) (clk clk' : Clock), (∀ action ∈ between, ¬ action.about d.id) →
        a.observedAt < b.observedAt →
        DetectorsAgree cfg units (Run.exec (monitorStep cfg units) ⟨{}, s₀⟩ before) d.id a b written
          between clk clk' := by
  intro h
  have hagree := h watchedTank steadyUnits (fun _ => 0) _ rfl (startState_eq (by decide +kernel))
    leftPump (List.mem_cons_self ..)
    [.report { report := .online "left" (pumpAt 50 10) } (fun _ => 0)] [] (pumpAt 50 5) (pumpAt 60 7)
    true (fun _ => 0) (fun _ => 0) (fun action hmem => absurd hmem List.not_mem_nil) (by decide)
  obtain ⟨device, device', hdevice, hdevice', hiff⟩ := hagree
  have hevent : (setBackTank.observer.report (.online "left" (pumpAt 60 7))).2.map
      JournalRecord.event = some .stateChanged := by decide +kernel
  have hchanged := hiff.mp ((journalsChange_complete setBackTank.observer _).mpr hevent)
  -- the revision is still the one of the first read
  have hkept : (setBackTank.service.deviceStates.get? "left").map DeviceStatePayload.revision
      = ((monitorStep watchedTank steadyUnits setBackTank
        (.report { report := .online "left" (pumpAt 60 7) } (fun _ => 0))).service.deviceStates.get?
          "left").map DeviceStatePayload.revision := by
    decide +kernel
  have hbefore := congrArg (Option.map DeviceStatePayload.revision) hdevice
  have hafter := congrArg (Option.map DeviceStatePayload.revision) hdevice'
  have hsame := hbefore.symm.trans (hkept.trans hafter)
  exact absurd ((Option.some.inj hsame).trans hchanged) (by omega)

end JebaoFlow
