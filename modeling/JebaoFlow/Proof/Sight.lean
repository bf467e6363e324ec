import JebaoFlow.App
import JebaoFlow.Proof.History
import JebaoFlow.Proof.Journal
import JebaoFlow.Proof.Readings

/-!
# From a read to the dashboard

What the observer's events say of a pump is a small thing: the reads, of which a late one does not
count, and whether the pump answers. The record of the pump is that and what commands want of it,
however the two are interleaved, and the entities show it when everything has arrived.
-/

namespace JebaoFlow

open HomeAssistant Run

variable {site : Site}

/-! ## What the events say -/

/-- What is known of a pump: all of its reads, and whether it answers. -/
structure Sight where
  reads : List DeviceState := []
  answers : Option Bool := none

namespace Sight

variable (sight : Sight)

/-- A read that is not later than one before it does not count. -/
def see (deviceId : String) (event : ObserverEvent) : Sight :=
  if event.deviceId = deviceId then
    match event.state with
    | some state => {
        reads := sight.reads ++ [state]
        answers := if (acceptedReads sight.reads).all (·.observedAt < state.observedAt) then some true
          else sight.answers }
    | none => { sight with answers := match event.status with
        | .unmapped => none
        | .connecting => sight.answers
        | .online | .offline => some false }
  else sight

/-- The latest read. -/
def newest : Option DeviceState := (acceptedReads sight.reads).getLast?

/-- What the events say of a pump, one after the other. -/
def of (deviceId : String) (events : List ObserverEvent) : Sight :=
  events.foldl (fun sight event => sight.see deviceId event) {}

end Sight

/-- The record of a pump says what is known of it. -/
structure Sees (deviceId : String) (s : ServiceState) (sight : Sight) : Prop where
  remembers : Remembers deviceId s sight.reads
  answers : ∀ device, s.deviceStates.get? deviceId = some device → device.online = sight.answers

section Steps

variable {cfg : AppConfig} {units : UnitSource} {s s' : ServiceState} {deviceId : String}
  {sight : Sight}

theorem Sees.congr (h : Sees deviceId s sight)
    (hsame : s'.deviceStates.get? deviceId = s.deviceStates.get? deviceId) :
    Sees deviceId s' sight where
  remembers device hdevice := h.remembers device (hsame ▸ hdevice)
  answers device hdevice := h.answers device (hsame ▸ hdevice)

theorem Written.online {before after : DeviceStatePayload} (h : after = before ∨ Written before after) :
    after.online = before.online := by
  rcases h with rfl | ⟨_, _, _, _, _, rfl⟩
  · rfl
  · rfl

/-- A command says nothing about a pump. -/
theorem Sees.command (hinv : ServiceInv cfg s) {op : ServiceOp}
    (hop : ∀ event clk, op ≠ .observe event clk) (h : Sees deviceId s sight) :
    Sees deviceId (serviceStep cfg units s op) sight where
  remembers := by
    have hnone : deliveredRead deviceId op = none := by
      cases op with
      | observe event clk => exact absurd rfl (hop event clk)
      | apply | applyDevice => rfl
    have hremembers := @remembers_step cfg units s deviceId op _ hinv h.remembers
    rw [hnone, Option.toList_none, List.append_nil] at hremembers
    exact hremembers
  answers device hdevice := by
    have hinv' : ServiceInv cfg (serviceStep cfg units s op) := serviceInv_step s op hinv
    obtain ⟨before, hbefore⟩ := hinv'.device_before hinv hdevice
    obtain ⟨after, hafter, hwritten⟩ :=
      (changed_step units hinv op).device_written hinv hop hbefore
    rw [hdevice] at hafter
    cases hafter
    rw [Written.online hwritten]
    exact h.answers before hbefore

theorem Sight.see_reads (sight : Sight) (event : ObserverEvent) (clk : Clock) :
    (sight.see deviceId event).reads
      = sight.reads ++ (deliveredRead deviceId (.observe event clk)).toList := by
  unfold Sight.see deliveredRead
  dsimp only
  by_cases heq : event.deviceId = deviceId
  · rw [if_pos heq, if_pos heq]
    cases event.state with
    | none => exact (List.append_nil _).symm
    | some state => rfl
  · rw [if_neg heq, if_neg heq]
    exact (List.append_nil _).symm

/-- **An event is recorded as it is seen.** -/
theorem Sees.observe (hinv : ServiceInv cfg s) (event : ObserverEvent) (clk : Clock)
    (h : Sees deviceId s sight) :
    Sees deviceId (serviceStep cfg units s (.observe event clk)) (sight.see deviceId event) where
  remembers := by
    rw [Sight.see_reads sight event clk]
    exact remembers_observe hinv h.remembers
  answers device hdevice := by
    have hout := recordObserverEvent_outcome units clk event hinv
    rw [serviceStep] at hdevice
    unfold Sight.see
    by_cases heq : event.deviceId = deviceId
    · subst heq
      rw [if_pos rfl]
      generalize recordObserverEvent cfg units clk event s = out at hout hdevice
      obtain ⟨r, s'⟩ := out
      cases hout with
      | unknown hnone =>
          rw [hnone] at hdevice
          cases hdevice
      | @stale current hcur hstale =>
          obtain ⟨state, hstate, hdropped⟩ : ∃ state, event.state = some state
              ∧ isStale current state ≠ false := by
            simpa only [Fresh, not_forall, exists_prop] using hstale
          have hlate : ¬ (acceptedReads sight.reads).all (·.observedAt < state.observedAt) = true :=
            fun hlater => hdropped ((isStale_iff (h.remembers current hcur)).mpr hlater)
          rw [hstate]
          dsimp only
          rw [if_neg hlate]
          exact h.answers device hdevice
      | @merged d current _ hd hid hcur hfresh hmerged =>
          rw [hmerged.device, Dict.get?_set_self] at hdevice
          cases hdevice
          cases hstate : event.state with
          | some state =>
              have hlater := (isStale_iff (h.remembers current hcur)).mp (hfresh state hstate)
              unfold mergeEvent
              rw [hstate]
              dsimp only
              rw [if_pos hlater]
              rfl
          | none =>
              unfold mergeEvent
              rw [hstate]
              dsimp only
              rw [← h.answers current hcur]
              unfold mergeReport
              cases event.status with
              | connecting => exact ite_eq_right_iff.mpr fun hoff => hoff.symm
              | unmapped | online | offline => rfl
    · rw [if_neg heq]
      generalize recordObserverEvent cfg units clk event s = out at hout hdevice
      obtain ⟨r, s'⟩ := out
      cases hout with
      | unknown | stale => exact h.answers device hdevice
      | merged _ _ _ _ hmerged =>
          rw [hmerged.device, Dict.get?_set_ne _ _ heq] at hdevice
          exact h.answers device hdevice

end Steps

/-! ## The deployment -/

section Deployment

variable {d : Deployment site} {deviceId : String} {sight : Sight}

/-- Nothing but an observation says more about a pump. -/
theorem Sees.step (hinv : d.Inv) {event : Deployment.Event}
    (hobserve : ∀ e clk, event ≠ .daemon (.observe e clk)) (hrestart : ∀ clk, event ≠ .restart clk)
    (h : Sees deviceId d.adapter.service sight) :
    Sees deviceId (d.step event).adapter.service sight := by
  have hsound := hinv.daemon.honest.sound.inv
  cases event with
  | restart clk => exact absurd rfl (hrestart clk)
  | will | subscribe | lose | deliver | reload => exact h
  | daemon event =>
      rcases d.step_daemon event with heq | ⟨adapter, severed, _, rfl, _, _, _, heq⟩
      · rw [heq]
        exact h
      · rw [heq]
        show Sees deviceId
          (MqttAdapter.step site.topics site.cfg site.units site.validator d.adapter event).service sight
        by_cases hreceive : ∃ message clk, event = .receive message clk
        · obtain ⟨message, clk, rfl⟩ := hreceive
          have hkept : Sees deviceId (MqttAdapter.receive site.topics site.cfg site.units
              site.validator clk message d.adapter.service).2 sight := by
            rcases receive_service site.cfg site.units site.topics site.validator clk message
              d.adapter.service with hsame | ⟨_, _, _, hcalled⟩ | ⟨_, _, _, hcalled⟩
            · rw [hsame]
              exact h
            · rw [hcalled]
              exact h.command hsound (fun _ _ => ServiceOp.noConfusion)
            · rw [hcalled]
              exact h.command hsound (fun _ _ => ServiceOp.noConfusion)
          unfold MqttAdapter.step
          dsimp only
          split
          · exact hkept
          · exact h
        · refine h.congr ?_
          rw [step_records d.adapter event]
          · rintro e clk rfl
            exact hobserve e clk rfl
          · rintro message clk rfl
            exact hreceive ⟨message, clk, rfl⟩

/-- An observation is published by nobody, and recorded whatever the connection is like. -/
theorem step_observe (d : Deployment site) (event : ObserverEvent) (clk : Clock) :
    (d.step (.daemon (.observe event clk))).adapter.service
      = serviceStep site.cfg site.units d.adapter.service (.observe event clk) := by
  unfold Deployment.step
  dsimp only
  rw [if_neg]
  · rfl
  · exact fun h => h.2 rfl

end Deployment

/-! ## The installation -/

namespace Installation

variable {h : Installation site} {deviceId : String}

/-- The deployment is sound, and the records say what the observer's events say. -/
structure Inv (h : Installation site) : Prop where
  deployment : h.deployment.Inv
  sees : ∀ device ∈ site.cfg.devices,
    Sees device.id h.deployment.adapter.service (Sight.of device.id h.observer.events)

theorem record_inv : ∀ (events : List ObserverEvent) (clks : ℕ → Clock) {d : Deployment site},
    d.Inv → (record events clks d).Inv
  | [], _, _, hinv => hinv
  | _ :: events, _, d, hinv => record_inv events _ (Deployment.inv_step d _ hinv)

/-- What is handed over is recorded event by event. -/
theorem record_sees : ∀ (events : List ObserverEvent) (clks : ℕ → Clock) {d : Deployment site}
    {sight : Sight}, d.Inv → Sees deviceId d.adapter.service sight →
    Sees deviceId (record events clks d).adapter.service
      (events.foldl (fun sight event => sight.see deviceId event) sight)
  | [], _, _, _, _, hsees => hsees
  | event :: events, clks, d, sight, hinv, hsees => by
      refine record_sees events _ (Deployment.inv_step d _ hinv) ?_
      rw [step_observe]
      exact hsees.observe hinv.daemon.honest.sound.inv event (clks 0)

/-- The observer's events only grow. -/
theorem observerStep_events {cfg : AppConfig} (s : ObserverState) (action : ObserverAction) :
    s.events <+: (observerStep cfg s action).events := by
  have hstop : s.events <+: s.stop.events := by
    obtain ⟨asked, hasked⟩ := asked_stop s
    rw [hasked.events]
  unfold observerStep
  split
  case h_1 => split <;> exact List.prefix_rfl
  case h_2 =>
      split
      · split
        · exact List.prefix_rfl
        · exact List.prefix_rfl
        · exact hstop
      · exact List.prefix_rfl
  case h_3 => exact List.prefix_rfl
  case h_4 =>
      unfold ObserverState.bindOne
      dsimp only
      split
      · exact List.prefix_append ..
      · exact List.prefix_rfl
      · exact List.prefix_rfl
      · split <;> exact List.prefix_rfl
  case h_5 =>
      split
      · unfold ObserverState.bindGathered
        dsimp only
        split
        · exact List.prefix_append ..
        · exact List.prefix_rfl
      · exact List.prefix_rfl
  case h_6 | h_7 => exact List.prefix_rfl
  case h_8 => exact hstop
  case h_9 => split <;> exact List.prefix_rfl
  case h_10 =>
      split
      · rename_i hat
        obtain ⟨_, hstepped, _⟩ := workerStep_stepped hat _
        exact hstepped.events
      · exact List.prefix_rfl
  case h_11 => split <;> exact List.prefix_rfl
  case h_12 | h_13 => exact List.prefix_rfl

/-- A service that has just started knows nothing of a pump. -/
theorem init_sees {service : ServiceState} {clk : Clock}
    (hinit : GroupControlService.init site.cfg site.units clk = .ok service) {device : DeviceConfig}
    (hdevice : device ∈ site.cfg.devices) : Sees device.id service {} where
  remembers := init_remembers hinit hdevice
  answers := by
    refine (init_records (P := fun _ _ => True) (Q := fun _ record => record.online = none) hinit
      (fun _ _ _ _ _ => trivial) (fun _ _ _ _ => trivial) (fun d _ states record hrecord => ?_)).2
        device hdevice
    unfold initialDeviceState at hrecord
    obtain ⟨_, _, hrecord⟩ := PyError.bind_eq_ok hrecord
    cases hrecord
    rfl

theorem inv_start {service : ServiceState} {clk : Clock}
    (hinit : GroupControlService.init site.cfg site.units clk = .ok service) :
    (start service : Installation site).Inv where
  deployment := Deployment.inv_start hinit
  sees _ hdevice := init_sees hinit hdevice

/-- A step of everything but the observer. -/
theorem Inv.other (hinv : h.Inv) {event : Deployment.Event}
    (hobserve : ∀ e clk, event ≠ .daemon (.observe e clk)) (hrestart : ∀ clk, event ≠ .restart clk) :
    ({ h with deployment := h.deployment.step event } : Installation site).Inv where
  deployment := Deployment.inv_step h.deployment event hinv.deployment
  sees device hdevice := (hinv.sees device hdevice).step hinv.deployment hobserve hrestart

/-- **Every step keeps the records true to the observer's events.** -/
theorem inv_step (event : Event) (hinv : h.Inv) : (h.step event).Inv := by
  cases event with
  | observer action clks =>
      obtain ⟨sent, hsent⟩ := @observerStep_events site.cfg h.observer action
      have hdrop : (observerStep site.cfg h.observer action).events.drop h.observer.events.length
          = sent := by
        rw [← hsent, List.drop_left]
      unfold step
      dsimp only
      rw [hdrop]
      refine ⟨record_inv sent clks hinv.deployment, fun device hdevice => ?_⟩
      show Sees device.id _ (Sight.of device.id (observerStep site.cfg h.observer action).events)
      unfold Sight.of
      rw [← hsent, List.foldl_append]
      exact record_sees sent clks hinv.deployment (hinv.sees device hdevice)
  | deployment event =>
      cases event with
      | daemon event =>
          cases event with
          | observe => exact hinv
          | connect | greet | greetingLost | receive | consume | consumerLost | wake | publish
            | publisherLost | stop | leave =>
              refine hinv.other ?_ ?_
              · rintro _ _ ⟨⟩
              · rintro _ ⟨⟩
      | restart clk =>
          unfold step
          dsimp only
          split
          · rename_i service hinit
            refine ⟨Deployment.inv_step h.deployment (.restart clk) hinv.deployment,
              fun device hdevice => ?_⟩
            show Sees device.id (h.deployment.step (.restart clk)).adapter.service {}
            unfold Deployment.step
            dsimp only
            rw [hinit]
            exact init_sees hinit hdevice
          · exact hinv
      | will | subscribe | lose | deliver | reload =>
          refine hinv.other ?_ ?_
          · rintro _ _ ⟨⟩
          · rintro _ ⟨⟩

theorem inv_exec {service : ServiceState} {clk : Clock}
    (hinit : GroupControlService.init site.cfg site.units clk = .ok service) (events : List Event) :
    (exec step (start service : Installation site) events).Inv :=
  invariant_exec (fun _ event hinv => inv_step event hinv) (inv_start hinit)

end Installation

/-! ## What the entities show -/

/-- What the entities of a pump show of what is known of it; `online` is whether the daemon is. -/
structure SightShown (conv : Conversions) (site : Site) (runtime : LiveRuntime) (device : DeviceConfig)
    (online : Bool) (sight : Sight) : Prop where
  availability : DeviceAvailabilitySensor.isOn runtime (site.deviceEntity device "device_availability")
    = (online && decide (sight.answers = some true))
  running : DeviceRunningSensor.isOn runtime (site.deviceEntity device "actual_running")
    = if online = true ∧ sight.answers = some true then sight.newest.map (·.enabled) else none
  actualPower : ActualPowerSensor.nativeValue runtime (site.deviceEntity device "actual_power")
    = .ok (sight.newest.map (fun state => (state.power.val : ℤ)))
  actualMode : ActualModeSensor.nativeValue conv runtime (site.deviceEntity device "actual_mode")
    = sight.newest.map (fun state => PyStr.ofString state.mode)
  schedule : ∃ schedule, SameSchedule schedule (sight.newest.bind (·.schedule))
    ∧ ScheduleShown site runtime device online schedule

theorem DeviceShown.sight {conv : Conversions} {runtime : LiveRuntime} {device : DeviceConfig}
    {online : Bool} {record : DeviceStatePayload} {sight : Sight}
    (h : DeviceShown conv site runtime device online record)
    (hhistory : record.history = historyOf (acceptedReads sight.reads))
    (hanswers : record.online = sight.answers) : SightShown conv site runtime device online sight where
  availability := by rw [h.availability, hanswers]
  running := by
    have henabled : record.actualEnabled = sight.newest.map (·.enabled) :=
      congrArg History.actualEnabled hhistory
    rw [h.running, hanswers, henabled]
  actualPower := by
    have hpower : record.actualPower = sight.newest.map (·.power) :=
      congrArg History.actualPower hhistory
    rw [h.actualPower, hpower, Option.map_map]
    rfl
  actualMode := by
    have hmode : record.actualMode = sight.newest.map (·.mode) := congrArg History.actualMode hhistory
    rw [h.actualMode, hmode, Option.map_map]
    rfl
  schedule := by
    have hschedule : record.schedule = sight.newest.bind (·.schedule) :=
      congrArg History.schedule hhistory
    obtain ⟨schedule, hsame, hshown⟩ := h.schedule
    exact ⟨schedule, hschedule ▸ hsame, hshown⟩

/-- When everything has arrived, the entities show what the observer's events say. -/
theorem dashboard_rest {h : Installation site} (hinv : h.Inv) (conv : Conversions)
    (hrest : h.deployment.AtRest) :
    ∃ stopping, h.deployment.adapter.link = .online stopping .waiting .waiting
      ∧ ∀ device ∈ site.cfg.devices, SightShown conv site h.deployment.home.state.1 device (!stopping)
        (Sight.of device.id h.observer.events) := by
  obtain ⟨stopping, hlink, _⟩ := hinv.deployment.mirrored hrest
  refine ⟨stopping, hlink, fun device hdevice => ?_⟩
  obtain ⟨record, state, hrecord, hreceived, hsame⟩ := hinv.deployment.device_settled hrest hdevice
  have hshown := @deviceShown _ conv _ _ _ _ (hinv.deployment.config_settled hrest) hreceived hsame
  rw [hinv.deployment.online_settled hrest.connected hrest.arrived hlink] at hshown
  have hsees := hinv.sees device hdevice
  exact hshown.sight (hsees.remembers record hrecord) (hsees.answers record hrecord)

/--
**The dashboard shows the pumps as the observer sees them.**

Take any run of the daemon with its observer, the broker and the entry, restarts included. Whenever
the daemon is connected with nothing left to publish and everything has arrived, the entities of
every pump show the latest read since the last start, and whether the pump has answered since:
reads that came late, commands and lost connections make no difference.
-/
theorem dashboard_shows_reads {clk : Clock} {service : ServiceState}
    (hinit : GroupControlService.init site.cfg site.units clk = .ok service) (conv : Conversions)
    (events : List Installation.Event) :
    let h := exec Installation.step (Installation.start service : Installation site) events
    h.deployment.AtRest → ∃ stopping, h.deployment.adapter.link = .online stopping .waiting .waiting
      ∧ ∀ device ∈ site.cfg.devices, SightShown conv site h.deployment.home.state.1 device (!stopping)
        (Sight.of device.id h.observer.events) :=
  fun hrest => dashboard_rest (Installation.inv_exec hinit events) conv hrest

/-- The first reading of the left wavemaker is written. -/
def leftWavemakerRecorded : List ObserverAction :=
  [.beginRound, .discovered (.answers [leftWavemakerAt "192.0.2.11"]), .bindNext 0,
    .worker 0 (.begin (.ok ()) 0), .worker 0 .connected,
    .worker 0 (.read (wavemakerAt 30)), .worker 0 .started, .written 0,
    .worker 0 .appended]

/-- The entry subscribes, the daemon greets it, and the left wavemaker is read and recorded. -/
def wavemakersRun : List Installation.Event :=
  .deployment .subscribe :: .deployment (.daemon .connect)
    :: List.replicate 8 (.deployment (.daemon .greet))
    ++ leftWavemakerRecorded.map (fun action => .observer action (fun _ => 0))
    ++ [.deployment (.daemon .wake), .deployment (.daemon .publish), .deployment (.daemon .publish)]
    ++ ["flow/system/availability", "flow/system/config", "flow/devices/left/state",
      "flow/devices/left/state", "flow/devices/right/state"].map (fun topic =>
        .deployment (.deliver topic))

/-- Where that run ends. -/
def wavemakersAfter : Installation (tankSite pairedTank) :=
  exec Installation.step (Installation.start (startState pairedTank steadyUnits (fun _ => 0)))
    wavemakersRun

theorem wavemakersAfter_atRest : wavemakersAfter.deployment.AtRest :=
  ⟨by decide +kernel, by decide +kernel, session_empty (by decide +kernel)⟩

theorem dashboard_shows_reads_wavemakers :
    ActualPowerSensor.nativeValue wavemakersAfter.deployment.home.state.1
        ((tankSite pairedTank).deviceEntity leftWavemaker "actual_power") = .ok (some 30) := by
  have hinit := @startState_eq pairedTank steadyUnits (fun _ => 0) (by decide +kernel)
  obtain ⟨_, _, hshown⟩ := @dashboard_shows_reads (tankSite pairedTank) _ _ hinit plainConversions
    wavemakersRun wavemakersAfter_atRest
  exact (hshown leftWavemaker (List.mem_cons_self ..)).actualPower.trans (by decide +kernel)

end JebaoFlow
