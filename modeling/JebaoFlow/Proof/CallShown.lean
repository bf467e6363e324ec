import JebaoFlow.Proof.Calls

/-!
# What becomes of a call

The daemon carries a call out unless a group of the pump is locked. What was asked for then stays
in the record until the next command for that pump, whatever is observed, lost or connected
meanwhile, and it is what the entities show when everything has arrived.
-/

namespace JebaoFlow

open HomeAssistant PyStr Run

variable {site : Site}

/-! ## Carrying a call out -/

/-- What is wanted of a pump. -/
structure SameWanted (a b : DeviceStatePayload) : Prop where
  enabled : b.enabled = a.enabled
  power : b.power = a.power
  controlMode : b.controlMode = a.controlMode

theorem SameWanted.refl (a : DeviceStatePayload) : SameWanted a a := ⟨rfl, rfl, rfl⟩

theorem SameWanted.trans {a b c : DeviceStatePayload} (hab : SameWanted a b) (hbc : SameWanted b c) :
    SameWanted a c :=
  ⟨hbc.enabled.trans hab.enabled, hbc.power.trans hab.power, hbc.controlMode.trans hab.controlMode⟩

/-- A pump of a group that is set on its own leaves it. -/
def overridden (before : DeviceStatePayload) : DeviceControlMode :=
  if before.groupIds = [] then before.controlMode else .manualOverride

/-- The record has what was asked for, and is otherwise as wanted as before. -/
def HomeAssistant.DeviceCall.Done (before after : DeviceStatePayload) : DeviceCall → Prop
  | .turn enabled => after.enabled = enabled ∧ after.power = before.power
      ∧ after.controlMode = overridden before
  | .setPower value => after.enabled = before.enabled ∧ value.round = .ok (after.power.val : ℤ)
      ∧ after.controlMode = overridden before
  | .resume => after.controlMode = .group

theorem HomeAssistant.DeviceCall.Done.congr {before after later : DeviceStatePayload}
    {call : DeviceCall} (h : call.Done before after) (hsame : SameWanted after later) :
    call.Done before later := by
  cases call with
  | turn enabled => exact ⟨hsame.enabled.trans h.1, hsame.power.trans h.2.1, hsame.controlMode.trans h.2.2⟩
  | setPower value =>
      refine ⟨hsame.enabled.trans h.1, ?_, hsame.controlMode.trans h.2.2⟩
      rw [hsame.power]
      exact h.2.1
  | resume => exact hsame.controlMode.trans h

theorem done_resumed {record : DeviceStatePayload} {target : DeviceTarget} {command : DeviceCommand}
    {call : DeviceCall} (hasks : call.Asks command) (haction : command.action = some .resumeGroup) :
    call.Done record (resumedDevice record target command) := by
  cases call with
  | turn | setPower =>
      rw [hasks.2.2] at haction
      cases haction
  | resume => rfl

theorem done_patched {record : DeviceStatePayload} {command : DeviceCommand} {call : DeviceCall}
    (hasks : call.Asks command) (haction : command.action ≠ some .resumeGroup) :
    call.Done record (patchedDevice record command) := by
  have hmode : (patchedDevice record command).controlMode = overridden record := by
    unfold patchedDevice overridden
    exact ite_not ..
  cases call with
  | turn enabled =>
      obtain ⟨henabled, hpower, _⟩ := hasks
      refine ⟨?_, ?_, hmode⟩
      · unfold patchedDevice
        rw [henabled, Option.getD_some]
      · unfold patchedDevice
        rw [hpower, Option.getD_none]
  | setPower value =>
      obtain ⟨henabled, ⟨power, hpower, hround⟩, _⟩ := hasks
      refine ⟨?_, ?_, hmode⟩
      · unfold patchedDevice
        rw [henabled, Option.getD_none]
      · unfold patchedDevice
        rw [hpower, Option.getD_some]
        exact hround
  | resume => exact absurd hasks haction

/-- The daemon's checks let a call that is offered through. -/
theorem not_rejected {device : DeviceConfig} {command : DeviceCommand} {call : DeviceCall}
    (hoffered : call.Offered site.cfg device) (hasks : call.Asks command) :
    site.cfg.runtime.mode = .control
      ∧ (command.action = some .resumeGroup → "resume_group" ∈ deviceControls site.cfg device)
      ∧ (command.action ≠ some .resumeGroup → deviceRejection site.cfg device command = none) := by
  cases call with
  | turn enabled =>
      obtain ⟨henabled, hpower, haction⟩ := hasks
      have hset : Settable site.cfg device := (List.mem_ite_nil_right.mp hoffered).1
      refine ⟨hset.1, fun hresume => ?_, fun _ => ?_⟩
      · rw [haction] at hresume
        cases hresume
      · unfold deviceRejection
        rw [henabled, hpower]
        simp [enabled_mem_deviceControls.mpr hset]
  | setPower value =>
      obtain ⟨henabled, ⟨power, hpower, hround⟩, haction⟩ := hasks
      have hset : Settable site.cfg device := (List.mem_ite_nil_right.mp hoffered.1).1
      obtain ⟨hleast, hgreatest⟩ := round_mem hoffered.2 hround
      have hlimits : device.limits.Contains power.val :=
        ⟨Int.ofNat_le.mp hleast, Int.ofNat_le.mp hgreatest⟩
      refine ⟨hset.1, fun hresume => ?_, fun _ => ?_⟩
      · rw [haction] at hresume
        cases hresume
      · unfold deviceRejection
        rw [henabled, hpower]
        simp [power_mem_deviceControls.mpr hset, hlimits]
  | resume =>
      have hgrouped := (List.mem_ite_nil_right.mp hoffered).1
      exact ⟨hgrouped.1.1, fun _ => resume_mem_deviceControls.mpr hgrouped,
        fun hnot => absurd hasks hnot⟩

/-- **A call is carried out exactly if no group of the pump is locked.** -/
theorem call_outcome {s : ServiceState} (hinv : ServiceInv site.cfg s) (clk : Clock)
    {device : DeviceConfig} (hdevice : device ∈ site.cfg.devices) {record : DeviceStatePayload}
    {command : DeviceCommand} {call : DeviceCall} (hoffered : call.Offered site.cfg device)
    (hasks : call.Asks command) (hrecord : s.deviceStates.get? device.id = some record)
    (hnew : s.deviceResults.get? command.requestId = none) :
    ∃ result s' after, applyDevice site.cfg site.units clk device.id command s = (.ok result, s')
      ∧ s'.deviceStates.get? device.id = some after
      ∧ (result.accepted = true ∧ Unlocked s record.groupIds ∧ call.Done record after
        ∨ result.accepted = false ∧ ¬ Unlocked s record.groupIds ∧ after = record) := by
  obtain ⟨hmode, hresume, hpatch⟩ := not_rejected hoffered hasks
  have houtcome := applyDevice_outcome site.units clk device.id command hinv
  cases happly : applyDevice site.cfg site.units clk device.id command s with
  | mk answer s' =>
      rw [happly] at houtcome
      cases houtcome with
      | replayed hold =>
          rw [hnew] at hold
          cases hold
      | unknown _ hdevice =>
          rw [hrecord] at hdevice
          cases hdevice
      | @rejected d current _ hd hid hcur hreject result hresult =>
          rw [hrecord] at hcur
          cases hcur
          have hlocked : ¬ Unlocked s record.groupIds := fun hlock => by
            rw [AppConfig.device_eq hd hdevice hid] at hreject
            exact hreject ⟨hmode, hlock, hresume, hpatch⟩
          exact ⟨result, _, record, rfl, hrecord, Or.inr ⟨hresult, hlocked, rfl⟩⟩
      | @resumed d current _ _ _ target result _ _ hd hid hcur hpass haction _ _ _ _ _ hstored =>
          rw [hrecord] at hcur
          cases hcur
          refine ⟨result, s', resumedDevice record target command, rfl, ?_,
            Or.inl ⟨hstored.accepted, hpass.lock, done_resumed hasks haction⟩⟩
          rw [hstored.device, hid, Dict.get?_set_self]
      | @patched d current result _ _ hd hid hcur hpass haction hstored =>
          rw [hrecord] at hcur
          cases hcur
          refine ⟨result, s', patchedDevice record command, rfl, ?_,
            Or.inl ⟨hstored.accepted, hpass.lock, done_patched hasks haction⟩⟩
          rw [hstored.device, hid, Dict.get?_set_self]

/-! ## Until the next command -/

/-- No command for the pump or for a group arrives, and the daemon is not started anew. -/
def Deployment.Event.Spares (topics : MqttTopics) (deviceId : String) : Deployment.Event → Prop
  | .daemon (.receive message _) => topics.parseDeviceCommand message.topic ≠ some deviceId
      ∧ topics.parseGroupCommand message.topic = none
  | .restart _ => False
  | _ => True

/-- There is a record, with what `record` has of what is wanted. -/
def Keeps (deviceId : String) (record : DeviceStatePayload) (s : ServiceState) : Prop :=
  ∃ later, s.deviceStates.get? deviceId = some later ∧ SameWanted record later

section Keeps

variable {deviceId : String} {record : DeviceStatePayload} {s s' : ServiceState}

theorem Keeps.congr (h : Keeps deviceId record s)
    (hsame : s'.deviceStates.get? deviceId = s.deviceStates.get? deviceId) :
    Keeps deviceId record s' := by
  obtain ⟨later, hlater, hwanted⟩ := h
  exact ⟨later, hsame.trans hlater, hwanted⟩

theorem Keeps.observe (hinv : ServiceInv site.cfg s) (event : ObserverEvent) (clk : Clock)
    (h : Keeps deviceId record s) :
    Keeps deviceId record (recordObserverEvent site.cfg site.units clk event s).2 := by
  have houtcome := recordObserverEvent_outcome site.units clk event hinv
  cases hobserve : recordObserverEvent site.cfg site.units clk event s with
  | mk answer s' =>
      rw [hobserve] at houtcome
      cases houtcome with
      | unknown | stale => exact h
      | @merged d current _ hd hid hcur hfresh hmerged =>
          by_cases hother : event.deviceId = deviceId
          · subst hother
            obtain ⟨later, hlater, hwanted⟩ := h
            rw [hcur] at hlater
            cases hlater
            obtain ⟨_, _, henabled, hpower, hmode, _⟩ := mergeEvent_fields current event
            refine ⟨(mergeEvent current event).1, ?_, hwanted.trans ⟨henabled, hpower, hmode⟩⟩
            rw [hmerged.device, Dict.get?_set_self]
          · refine h.congr ?_
            rw [hmerged.device, Dict.get?_set, if_neg hother]

theorem Keeps.applyDevice (hinv : ServiceInv site.cfg s) {other : String} (hother : other ≠ deviceId)
    (command : DeviceCommand) (clk : Clock) (h : Keeps deviceId record s) :
    Keeps deviceId record (JebaoFlow.applyDevice site.cfg site.units clk other command s).2 := by
  have houtcome := applyDevice_outcome site.units clk other command hinv
  cases happly : JebaoFlow.applyDevice site.cfg site.units clk other command s with
  | mk answer s' =>
      rw [happly] at houtcome
      have hstored : ∀ {d updated result}, d.id = other →
          Stored site.cfg site.units clk d updated result s s' → Keeps deviceId record s' := by
        intro d updated result hid hst
        refine h.congr ?_
        rw [hst.device, Dict.get?_set, if_neg (hid ▸ hother)]
      cases houtcome with
      | replayed => exact h
      | unknown | rejected => exact h.congr rfl
      | resumed _ _ hid _ _ _ _ _ _ _ _ hst => exact hstored hid hst
      | patched _ _ hid _ _ _ hst => exact hstored hid hst

/-- A message that is no command for the pump or a group. -/
theorem Keeps.receive (hinv : ServiceInv site.cfg s) {message : Message}
    (hdevice : site.topics.parseDeviceCommand message.topic ≠ some deviceId)
    (hgroup : site.topics.parseGroupCommand message.topic = none) (clk : Clock)
    (h : Keeps deviceId record s) :
    Keeps deviceId record
      (MqttAdapter.receive site.topics site.cfg site.units site.validator clk message s).2 := by
  rcases receive_service site.cfg site.units site.topics site.validator clk message s with
    hsame | ⟨other, command, hparsed, hcalled⟩ | ⟨groupId, command, hparsed, _⟩
  · rw [hsame]
    exact h
  · have hother : other ≠ deviceId := by
      rintro rfl
      exact hdevice hparsed
    rw [hcalled]
    exact h.applyDevice hinv hother command clk
  · rw [hgroup] at hparsed
    cases hparsed

end Keeps

/-- **A step that spares a pump leaves what is wanted of it.** -/
theorem Keeps.step {d : Deployment site} (hinv : d.Inv) {deviceId : String}
    {record : DeviceStatePayload} (event : Deployment.Event) (hspares : event.Spares site.topics deviceId)
    (h : Keeps deviceId record d.adapter.service) :
    Keeps deviceId record (d.step event).adapter.service := by
  have hsound := hinv.daemon.honest.sound.inv
  cases event with
  | restart clk => cases hspares
  | will | subscribe | lose | deliver | reload => exact h
  | daemon event =>
      rcases d.step_daemon event with heq | ⟨adapter, severed, _, rfl, _, _, _, heq⟩
      · rw [heq]
        exact h
      · rw [heq]
        show Keeps deviceId record
          (MqttAdapter.step site.topics site.cfg site.units site.validator d.adapter event).service
        cases event with
        | observe event clk => exact h.observe hsound event clk
        | receive message clk =>
            have hkept := h.receive hsound hspares.1 hspares.2 clk
            unfold MqttAdapter.step
            dsimp only
            split
            · exact hkept
            · exact h
        | connect | greet | greetingLost | consume | consumerLost | wake | publish | publisherLost
          | stop | leave =>
            refine h.congr ?_
            rw [step_records d.adapter]
            · rintro _ _ ⟨⟩
            · rintro _ _ ⟨⟩

theorem Keeps.exec {deviceId : String} {record : DeviceStatePayload} {events : List Deployment.Event}
    (hspares : ∀ e ∈ events, e.Spares site.topics deviceId) {d : Deployment site} (hinv : d.Inv)
    (h : Keeps deviceId record d.adapter.service) :
    Keeps deviceId record (Run.exec Deployment.step d events).adapter.service := by
  induction events generalizing d with
  | nil => exact h
  | cons event events ih =>
      exact ih (fun e he => hspares e (List.mem_cons_of_mem _ he)) (Deployment.inv_step d event hinv)
        (h.step hinv event (hspares event (List.mem_cons_self ..)))

/-! ## From the call to the entities -/

/-- A command for a pump, taken by a consumer that waits. -/
theorem step_deviceCommand {d : Deployment site} {message : Message} {clk : Clock} {deviceId : String}
    {command : DeviceCommand} {result : DeviceCommandResult} {s' : ServiceState} {stopping : Bool}
    {publisher : Activity} (hlink : d.adapter.link = .online stopping .waiting publisher)
    (hparsed : site.topics.parseDeviceCommand message.topic = some deviceId)
    (hcommand : site.validator.device message.payload = .ok command)
    (happly : applyDevice site.cfg site.units clk deviceId command d.adapter.service = (.ok result, s')) :
    (d.step (.daemon (.receive message clk))).adapter = { d.adapter with
      service := s'
      link := .online stopping (.busy (.result command.requestId (.deviceResult result)
        :: if result.accepted then [.deviceAndGroups deviceId] else [])) publisher } := by
  have hreceive : MqttAdapter.receive site.topics site.cfg site.units site.validator clk message
      d.adapter.service = (.busy (.result command.requestId (.deviceResult result)
        :: if result.accepted then [.deviceAndGroups deviceId] else []), s') := by
    unfold MqttAdapter.receive
    rw [hparsed]
    dsimp only
    rw [hcommand]
    dsimp only
    rw [happly]
  have hstep : MqttAdapter.step site.topics site.cfg site.units site.validator d.adapter
      (.receive message clk) = { d.adapter with
        service := s'
        link := .online stopping (.busy (.result command.requestId (.deviceResult result)
          :: if result.accepted then [.deviceAndGroups deviceId] else [])) publisher } := by
    unfold MqttAdapter.step
    dsimp only
    rw [hlink]
    dsimp only
    rw [hreceive]
  unfold Deployment.step
  dsimp only
  rw [hstep, if_neg (fun h => h.2 rfl)]
  rfl

/--
**What a user asks of a pump is done and shown, unless a group of the pump is locked.**

Take a call on an entity of a device that leaves at any moment of a run, and let anything happen
until the daemon's consumer takes the message, whose request it has not answered before. The
validator is only assumed to read back the command whose fields were sent. The daemon then has an
answer to publish, which accepts exactly if none of the groups of the pump is in emergency stop.
Whatever happens next, commands for this pump or for groups and restarts aside: as soon as everything
has arrived, the entities of the pump show a record with what was asked for, or, if it was
refused, with what was wanted before.
-/
theorem call_shown {clk : Clock} {service : ServiceState}
    (hinit : GroupControlService.init site.cfg site.units clk = .ok service) (conv : Conversions)
    (before between : List Deployment.Event) {device : DeviceConfig} (hdevice : device ∈ site.cfg.devices)
    {call : DeviceCall} (hoffered : call.Offered site.cfg device) {requestId : String}
    (hid : isRequestId requestId = true) {published : PublishedCommand}
    (hsent : call.send conv
      (exec Deployment.step (Deployment.start service : Deployment site) before).home.state.1
      (ofString requestId) device.id = .ok published)
    {payload : Bytes} (hreads : ∀ command : DeviceCommand, published.payload.entries = command.wire →
      site.validator.device payload = .ok command) (clk' : Clock) :
    let d := exec Deployment.step (Deployment.start service : Deployment site) (before ++ between)
    ∀ stopping publisher, d.adapter.link = .online stopping .waiting publisher →
    d.adapter.service.deviceResults.get? requestId = none →
    let received := d.step (.daemon (.receive ⟨published.topic, payload⟩ clk'))
    ∃ record result, d.adapter.service.deviceStates.get? device.id = some record
      ∧ received.adapter.link = .online stopping (.busy (.result requestId (.deviceResult result)
        :: if result.accepted then [.deviceAndGroups device.id] else [])) publisher
      ∧ (result.accepted = true ↔ Unlocked d.adapter.service record.groupIds)
      ∧ ∀ after, (∀ e ∈ after, e.Spares site.topics device.id) →
        let d' := exec Deployment.step received after
        d'.AtRest → ∃ shown, DeviceShown conv site d'.home.state.1 device d'.home.state.1.online shown
          ∧ if result.accepted then call.Done record shown else SameWanted record shown := by
  intro d stopping publisher hlink hnew received
  have hinv : d.Inv := Deployment.inv_exec hinit (before ++ between)
  have hsound := hinv.daemon.honest.sound.inv
  obtain ⟨htopic, command, rfl, hentries, hasks⟩ := deviceCall_command hid hoffered hsent
  obtain ⟨record, hrecord⟩ := hsound.device_present device hdevice
  obtain ⟨result, s', after, happly, hafter, houtcome⟩ :=
    call_outcome hsound clk' hdevice hoffered hasks hrecord hnew
  have hparsed : site.topics.parseDeviceCommand published.topic = some device.id := by
    have hprefix := (exec Deployment.step (Deployment.start service : Deployment site) before).home.state.2
    unfold MqttTopics.parseDeviceCommand
    rw [parseCommand_eq, levelOf_eq_some_iff, htopic, hprefix]
    exact ⟨rfl, level_of_identifier device.id_ok⟩
  have hreceived := @step_deviceCommand _ d ⟨published.topic, payload⟩ _ _ _ _ _ _ _ hlink hparsed
    (hreads command hentries) happly
  have hinv' : received.Inv := Deployment.inv_step d _ hinv
  refine ⟨record, result, hrecord, congrArg MqttAdapter.link hreceived, ?_, fun later hspares => ?_⟩
  · rcases houtcome with ⟨hyes, hlock, _⟩ | ⟨hno, hlock, _⟩
    · exact iff_of_true hyes hlock
    · exact iff_of_false (Bool.eq_false_iff.mp hno) hlock
  intro d' hrest
  have hlast : d'.Inv := invariant_exec (fun d event h => Deployment.inv_step d event h) hinv'
  obtain ⟨shown, hshown, hwanted⟩ : Keeps device.id after d'.adapter.service := by
    refine Keeps.exec hspares hinv' ⟨after, ?_, SameWanted.refl _⟩
    rw [hreceived]
    exact hafter
  obtain ⟨record', state, hrecord', hstate, hsame⟩ := hlast.device_settled hrest hdevice
  rw [hshown] at hrecord'
  cases hrecord'
  refine ⟨shown, deviceShown (hlast.config_settled hrest) hstate hsame, ?_⟩
  rcases houtcome with ⟨hyes, _, hdone⟩ | ⟨hno, _, rfl⟩
  · rw [if_pos hyes]
    exact hdone.congr hwanted
  · rw [if_neg (Bool.eq_false_iff.mp hno)]
    exact hwanted

/-! ## A power that is set -/

/-- The command behind a number that is set to half a percent. -/
def setPowerCommand : DeviceCommand := { requestId := "5bd1e995", power := some 62 }

def setPowerText : String :=
  "\x7b\"request_id\":\"5bd1e995\",\"source\":\"home_assistant\",\"power\":62\x7d"

/-- A tank whose validator knows that one text. -/
def setPowerSite : Site :=
  { tankSite reefTank with
    validator := {
      group := fun _ => .error (.validationError "Invalid JSON")
      device := fun payload =>
        if payload = asciiBytes setPowerText then .ok setPowerCommand
        else .error (.validationError "Invalid JSON")
      group_raises := fun _ e h => ⟨_, (Except.error.inj h).symm⟩
      device_raises := fun payload e h => by
        split at h
        · cases h
        · cases h
          exact ⟨_, rfl⟩ } }

/-- The answer and the states go out, and everything arrives. -/
def setPowerEnd : List Deployment.Event :=
  List.replicate 4 (.daemon .consume)
    ++ ["flow/groups/flow/state", "flow/groups/flow/state", "flow/devices/left/state",
      "flow/devices/left/state", "flow/devices/right/state", "flow/requests/5bd1e995/result"].map .deliver

theorem setPowerEnd_spares : ∀ e ∈ setPowerEnd, e.Spares setPowerSite.topics leftPump.id := by
  intro e he
  rcases List.mem_append.mp he with he | he
  · rw [List.eq_of_mem_replicate he]
    trivial
  · obtain ⟨topic, _, rfl⟩ := List.mem_map.mp he
    trivial

/-- Where the tank is when the number is set. -/
abbrev setPowerStart : Deployment setPowerSite :=
  exec Deployment.step (Deployment.start (startState reefTank steadyUnits (fun _ => 0))) freshRun

/-- The command that asks for half a percent is the one the validator knows. -/
theorem asks_setPower {command : DeviceCommand} (hrequest : command.requestId = "5bd1e995")
    (hasks : (DeviceCall.setPower (.fin 62.5)).Asks command) : command = setPowerCommand := by
  obtain ⟨requestId, enabled, power, action, _, _⟩ := command
  obtain ⟨rfl, ⟨⟨n, _⟩, rfl, hround⟩, rfl⟩ := hasks
  cases hrequest
  have hsixty : (PyFloat.fin 62.5).round = .ok ((62 : ℕ) : ℤ) := by decide +kernel
  rw [hsixty] at hround
  obtain rfl : 62 = n := Int.ofNat_inj.mp (Except.ok.inj hround)
  rfl

/-- Where it is when everything about that has arrived. -/
abbrev setPowerDone : Deployment setPowerSite :=
  exec Deployment.step (setPowerStart.step (.daemon (.receive
    ⟨"flow/devices/left/command", asciiBytes setPowerText⟩ (fun _ => 1)))) setPowerEnd

/-- The number shows the even one of the two next to it. -/
theorem call_shown_setPower : numberValue plainConversions setPowerDone.home.state.1
    (setPowerSite.deviceEntity leftPump "device_power") "power" = .ok (some (.fin 62)) := by
  have hinit := @startState_eq reefTank steadyUnits (fun _ => 0) (by decide +kernel)
  have hoffered : (DeviceCall.setPower (.fin 62.5)).Offered reefTank leftPump := by
    refine ⟨by decide, ?_, ?_⟩ <;> decide +kernel
  have hleaves : ((DeviceCall.setPower (.fin 62.5)).send plainConversions setPowerStart.home.state.1
      (ofString "5bd1e995") leftPump.id).toOption.isSome = true := by decide +kernel
  cases hsent : (DeviceCall.setPower (.fin 62.5)).send plainConversions setPowerStart.home.state.1
      (ofString "5bd1e995") leftPump.id with
  | error e =>
      rw [hsent] at hleaves
      cases hleaves
  | ok published =>
      obtain ⟨htopic, command, hrequest, hentries, hasks⟩ :=
        deviceCall_command (by decide) hoffered hsent
      have hliteral : levelTopic setPowerStart.home.state.1.topicPrefix "devices" leftPump.id "command"
          = "flow/devices/left/command" := by decide +kernel
      have hreads : ∀ other : DeviceCommand, published.payload.entries = other.wire →
          setPowerSite.validator.device (asciiBytes setPowerText) = .ok other := by
        intro other hother
        rw [DeviceCommand.wire_injective (hother.symm.trans hentries), asks_setPower hrequest hasks]
        show (if asciiBytes setPowerText = asciiBytes setPowerText then Except.ok setPowerCommand
          else Except.error (PyError.validationError "Invalid JSON")) = _
        exact if_pos rfl
      have hidle : setPowerStart.adapter.link.idle = true := by decide +kernel
      obtain ⟨stopping, hlink⟩ := idle_online hidle
      have hunlocked : setPowerStart.adapter.service.states.entries.all
          (fun e => decide (e.2.status ≠ .emergencyStop)) = true := by decide +kernel
      obtain ⟨record, result, _, _, haccepted, hafter⟩ :=
        @call_shown setPowerSite _ _ hinit plainConversions freshRun [] leftPump (List.mem_cons_self ..)
          _ hoffered "5bd1e995" (by decide) published hsent _ hreads (fun _ => 1) stopping .waiting
          hlink (by decide +kernel)
      rw [htopic, hliteral] at hafter
      have hyes : result.accepted = true := haccepted.mpr fun gid _ state hstate =>
        of_decide_eq_true
          (List.all_eq_true.mp hunlocked (gid, state) (Dict.get?_eq_some_iff.mp hstate))
      obtain ⟨shown, hshown, hdone⟩ := hafter setPowerEnd setPowerEnd_spares
        ⟨by decide +kernel, by decide +kernel, session_empty (by decide +kernel)⟩
      rw [if_pos hyes] at hdone
      have hsixty : (PyFloat.fin 62.5).round = .ok ((62 : ℕ) : ℤ) := by decide +kernel
      refine hshown.power.trans ?_
      rw [← Except.ok.inj (hsixty.symm.trans hdone.2.1)]
      rfl

end JebaoFlow
