import JebaoFlow.HomeAssistant.Controls
import JebaoFlow.Proof.Platforms
import JebaoFlow.Proof.SchedulePassage

/-!
# What the entities show of the daemon's records

The properties of the entities read single fields of the state that was received last. When
everything has arrived, that state is the daemon's record, and each of them is a field of it.
-/

namespace JebaoFlow

open HomeAssistant Run

variable {site : Site} {conv : Conversions} {runtime : LiveRuntime}

/-! ## Fields -/

theorem stateOf_eq (states : Dict String Object) (id : String) :
    stateOf states (PyStr.ofString id) = states.get? id := by
  unfold stateOf Dict.get?
  induction states.entries with
  | nil => rfl
  | cons e entries ih =>
      rw [List.map_cons, Dict.lookupEntries, Dict.lookupEntries, ih]
      simp only [ofString_injective.eq_iff]

/-- Whether a record has been received, and its fields. -/
theorem reading_device {α : Type} {device : DeviceConfig} {control : String}
    {fields : List (String × Json)}
    (h : runtime.deviceStates.get? device.id = some (Object.of (.object fields))) (read : Json → α)
    (key : String) (default : Json) :
    (site.deviceEntity device control).reading runtime read key default
      = some (read ((Dict.lookupEntries key fields).getD default)) := by
  unfold Entity.reading Entity.statePayload Site.deviceEntity
  dsimp only
  rw [stateOf_eq, h, Option.map_some, getOr_object]

theorem available_device {device : DeviceConfig} {control : String} {items : Object}
    (h : runtime.deviceStates.get? device.id = some items) :
    (site.deviceEntity device control).available runtime = runtime.online := by
  unfold Entity.available Entity.statePayload Site.deviceEntity
  dsimp only
  rw [stateOf_eq, h, Option.isSome_some, Bool.and_true]

theorem reading_group {α : Type} {group : GroupConfig} {control : String}
    {fields : List (String × Json)}
    (h : runtime.groupStates.get? group.id = some (Object.of (.object fields))) (read : Json → α)
    (key : String) (default : Json) :
    (site.groupEntity group control).reading runtime read key default
      = some (read ((Dict.lookupEntries key fields).getD default)) := by
  unfold Entity.reading Entity.statePayload Site.groupEntity
  dsimp only
  rw [stateOf_eq, h, Option.map_some, getOr_object]

theorem available_group {group : GroupConfig} {control : String} {items : Object}
    (h : runtime.groupStates.get? group.id = some items) :
    (site.groupEntity group control).available runtime = runtime.online := by
  unfold Entity.available Entity.statePayload Site.groupEntity
  dsimp only
  rw [stateOf_eq, h, Option.isSome_some, Bool.and_true]

/-- A field that is the same in records that are the same. -/
theorem SameDevice.field {α : Type} {a b : DeviceStatePayload} (h : SameDevice a b)
    (f : DeviceStatePayload → α) (hf : ∀ d, f { d with
      lastSeenAt := none, schedule := none, observedAttributes := Dict.empty } = f d) :
    f a = f b := by
  rw [← hf a, h.fields, hf b]

theorem SameReport.field {α : Type} {a b : GroupStatePayload} (h : SameReport a b)
    (f : GroupStatePayload → α)
    (hf : ∀ g, f { g with lastSeenAt := none, members := Dict.empty } = f g) : f a = f b := by
  rw [← hf a, h.fields, hf b]

/-! ## Attributes -/

/-- Every attribute is shown under its key, and is a field of the record: none takes its default. -/
structure Attributes (keys fields shown : List (String × Json)) : Prop where
  keys : shown.map Prod.fst = keys.map Prod.fst
  fields : ∀ a ∈ shown, a ∈ fields

theorem attributes_of_fields {entity : Entity} {keys fields : List (String × Json)}
    (hpayload : entity.statePayload runtime = some (Object.of (.object fields)))
    (hkeys : ∀ key ∈ keys, key.1 ∈ fields.map Prod.fst) :
    Attributes keys fields (stateAttributes runtime entity keys) := by
  unfold stateAttributes
  rw [hpayload]
  refine ⟨by rw [List.map_map]; rfl, fun a ha => ?_⟩
  obtain ⟨key, hkey, rfl⟩ := List.mem_map.mp ha
  obtain ⟨value, hvalue⟩ :=
    Option.isSome_iff_exists.mp (Dict.lookupEntries_isSome_iff.mpr (hkeys key hkey))
  rw [getOr_object, hvalue]
  exact Dict.mem_of_lookupEntries hvalue

/-- The status of a device asks for fields that its record has. -/
theorem deviceStatusAttributes_fields (state : DeviceStatePayload) :
    ∀ key ∈ deviceStatusAttributes, key.1 ∈ (state.fields site.stamps).map Prod.fst := by
  have hkeys : ∀ name ∈ deviceStatusAttributes.map Prod.fst,
      name ∈ (state.fields site.stamps).map Prod.fst := by
    unfold deviceStatusAttributes DeviceStatePayload.fields
    simp only [List.map_cons, List.map_nil]
    decide
  exact fun key hkey => hkeys key.1 (List.mem_map_of_mem hkey)

theorem statusAttributes_fields (state : GroupStatePayload) :
    ∀ key ∈ statusAttributes, key.1 ∈ (state.fields site.stamps).map Prod.fst := by
  have hkeys : ∀ name ∈ statusAttributes.map Prod.fst,
      name ∈ (state.fields site.stamps).map Prod.fst := by
    unfold statusAttributes GroupStatePayload.fields
    simp only [List.map_cons, List.map_nil]
    decide
  exact fun key hkey => hkeys key.1 (List.mem_map_of_mem hkey)

/-! ## Schedules -/

/-- It was decoded from the status of a product. -/
def DeviceSchedule.Decoded (schedule : DeviceSchedule) : Prop :=
  ∃ productKey spec raw enabled, (productKey, spec) ∈ scheduleSpecs
    ∧ raw.length = spec.rawStatusSize ∧ decodeSchedule productKey raw enabled = .ok (some schedule)

/-- The schedule, unchanged, as the sensor shows schedules. -/
def DeviceSchedule.shown (schedule : DeviceSchedule) : ScheduleAttributes where
  enabled := some schedule.enabled
  slotCapacity := some scheduleSlotCapacity
  entries := schedule.entries.map ScheduleEntry.shown
  invalidSlots := schedule.invalidSlots.map (fun slot : Fin 48 => ((slot : ℕ) : ℤ))

/-- What the sensor of a device shows of its schedule. -/
structure ScheduleShown (site : Site) (runtime : LiveRuntime) (device : DeviceConfig) (online : Bool)
    (schedule : Option DeviceSchedule) : Prop where
  payload : ScheduleSensor.schedulePayload runtime (site.deviceEntity device "schedule")
    = schedule.map (DeviceSchedule.json site.stamps.naive)
  available : ScheduleSensor.available runtime (site.deviceEntity device "schedule")
    = (online && schedule.isSome)
  decoded : (∀ s ∈ schedule, s.Decoded) →
    ScheduleSensor.nativeValue runtime (site.deviceEntity device "schedule")
        = .ok (schedule.map (fun s => s.entries.length))
      ∧ ScheduleSensor.attributes runtime (site.deviceEntity device "schedule")
        = .ok (schedule.map DeviceSchedule.shown)

theorem scheduleShown_of_payload {device : DeviceConfig} {schedule : Option DeviceSchedule}
    {items : Object} (h : runtime.deviceStates.get? device.id = some items)
    (hpayload : ScheduleSensor.schedulePayload runtime (site.deviceEntity device "schedule")
      = schedule.map (DeviceSchedule.json site.stamps.naive)) :
    ScheduleShown site runtime device runtime.online schedule where
  payload := hpayload
  available := by
    unfold ScheduleSensor.available
    rw [available_device h, hpayload, Option.isSome_map]
  decoded hdecoded := by
    unfold ScheduleSensor.nativeValue ScheduleSensor.attributes
    rw [hpayload]
    cases schedule with
    | none => exact ⟨rfl, rfl⟩
    | some s =>
        obtain ⟨productKey, spec, raw, enabled, hspec, hlen, hdecode⟩ := hdecoded s rfl
        obtain ⟨hentries, hslots⟩ := decodedSchedule_passes hspec hlen hdecode site.stamps.naive
        have henabled : (field (s.json site.stamps.naive) "enabled").boolean = some s.enabled := by
          simp [DeviceSchedule.json, field_cons, Json.boolean]
        have hcapacity : HomeAssistant.slotCapacity (field (s.json site.stamps.naive) "slot_capacity")
            = some scheduleSlotCapacity := by
          simp [DeviceSchedule.json, field_cons, HomeAssistant.slotCapacity, JebaoFlow.slotCapacity,
            scheduleSlotCapacity]
        rw [Option.map_some, Option.map_some, Option.map_some]
        dsimp only
        rw [PyError.bind_of_ok hentries, PyError.bind_of_ok hentries, hslots, henabled, hcapacity,
          List.length_map]
        exact ⟨rfl, rfl⟩

/-! ## Devices -/

/-- What the entities of a device show of a record; `online` is whether the daemon is. -/
structure DeviceShown (conv : Conversions) (site : Site) (runtime : LiveRuntime)
    (device : DeviceConfig) (online : Bool) (record : DeviceStatePayload) : Prop where
  availability : DeviceAvailabilitySensor.isOn runtime (site.deviceEntity device "device_availability")
    = (online && decide (record.online = some true))
  running : DeviceRunningSensor.isOn runtime (site.deviceEntity device "actual_running")
    = if online = true ∧ record.online = some true then record.actualEnabled else none
  problem : DeviceProblemSensor.isOn runtime (site.deviceEntity device "device_problem")
    = some (record.error.any (fun text => !(PyStr.ofString text).isEmpty))
  status : StatusSensor.nativeValue conv runtime (site.deviceEntity device "device_status")
    = some (PyStr.ofString record.status.text)
  actualPower : ActualPowerSensor.nativeValue runtime (site.deviceEntity device "actual_power")
    = .ok (record.actualPower.map (fun power => (power.val : ℤ)))
  actualMode : ActualModeSensor.nativeValue conv runtime (site.deviceEntity device "actual_mode")
    = record.actualMode.map PyStr.ofString
  schedule : ∃ schedule, SameSchedule schedule record.schedule
    ∧ ScheduleShown site runtime device online schedule
  power : numberValue conv runtime (site.deviceEntity device "device_power") "power"
    = .ok (some (.fin (record.power.val : ℤ)))
  enabled : switchIsOn runtime (site.deviceEntity device "device_enabled") = some record.enabled
  controllable : ∀ control, (site.deviceEntity device control).controllable conv runtime
    = (online && decide (site.cfg.runtime.mode = .control))
  resume : ResumeGroupButton.available conv runtime (site.deviceEntity device "resume_group")
    = (online && decide (site.cfg.runtime.mode = .control)
      && decide (record.controlMode = .manualOverride))
  attributes : ∃ state, SameDevice state record ∧ Attributes deviceStatusAttributes
    (state.fields site.stamps)
    (stateAttributes runtime (site.deviceEntity device "device_status") deviceStatusAttributes)
  base : ∀ control, (site.deviceEntity device control).baseAttributes conv runtime
    = [("jebao_flow_instance_id", PyStr.ofString site.daemon.id),
      ("jebao_flow_entry_id", runtime.entryId),
      ("jebao_flow_topic_prefix", PyStr.ofString runtime.topicPrefix),
      ("jebao_flow_device_id", PyStr.ofString device.id),
      ("jebao_flow_device_type", PyStr.ofString device.type.text),
      ("jebao_flow_control", PyStr.ofString control),
      ("jebao_flow_runtime_mode", PyStr.ofString site.cfg.runtime.mode.text)]

theorem isTrue_optional (b : Option Bool) :
    (Json.optional Json.bool b).isTrue = decide (b = some true) := by
  cases b with
  | none => rfl
  | some b => cases b <;> rfl

theorem isNull_optional {α : Type} {write : α → Json} (hwrite : ∀ a, (write a).isNull = false)
    (a : Option α) : (Json.optional write a).isNull = a.isNone := by
  cases a with
  | none => rfl
  | some a => exact hwrite a

theorem textValue_optional (text : Option String) :
    (Json.optional Json.text text).textValue conv = text.map PyStr.ofString := by
  cases text <;> rfl

theorem isText_ofString (word text : String) : (Json.text text).isText word = decide (text = word) := by
  show decide (PyStr.ofString text = PyStr.ofString word) = _
  rw [decide_eq_decide, ofString_injective.eq_iff]

theorem toFloat_percent (p : Percent) : (Json.percent p).toFloat conv = .ok (.fin (p.val : ℤ)) :=
  if_pos (p.property.trans_lt hundred_lt_floatBound)

/-- The fields that are shown of a record that was received. -/
theorem deviceShown {device : DeviceConfig} {state record : DeviceStatePayload}
    (hconfig : runtime.systemConfig = Object.of (systemConfig site.daemon site.cfg).json)
    (h : runtime.deviceStates.get? device.id = some (Object.of (state.json site.stamps)))
    (hsame : SameDevice state record) :
    DeviceShown conv site runtime device runtime.online record := by
  have hread : ∀ {α : Type} (control : String) (read : Json → α) (key : String) (default : Json),
      (site.deviceEntity device control).reading runtime read key default
        = some (read ((Dict.lookupEntries key (state.fields site.stamps)).getD default)) :=
    fun _ read key default => reading_device h read key default
  have honline : state.online = record.online := hsame.field DeviceStatePayload.online (fun _ => rfl)
  have hactual : state.actualEnabled = record.actualEnabled :=
    hsame.field DeviceStatePayload.actualEnabled (fun _ => rfl)
  have hlive : ∀ control, (site.deviceEntity device control).live runtime
      = (runtime.online && decide (record.online = some true)) := by
    intro control
    unfold Entity.live
    rw [available_device h, hread, Option.getD_some, ← honline]
    exact congrArg (runtime.online && ·) (isTrue_optional state.online)
  have hcontrol : ∀ control, (site.deviceEntity device control).controllable conv runtime
      = (runtime.online && decide (site.cfg.runtime.mode = .control)) := by
    intro control
    unfold Entity.controllable
    rw [available_device h, observerMode_of_config hconfig]
    cases site.cfg.runtime.mode <;> rfl
  refine ⟨hlive _, ?_, ?_, ?_, ?_, ?_, ?_, ?_, ?_, hcontrol, ?_, ⟨state, hsame, ?_⟩, ?_⟩
  · unfold DeviceRunningSensor.isOn DeviceRunningSensor.available
    rw [hlive, hread, hread, Option.getD_some, ← hactual]
    show (if (_ && !(Json.optional Json.bool state.actualEnabled).isNull) = true then
      some (Json.optional Json.bool state.actualEnabled).isTrue else none) = _
    rw [isNull_optional (fun _ => rfl), isTrue_optional]
    cases state.actualEnabled with
    | none => simp
    | some b => cases b <;> simp
  · unfold DeviceProblemSensor.isOn
    rw [hread, ← hsame.field DeviceStatePayload.error (fun _ => rfl)]
    show some (Json.optional Json.text state.error).truthy = _
    cases state.error <;> rfl
  · unfold StatusSensor.nativeValue
    rw [hread, ← hsame.field DeviceStatePayload.status (fun _ => rfl)]
    rfl
  · unfold ActualPowerSensor.nativeValue
    rw [hread, ← hsame.field DeviceStatePayload.actualPower (fun _ => rfl)]
    show (Json.optional Json.percent state.actualPower).intValue = _
    cases state.actualPower <;> rfl
  · unfold ActualModeSensor.nativeValue
    rw [hread, ← hsame.field DeviceStatePayload.actualMode (fun _ => rfl)]
    exact textValue_optional state.actualMode
  · refine ⟨state.schedule, hsame.schedule, scheduleShown_of_payload h ?_⟩
    unfold ScheduleSensor.schedulePayload
    rw [hread]
    show asObject (Json.optional (fun s => .dict (s.json site.stamps.naive)) state.schedule) = _
    cases state.schedule <;> rfl
  · unfold numberValue
    rw [hread, ← hsame.field DeviceStatePayload.power (fun _ => rfl)]
    show (Json.percent state.power).floatValue conv = _
    exact PyError.bind_of_ok (toFloat_percent state.power)
  · unfold switchIsOn
    rw [hread, ← hsame.field DeviceStatePayload.enabled (fun _ => rfl)]
    rfl
  · unfold ResumeGroupButton.available
    rw [hcontrol, hread, Option.getD_some, ← hsame.field DeviceStatePayload.controlMode (fun _ => rfl)]
    show (_ && (Json.text state.controlMode.text).isText "manual_override") = _
    rw [isText_ofString]
    cases state.controlMode <;> rfl
  · refine attributes_of_fields ?_ (deviceStatusAttributes_fields state)
    unfold Entity.statePayload Site.deviceEntity
    exact (stateOf_eq ..).trans h
  · intro control
    unfold Entity.baseAttributes
    rw [instanceId_of_config hconfig, runtimeMode_of_config hconfig]
    rfl

/-! ## Groups -/

/-- What the entities of a group show of a report. -/
structure GroupShown (conv : Conversions) (site : Site) (runtime : LiveRuntime) (group : GroupConfig)
    (online : Bool) (record : GroupStatePayload) : Prop where
  availability : AvailabilitySensor.isOn runtime (site.groupEntity group "availability") = online
  hardwareLock : HardwareLockSensor.isOn runtime (site.groupEntity group "hardware_lock")
    = some record.hardwareWritesLocked
  status : StatusSensor.nativeValue conv runtime (site.groupEntity group "status")
    = some (PyStr.ofString record.status.text)
  counts : stateAttributes runtime (site.groupEntity group "status")
      [("online_member_count", .int 0), ("member_count", .int 0)]
    = [("online_member_count", .nat record.onlineMemberCount), ("member_count", .nat record.memberCount)]
  pattern : PatternSelect.currentOption conv runtime (site.groupEntity group "pattern")
    = some (PyStr.ofString record.pattern.text)
  attributes : ∃ state, SameReport state record ∧ Attributes statusAttributes
    (state.fields site.stamps)
    (stateAttributes runtime (site.groupEntity group "status") statusAttributes)
  base : ∀ control, (site.groupEntity group control).baseAttributes conv runtime
    = [("jebao_flow_instance_id", PyStr.ofString site.daemon.id),
      ("jebao_flow_entry_id", runtime.entryId),
      ("jebao_flow_topic_prefix", PyStr.ofString runtime.topicPrefix),
      ("jebao_flow_group_id", PyStr.ofString group.id),
      ("jebao_flow_control", PyStr.ofString control),
      ("jebao_flow_runtime_mode", PyStr.ofString site.cfg.runtime.mode.text)]

theorem groupShown {group : GroupConfig} {state record : GroupStatePayload}
    (hconfig : runtime.systemConfig = Object.of (systemConfig site.daemon site.cfg).json)
    (h : runtime.groupStates.get? group.id = some (Object.of (state.json site.stamps)))
    (hsame : SameReport state record) :
    GroupShown conv site runtime group runtime.online record := by
  have hread : ∀ {α : Type} (control : String) (read : Json → α) (key : String) (default : Json),
      (site.groupEntity group control).reading runtime read key default
        = some (read ((Dict.lookupEntries key (state.fields site.stamps)).getD default)) :=
    fun _ read key default => reading_group h read key default
  refine ⟨available_group h, ?_, ?_, ?_, ?_, ⟨state, hsame, ?_⟩, ?_⟩
  · unfold HardwareLockSensor.isOn
    rw [hread, ← hsame.field GroupStatePayload.hardwareWritesLocked (fun _ => rfl)]
    rfl
  · unfold StatusSensor.nativeValue
    rw [hread, ← hsame.field GroupStatePayload.status (fun _ => rfl)]
    rfl
  · unfold stateAttributes Entity.statePayload Site.groupEntity
    dsimp only
    rw [stateOf_eq, h, ← hsame.field GroupStatePayload.onlineMemberCount (fun _ => rfl),
      ← hsame.field GroupStatePayload.memberCount (fun _ => rfl)]
    show [("online_member_count", getOr (Object.of (.object (state.fields site.stamps))) _ _),
      ("member_count", getOr (Object.of (.object (state.fields site.stamps))) _ _)] = _
    rw [getOr_object, getOr_object]
    rfl
  · unfold PatternSelect.currentOption
    rw [hread, ← hsame.field GroupStatePayload.pattern (fun _ => rfl)]
    rfl
  · refine attributes_of_fields ?_ (statusAttributes_fields state)
    unfold Entity.statePayload Site.groupEntity
    exact (stateOf_eq ..).trans h
  · intro control
    unfold Entity.baseAttributes
    rw [instanceId_of_config hconfig, runtimeMode_of_config hconfig]
    rfl

/-! ## At rest -/

/--
**Every entity shows the field of the daemon's record it is for.**

Take any run of the deployment. Whenever the daemon is connected with nothing left to publish and
everything has arrived, the entities of every device show its record: whether the pump answers and
runs, its power, its mode, its schedule, its problem and its status with all attributes, and what is
to be set of it; they can be used exactly if the daemon takes commands. In observer mode the entities
of every group show its report.
-/
theorem entities_show_records {clk : Clock} {service : ServiceState}
    (hinit : GroupControlService.init site.cfg site.units clk = .ok service) (conv : Conversions)
    (events : List Deployment.Event) :
    let d := exec Deployment.step (Deployment.start service : Deployment site) events
    d.AtRest → ∃ stopping, d.adapter.link = .online stopping .waiting .waiting
      ∧ (∀ device ∈ site.cfg.devices, ∃ record,
        d.adapter.service.deviceStates.get? device.id = some record
          ∧ DeviceShown conv site d.home.state.1 device (!stopping) record)
      ∧ (site.cfg.runtime.mode = .observer → ∀ group ∈ site.cfg.groups, ∃ record,
        d.adapter.service.states.get? group.id = some record
          ∧ GroupShown conv site d.home.state.1 group (!stopping) record) := by
  intro d hrest
  have hinv : d.Inv := Deployment.inv_exec hinit events
  obtain ⟨stopping, hlink, _⟩ := hinv.mirrored hrest
  refine ⟨stopping, hlink, ?_⟩
  rw [← hinv.online_settled hrest.connected hrest.arrived hlink]
  refine ⟨fun device hdevice => ?_, fun hmode group hgroup => ?_⟩
  · obtain ⟨record, state, hrecord, hshown, hsame⟩ := hinv.device_settled hrest hdevice
    exact ⟨record, hrecord, deviceShown (hinv.config_settled hrest) hshown hsame⟩
  · obtain ⟨record, state, hrecord, hshown, hsame⟩ := hinv.group_settled hrest hmode hgroup
    exact ⟨record, hrecord, groupShown (hinv.config_settled hrest) hshown hsame⟩

theorem entities_show_records_watchedTank : ∃ record,
    (tankAfter watchedTank allArrivals).adapter.service.deviceStates.get? "left" = some record
      ∧ DeviceRunningSensor.isOn (tankAfter watchedTank allArrivals).home.state.1
          ((tankSite watchedTank).deviceEntity leftPump "actual_running")
        = if record.online = some true then record.actualEnabled else none := by
  have hinit := @startState_eq watchedTank steadyUnits (fun _ => 0) (by decide +kernel)
  obtain ⟨stopping, hlink, hdevices, _⟩ := @entities_show_records (tankSite watchedTank) _ _ hinit
    plainConversions (tankRun allArrivals)
    ⟨by decide +kernel, by decide +kernel, session_empty (by decide +kernel)⟩
  obtain ⟨record, hrecord, hshown⟩ := hdevices leftPump (List.mem_cons_self ..)
  have hphase : (tankAfter watchedTank allArrivals).adapter.link.phase = .online false := by
    decide +kernel
  rw [show (tankAfter watchedTank allArrivals).adapter.link = _ from hlink] at hphase
  cases hphase
  refine ⟨record, hrecord, hshown.running.trans ?_⟩
  simp

end JebaoFlow
