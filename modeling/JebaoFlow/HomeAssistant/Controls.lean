import JebaoFlow.HomeAssistant.Entities

/-!
# What the entities show and do

The properties the host reads of an entity and the calls a user makes, class by class. Both
go by the JSON that was received last, which says what it likes.
-/

namespace JebaoFlow.HomeAssistant

open PyStr

/-! ## Values -/

/-- `bool(value)`. -/
def Json.truthy : Json → Bool
  | .null => false
  | .bool b => b
  | .int i => i ≠ 0
  | .float x => !x.eq (.fin 0)
  | .str s => !s.isEmpty
  | .list items => !items.isEmpty
  | .dict items => !items.isEmpty

/-- `value is True`. -/
def Json.isTrue : Json → Bool
  | .bool b => b
  | _ => false

/-- `value is None`. -/
def Json.isNull : Json → Bool
  | .null => true
  | _ => false

/-- `str(value) if value is not None else None`. -/
def Json.textValue (conv : Conversions) (value : Json) : Option PyStr :=
  if value.isNull then none else some (asText conv.str value)

/-- `float(value) if value is not None else None`. -/
def Json.floatValue (conv : Conversions) (value : Json) : Except PyError (Option PyFloat) :=
  if value.isNull then .ok none
  else do
    let x ← value.toFloat conv
    .ok (some x)

/-- `int(value) if isinstance(value, int | float) else None`. -/
def Json.intValue : Json → Except PyError (Option ℤ)
  | .int i => .ok (some i)
  | .bool b => .ok (some (if b then 1 else 0))
  | .float x => do
      let i ← x.toInt
      .ok (some i)
  | _ => .ok none

/-- `_schedule_slot_capacity`. -/
def slotCapacity : Json → Option ℤ
  | .int i => if i = scheduleSlotCapacity then some i else none
  | _ => none

/-- The state kept under an identifier. -/
def stateOf (states : Dict String Object) (id : PyStr) : Option Object :=
  Dict.lookupEntries id (states.entries.map (fun e => (ofString e.1, e.2)))

section Properties

variable (conv : Conversions) (runtime : LiveRuntime)

/-! ## The base classes -/

namespace Entity

variable (entity : Entity)

/-- `state_payload`. -/
def statePayload : Option Object :=
  match entity with
  | .group e => stateOf runtime.groupStates e.groupId
  | .device e => stateOf runtime.deviceStates e.deviceId

/-- A field of the state, if there is a state. -/
def reading {α : Type} (read : Json → α) (key : String) (default : Json) : Option α :=
  (entity.statePayload runtime).map (fun state => read (getOr state key default))

def available : Bool := runtime.online && (entity.statePayload runtime).isSome

/-- Available, and the daemon takes commands: numbers, switches, the pattern and buttons. -/
def controllable : Bool := entity.available runtime && !runtime.observerMode conv.str

/-- Available, and the pump answers. -/
def live : Bool :=
  entity.available runtime && (entity.reading runtime Json.isTrue "online" .null).getD false

/-- `extra_state_attributes` of the base classes. -/
def baseAttributes : List (String × PyStr) :=
  [("jebao_flow_instance_id", runtime.instanceId conv.str), ("jebao_flow_entry_id", runtime.entryId),
    ("jebao_flow_topic_prefix", ofString runtime.topicPrefix)]
    ++ (match entity with
      | .group e => [("jebao_flow_group_id", e.groupId)]
      | .device e => [("jebao_flow_device_id", e.deviceId), ("jebao_flow_device_type", e.deviceType)])
    ++ [("jebao_flow_control", ofString entity.control),
      ("jebao_flow_runtime_mode", runtime.runtimeMode conv.str)]

end Entity

variable (entity : Entity)

/-! ## Binary sensors -/

def AvailabilitySensor.isOn : Bool := entity.available runtime

def HardwareLockSensor.isOn : Option Bool :=
  entity.reading runtime Json.truthy "hardware_writes_locked" (.bool true)

def DeviceAvailabilitySensor.isOn : Bool := entity.live runtime

def DeviceRunningSensor.available : Bool :=
  entity.live runtime
    && (entity.reading runtime (fun value => !value.isNull) "actual_enabled" .null).getD false

def DeviceRunningSensor.isOn : Option Bool :=
  if DeviceRunningSensor.available runtime entity then
    entity.reading runtime Json.isTrue "actual_enabled" .null
  else none

def DeviceProblemSensor.isOn : Option Bool := entity.reading runtime Json.truthy "error" .null

/-! ## Sensors -/

def StatusSensor.nativeValue : Option PyStr :=
  (entity.reading runtime (Json.textValue conv) "status" .null).join

/-- The fields the status of a group brings along, with their defaults. -/
def statusAttributes : List (String × Json) :=
  [("revision", .null), ("hardware_writes_locked", .bool true), ("members", .dict []),
    ("actual_enabled", .null), ("online_member_count", .int 0), ("member_count", .int 0),
    ("last_seen_at", .null), ("last_changed_at", .null), ("last_configuration_changed_at", .null),
    ("last_request_id", .null)]

/-- The fields the status of a device brings along. -/
def deviceStatusAttributes : List (String × Json) :=
  [("control_mode", .null), ("group_ids", .list []), ("hardware_writes_locked", .bool true),
    ("actual_enabled", .null), ("actual_power", .null), ("actual_mode", .null),
    ("actual_frequency", .null), ("online", .null), ("error", .null), ("last_seen_at", .null),
    ("last_changed_at", .null), ("last_configuration_changed_at", .null),
    ("observed_attributes", .dict []), ("observation_source", .null), ("change_source", .null)]

/-- What a sensor adds to the attributes of its base class. -/
def stateAttributes (keys : List (String × Json)) : List (String × Json) :=
  match entity.statePayload runtime with
  | some state => keys.map (fun key => (key.1, getOr state key.1 key.2))
  | none => []

def ActualPowerSensor.nativeValue : Except PyError (Option ℤ) :=
  match entity.reading runtime Json.intValue "actual_power" .null with
  | some value => value
  | none => .ok none

def ActualModeSensor.nativeValue : Option PyStr :=
  (entity.reading runtime (Json.textValue conv) "actual_mode" .null).join

/-- `_schedule_payload`. -/
def ScheduleSensor.schedulePayload : Option Object :=
  (entity.reading runtime asObject "schedule" .null).join

def ScheduleSensor.available : Bool :=
  entity.available runtime && (ScheduleSensor.schedulePayload runtime entity).isSome

/-- The number of entries that can be shown. -/
def ScheduleSensor.nativeValue : Except PyError (Option ℕ) :=
  match ScheduleSensor.schedulePayload runtime entity with
  | some schedule => do
      let entries ← scheduleEntries (field schedule "entries")
      .ok (some entries.length)
  | none => .ok none

/-- What is shown of a schedule; `enabled` only if it is a truth value. -/
structure ScheduleAttributes where
  enabled : Option Bool
  slotCapacity : Option ℤ
  entries : List ShownEntry
  invalidSlots : List ℤ

def Json.boolean : Json → Option Bool
  | .bool b => some b
  | _ => none

def ScheduleSensor.attributes : Except PyError (Option ScheduleAttributes) :=
  match ScheduleSensor.schedulePayload runtime entity with
  | some schedule => do
      let entries ← scheduleEntries (field schedule "entries")
      .ok (some {
        enabled := (field schedule "enabled").boolean
        slotCapacity := slotCapacity (field schedule "slot_capacity")
        entries
        invalidSlots := invalidScheduleSlots (field schedule "invalid_slots") })
  | none => .ok none

/-! ## Numbers, the pattern and switches -/

/-- `native_value` of the numbers, by the field they show. -/
def numberValue (field : String) : Except PyError (Option PyFloat) :=
  match entity.reading runtime (Json.floatValue conv) field .null with
  | some value => value
  | none => .ok none

def PatternSelect.currentOption : Option PyStr :=
  (entity.reading runtime (Json.textValue conv) "pattern" .null).join

/-- `is_on` of the switches. -/
def switchIsOn : Option Bool := entity.reading runtime Json.truthy "enabled" .null

def ResumeGroupButton.available : Bool :=
  entity.controllable conv runtime
    && (entity.reading runtime (Json.isText "manual_override") "control_mode" .null).getD false

end Properties

/-! ## Calls -/

/-- What a call raises: the host's own error, or one of the language. -/
inductive CallError
  | homeAssistant (message : String)
  | python (error : PyError)

section Calls

variable (conv : Conversions) (runtime : LiveRuntime) (requestId : PyStr) (id : String)

/-- `async_group_command`, with one change. -/
def groupCall (key : String) (value : Json) : Except CallError PublishedCommand :=
  (runtime.asyncGroupCommand conv.str requestId id [(ofString key, value)]).mapError
    CallError.homeAssistant

/-- `async_device_command`, with one change. -/
def deviceCall (key : String) (value : Json) : Except CallError PublishedCommand :=
  (runtime.asyncDeviceCommand conv.str requestId id [(ofString key, value)]).mapError
    CallError.homeAssistant

/-- `round(value)`. -/
def roundCall (value : PyFloat) : Except CallError Json :=
  (value.round.map Json.int).mapError CallError.python

def ActionButton.press (action : String) : Except CallError PublishedCommand :=
  groupCall conv runtime requestId id "action" (.text action)

def ResumeGroupButton.press : Except CallError PublishedCommand :=
  deviceCall conv runtime requestId id "action" (.text "resume_group")

/-- `async_set_native_value` of a group number: the powers are rounded. -/
def Number.setNativeValue (description : FlowNumberDescription) (value : PyFloat) :
    Except CallError PublishedCommand := do
  let commandValue ←
    if description.field ∈ ["power", "min_power", "max_power"] then roundCall value
    else .ok (.float value)
  groupCall conv runtime requestId id description.field commandValue

def DevicePowerNumber.setNativeValue (value : PyFloat) : Except CallError PublishedCommand := do
  let power ← roundCall value
  deviceCall conv runtime requestId id "power" power

def PatternSelect.selectOption (option : PyStr) : Except CallError PublishedCommand :=
  if option ∉ runtime.patterns conv.str then
    .error (.python (.valueError s!"unsupported flow pattern {conv.repr option}"))
  else groupCall conv runtime requestId id "pattern" (.str option)

/-- `async_turn_on` and `async_turn_off` of a group. -/
def GroupSwitch.turn (enabled : Bool) : Except CallError PublishedCommand :=
  groupCall conv runtime requestId id "enabled" (.bool enabled)

def DeviceSwitch.turn (enabled : Bool) : Except CallError PublishedCommand :=
  deviceCall conv runtime requestId id "enabled" (.bool enabled)

end Calls

end JebaoFlow.HomeAssistant
