import JebaoFlow.Mqtt.Connection
import JebaoFlow.Proof.SchedulePassage
import Mathlib.Data.List.Sort

/-!
# Payloads on the wire

The fields that `model_dump_json` writes of each message of the daemon, in the order of the
model classes, as a reader gets them back from `json.loads`. An enumeration is written as
its value, an absent value and a float that is not finite as `null`. How a moment is written
is the library's affair and is a parameter.
-/

namespace JebaoFlow

open HomeAssistant

/-! ## The values of the enumerations -/

def PatternKind.text : PatternKind → String
  | .constant => "constant"
  | .sync => "sync"
  | .antiPhase => "anti_phase"
  | .lagoon => "lagoon"
  | .reefCrest => "reef_crest"
  | .gyre => "gyre"
  | .tidalSwell => "tidal_swell"
  | .nutrientTransport => "nutrient_transport"
  | .sine => "sine"
  | .randomReef => "random_reef"
  | .tide => "tide"
  | .native => "native"

def GroupState.text : GroupState → String
  | .stopped => "stopped"
  | .starting => "starting"
  | .running => "running"
  | .feeding => "feeding"
  | .maintenance => "maintenance"
  | .degraded => "degraded"
  | .error => "error"
  | .emergencyStop => "emergency_stop"

def GroupMemberRole.text : GroupMemberRole → String
  | .left => "left"
  | .right => "right"
  | .crossflow => "crossflow"
  | .support => "support"

def DeviceType.text : DeviceType → String
  | .wavemaker => "wavemaker"
  | .returnPump => "return_pump"
  | .dosingPump => "dosing_pump"

def RuntimeMode.text : RuntimeMode → String
  | .observer => "observer"
  | .control => "control"

def GroupAction.text : GroupAction → String
  | .startFeed => "start_feed"
  | .stopFeed => "stop_feed"
  | .emergencyStop => "emergency_stop"
  | .clearEmergency => "clear_emergency"
  | .resumeAllMembers => "resume_all_members"

def DeviceAction.text : DeviceAction → String
  | .resumeGroup => "resume_group"

def DeviceControlMode.text : DeviceControlMode → String
  | .group => "group"
  | .manualOverride => "manual_override"
  | .standalone => "standalone"

def ObservationSource.text : ObservationSource → String
  | .lanPoll => "lan_poll"
  | .simulator => "simulator"

def ChangeSource.text : ChangeSource → String
  | .externalOrNative => "external_or_native"
  | .homeAssistant => "home_assistant"
  | .flowdScheduler => "flowd_scheduler"
  | .unknown => "unknown"

def DeviceStatus.text : DeviceStatus → String
  | .unobserved => "unobserved"
  | .groupControl => "group_control"
  | .manualOverride => "manual_override"
  | .running => "running"
  | .stopped => "stopped"
  | .error => "error"
  | .unmapped => "unmapped"
  | .connecting => "connecting"
  | .offline => "offline"

/-! ## Values -/

namespace HomeAssistant.Json

def text (s : String) : Json := .str (PyStr.ofString s)

def percent (p : Percent) : Json := .int p.val

def nat (n : ℕ) : Json := .int n

/-- A float; infinities and NaN are written as `null`. -/
def number : PyFloat → Json
  | .fin q => .float (.fin q)
  | _ => .null

def optional {α : Type} (write : α → Json) : Option α → Json
  | some a => write a
  | none => .null

/-- An object with the fields of a model class. -/
def object (fields : List (String × Json)) : Json :=
  .dict (fields.map (fun f => (PyStr.ofString f.1, f.2)))

end HomeAssistant.Json

open HomeAssistant.Json

/-- How a moment is written, with a zone and without. -/
structure Timestamps where
  aware : Datetime → PyStr
  naive : Datetime → PyStr

/-- A dictionary of scalars. -/
def attributesJson (attributes : Dict String Scalar) : Json :=
  object (attributes.entries.map (fun e => (e.1, e.2.json)))

variable (stamps : Timestamps)

def moment : Option Datetime → Json := optional (fun t => .str (stamps.aware t))

/-! ## Messages -/

def GroupMemberState.json (view : GroupMemberState) : Json :=
  object [("name", text view.name), ("role", text view.role.text), ("gain", number view.gain),
    ("phase", number view.phase), ("control_mode", text view.controlMode.text),
    ("enabled", .bool view.enabled), ("target_power", percent view.targetPower),
    ("actual_enabled", optional Json.bool view.actualEnabled),
    ("actual_power", optional percent view.actualPower),
    ("actual_mode", optional text view.actualMode),
    ("actual_frequency", optional percent view.actualFrequency),
    ("online", optional Json.bool view.online), ("error", optional text view.error),
    ("last_seen_at", moment stamps view.lastSeenAt),
    ("last_changed_at", moment stamps view.lastChangedAt),
    ("last_configuration_changed_at", moment stamps view.lastConfigurationChangedAt),
    ("observed_attributes", attributesJson view.observedAttributes)]

def GroupStatePayload.fields (state : GroupStatePayload) : List (String × Json) :=
  [("schema_version", .int 1), ("revision", nat state.revision), ("group_id", text state.groupId),
    ("name", text state.name), ("status", text state.status.text), ("enabled", .bool state.enabled),
    ("pattern", text state.pattern.text), ("power", percent state.power),
    ("min_power", percent state.minPower), ("max_power", percent state.maxPower),
    ("period_seconds", number state.periodSeconds.val),
    ("transition_seconds", number state.transitionSeconds.val),
    ("hardware_writes_locked", .bool state.hardwareWritesLocked),
    ("members", object (state.members.entries.map (fun e => (e.1, e.2.json stamps)))),
    ("actual_enabled", optional Json.bool state.actualEnabled),
    ("online_member_count", nat state.onlineMemberCount), ("member_count", nat state.memberCount),
    ("last_seen_at", moment stamps state.lastSeenAt),
    ("last_changed_at", moment stamps state.lastChangedAt),
    ("last_configuration_changed_at", moment stamps state.lastConfigurationChangedAt),
    ("last_request_id", optional text state.lastRequestId)]

def GroupStatePayload.json (state : GroupStatePayload) : Json := object (state.fields stamps)

def GroupCommandResult.json (result : GroupCommandResult) : Json :=
  object [("schema_version", .int 1), ("request_id", text result.requestId),
    ("group_id", text result.groupId), ("accepted", .bool result.accepted),
    ("revision", nat result.revision), ("reason", optional text result.reason)]

def DeviceStatePayload.fields (state : DeviceStatePayload) : List (String × Json) :=
  [("schema_version", .int 1), ("revision", nat state.revision),
    ("device_id", text state.deviceId), ("name", text state.name), ("type", text state.type.text),
    ("enabled", .bool state.enabled), ("power", percent state.power),
    ("actual_enabled", optional Json.bool state.actualEnabled),
    ("actual_power", optional percent state.actualPower),
    ("actual_mode", optional text state.actualMode),
    ("actual_frequency", optional percent state.actualFrequency),
    ("online", optional Json.bool state.online), ("error", optional text state.error),
    ("last_seen_at", moment stamps state.lastSeenAt),
    ("last_changed_at", moment stamps state.lastChangedAt),
    ("last_configuration_changed_at", moment stamps state.lastConfigurationChangedAt),
    ("observed_attributes", attributesJson state.observedAttributes),
    ("schedule", optional (fun s => .dict (s.json stamps.naive)) state.schedule),
    ("observation_source", optional (fun source => text source.text) state.observationSource),
    ("change_source", text state.changeSource.text), ("status", text state.status.text),
    ("control_mode", text state.controlMode.text), ("group_ids", .list (state.groupIds.map text)),
    ("hardware_writes_locked", .bool state.hardwareWritesLocked),
    ("last_request_id", optional text state.lastRequestId)]

def DeviceStatePayload.json (state : DeviceStatePayload) : Json := object (state.fields stamps)

def DeviceCommandResult.json (result : DeviceCommandResult) : Json :=
  object [("schema_version", .int 1), ("request_id", text result.requestId),
    ("device_id", text result.deviceId), ("accepted", .bool result.accepted),
    ("revision", nat result.revision), ("reason", optional text result.reason)]

/-! ## The system configuration -/

structure InstanceConfig where
  id : String
  name : String
  id_ok : isIdentifier id = true := by decide
  name_ne : name ≠ "" := by decide

structure GroupDescriptor where
  id : String
  name : String

structure DeviceDescriptor where
  id : String
  name : String
  type : DeviceType
  grouped : Bool
  ui : String
  controls : List String
  observables : List String := []
  minPower : Percent
  maxPower : Percent

structure SystemConfigPayload where
  instanceId : String
  name : String
  runtimeMode : RuntimeMode
  groups : List GroupDescriptor
  devices : List DeviceDescriptor
  patterns : List PatternKind
  features : List String

variable (daemon : InstanceConfig) (cfg : AppConfig)

/-- `_device_observables`. -/
def deviceObservables (device : DeviceConfig) : List String :=
  if device.type = .dosingPump then ["enabled", "error", "schedule"]
  else ["enabled", "power", "mode", "frequency", "error", "schedule"]

/-- `sorted(self._calculator.supported_patterns(), key=str)`. -/
def sortedPatterns : List PatternKind :=
  supportedPatterns.insertionSort (fun a b => a.text ≤ b.text)

def systemConfig : SystemConfigPayload where
  instanceId := daemon.id
  name := daemon.name
  runtimeMode := cfg.runtime.mode
  groups := cfg.groups.map (fun group => { id := group.id, name := group.name })
  devices := cfg.devices.map (fun device => {
    id := device.id
    name := device.name
    type := device.type
    grouped := cfg.groups.any (fun group => group.members.any (fun m => device.id = m.device))
    ui := if device.type = .wavemaker then "flow_member" else "simple_equipment"
    controls := deviceControls cfg device
    observables := deviceObservables device
    minPower := device.limits.minPower
    maxPower := device.limits.maxPower })
  patterns := sortedPatterns
  features :=
    if cfg.runtime.mode = .observer then ["observer", "hardware_write_lock"]
    else ["feed", "emergency_stop", "hardware_write_lock", "individual_override"]

def GroupDescriptor.json (group : GroupDescriptor) : Json :=
  object [("id", text group.id), ("name", text group.name)]

def DeviceDescriptor.json (device : DeviceDescriptor) : Json :=
  object [("id", text device.id), ("name", text device.name), ("type", text device.type.text),
    ("grouped", .bool device.grouped), ("ui", text device.ui),
    ("controls", .list (device.controls.map text)),
    ("observables", .list (device.observables.map text)), ("min_power", percent device.minPower),
    ("max_power", percent device.maxPower)]

def SystemConfigPayload.json (payload : SystemConfigPayload) : Json :=
  object [("schema_version", .int 1), ("instance_id", text payload.instanceId),
    ("name", text payload.name), ("runtime_mode", text payload.runtimeMode.text),
    ("groups", .list (payload.groups.map GroupDescriptor.json)),
    ("devices", .list (payload.devices.map DeviceDescriptor.json)),
    ("patterns", .list (payload.patterns.map (fun kind => text kind.text))),
    ("features", .list (payload.features.map text))]

/-- What the daemon says when it is stopped, and the broker for it when it is gone. -/
def offlineNote (topics : MqttTopics) : Transmission :=
  { topic := topics.availability, payload := .availability "offline", retain := true }

/-! ## What arrives -/

/-- A payload as `json.loads` sees it: a value, or a text that is none. -/
inductive WirePayload
  | json (value : Json)
  | text (s : PyStr)

/-- A body that names a command that was not valid. -/
def PublicationBody.IsComplaint : PublicationBody → Prop
  | .invalidCommand _ | .invalidDeviceCommand _ => True
  | _ => False

def PublicationBody.json : PublicationBody → Json
  | .invalidCommand groupId =>
      object [("status", text "invalid_command"), ("group_id", text groupId)]
  | .invalidDeviceCommand deviceId =>
      object [("status", text "invalid_device_command"), ("device_id", text deviceId)]
  | .groupResult result => result.json
  | .deviceResult result => result.json
  | .groupState state => state.json stamps
  | .deviceState state => state.json stamps

def Payload.wire : Payload → WirePayload
  | .availability text => .text (PyStr.ofString text)
  | .systemConfig => .json (JebaoFlow.systemConfig daemon cfg).json
  | .message body => .json (body.json stamps)

end JebaoFlow
