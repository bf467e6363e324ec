import JebaoFlow.HomeAssistant.Receive
import JebaoFlow.Lib.Once

/-!
# The entities of an entry

Every platform makes its entities from the configuration of the daemon, group by group and
device by device, and hands them over to the host. It looks again at every notification and
makes nothing twice. The configuration is whatever was received: a descriptor without a name
raises, and so does a list of controls that is none.
-/

namespace JebaoFlow.HomeAssistant

open PyStr

/-- `str(value)` of what is no text, `float(value)` of what is, and `repr`: left open. -/
structure Conversions where
  str : Json → PyStr
  float : PyStr → Except PyError PyFloat
  repr : PyStr → String

/-! ## Values of the configuration -/

def Json.typeName : Json → String
  | .null => "NoneType"
  | .bool _ => "bool"
  | .int _ => "int"
  | .float _ => "float"
  | .str _ => "str"
  | .list _ => "list"
  | .dict _ => "dict"

/-- `item[key]`. -/
def item (items : Object) (key : String) : Except PyError Json :=
  match Dict.lookupEntries (ofString key) items with
  | some value => .ok value
  | none => .error (.keyError key)

/-- `item.get(key, default)`. -/
def getOr (items : Object) (key : String) (default : Json) : Json :=
  (Dict.lookupEntries (ofString key) items).getD default

def Json.isText (word : String) : Json → Bool
  | .str s => s = ofString word
  | _ => false

/-- `word in value`. -/
def Json.contains (word : String) : Json → Except PyError Bool
  | .list items => .ok (items.any (Json.isText word))
  | .str s => .ok (PyStr.contains (ofString word) s)
  | .dict items => .ok (items.any (fun entry => entry.1 = ofString word))
  | value => .error (.typeError s!"argument of type '{value.typeName}' is not iterable")

/-- `tuple(str(part) for part in value)`. -/
def Json.texts (conv : Conversions) : Json → Except PyError (List PyStr)
  | .list items => .ok (items.map (asText conv.str))
  | .str s => .ok (s.map (fun c => [c]))
  | .dict items => .ok (items.map Prod.fst)
  | value => .error (.typeError s!"'{value.typeName}' object is not iterable")

/-- The first integer no float is near to: halfway between the greatest float and `2 ^ 1024`. -/
@[irreducible] def floatBound : ℕ := 2 ^ 970 * (2 ^ 54 - 1)

/-- `float(value)`. -/
def Json.toFloat (conv : Conversions) : Json → Except PyError PyFloat
  | .int i =>
    if i.natAbs < floatBound then .ok (.fin i)
    else .error (.overflowError "int too large to convert to float")
  | .bool b => .ok (.fin (if b then 1 else 0))
  | .float x => .ok x
  | .str s => conv.float s
  | value => .error
      (.typeError s!"float() argument must be a string or a real number, not '{value.typeName}'")

/-! ## Entities -/

/-- `JebaoFlowGroupEntity`; the control tells the classes of a platform apart. -/
structure GroupEntity where
  entryId : PyStr
  groupId : PyStr
  groupName : PyStr
  control : String

/-- `JebaoFlowDeviceEntity`. -/
structure DeviceEntity where
  entryId : PyStr
  deviceId : PyStr
  deviceName : PyStr
  deviceType : PyStr
  controls : List PyStr
  control : String
  /-- The least and the greatest value of `JebaoFlowDevicePowerNumber`. -/
  range : Option (PyFloat × PyFloat) := none

inductive Entity
  | group (entity : GroupEntity)
  | device (entity : DeviceEntity)

/-- `f"{entry_id}_{id}_{control}"`. -/
def uniqueIdOf (entryId id : PyStr) (control : String) : PyStr :=
  entryId ++ ofString "_" ++ id ++ ofString "_" ++ ofString control

namespace Entity

/-- The group or the device. -/
def ownerId : Entity → PyStr
  | .group entity => entity.groupId
  | .device entity => entity.deviceId

def control : Entity → String
  | .group entity => entity.control
  | .device entity => entity.control

/-- `_attr_unique_id`. -/
def uniqueId : Entity → PyStr
  | .group entity => uniqueIdOf entity.entryId entity.groupId entity.control
  | .device entity => uniqueIdOf entity.entryId entity.deviceId entity.control

end Entity

section Factories

variable (conv : Conversions) (runtime : LiveRuntime)

/-- `JebaoFlowGroupEntity.__init__`. -/
def GroupEntity.create (group : Object) (control : String) : Except PyError Entity := do
  let id ← item group "id"
  let name ← item group "name"
  .ok (.group {
    entryId := runtime.entryId
    groupId := asText conv.str id
    groupName := asText conv.str name
    control })

/-- `JebaoFlowDeviceEntity.__init__`. -/
def DeviceEntity.create (device : Object) (control : String) : Except PyError DeviceEntity := do
  let id ← item device "id"
  let name ← item device "name"
  let type ← item device "type"
  let controls ← (getOr device "controls" (.list [])).texts conv
  .ok {
    entryId := runtime.entryId
    deviceId := asText conv.str id
    deviceName := asText conv.str name
    deviceType := asText conv.str type
    controls
    control }

/-- One entity of a group for each control. -/
def groupEntities (controls : List String) (group : Object) : Except PyError (List Entity) :=
  controls.mapM (GroupEntity.create conv runtime group)

/-- One entity of a device for each control. -/
def deviceEntities (controls : List String) (device : Object) : Except PyError (List Entity) :=
  controls.mapM (fun control => do
    let entity ← DeviceEntity.create conv runtime device control
    .ok (.device entity))

/-- Nothing while the daemon only observes. -/
def unlessObserving (make : Except PyError (List Entity)) : Except PyError (List Entity) :=
  if runtime.observerMode conv.str then .ok [] else make

/-- What is made of a device that lists a word. -/
def ifListed (key word : String) (device : Object) (make : Except PyError (List Entity)) :
    Except PyError (List Entity) := do
  let listed ← (getOr device key (.list [])).contains word
  if listed then make else .ok []

/-! ## The platforms -/

/-- The controls of the `DESCRIPTIONS` of the buttons, which are also the actions. -/
def buttonActions : List String :=
  ["start_feed", "stop_feed", "emergency_stop", "clear_emergency", "resume_all_members"]

/-- A number of a group: its control, the field it shows and sets, and its bounds. -/
structure FlowNumberDescription where
  key : String
  field : String
  nativeMinValue : ℕ
  nativeMaxValue : ℕ

def numberDescriptions : List FlowNumberDescription :=
  [⟨"power", "power", 0, 100⟩, ⟨"min_power", "min_power", 0, 100⟩,
    ⟨"max_power", "max_power", 0, 100⟩, ⟨"period", "period_seconds", 1, 3600⟩,
    ⟨"transition", "transition_seconds", 0, 600⟩]

/-- `PLATFORMS`. -/
inductive Platform
  | binarySensor | button | number | select | sensor | switch
  deriving DecidableEq

/-- `JebaoFlowDevicePowerNumber.__init__`. -/
def DevicePowerNumber.create (device : Object) : Except PyError (List Entity) := do
  let entity ← DeviceEntity.create conv runtime device "device_power"
  let least ← (getOr device "min_power" (.int 0)).toFloat conv
  let greatest ← (getOr device "max_power" (.int 100)).toFloat conv
  .ok [.device { entity with range := some (least, greatest) }]

/-- The factory each platform passes to `async_setup_group_entities`. -/
def Platform.groupFactory (platform : Platform) (group : Object) : Except PyError (List Entity) :=
  match platform with
  | .binarySensor => groupEntities conv runtime ["availability", "hardware_lock"] group
  | .button => unlessObserving conv runtime (groupEntities conv runtime buttonActions group)
  | .number => unlessObserving conv runtime
      (groupEntities conv runtime (numberDescriptions.map (·.key)) group)
  | .select => unlessObserving conv runtime (groupEntities conv runtime ["pattern"] group)
  | .sensor => groupEntities conv runtime ["status"] group
  | .switch => unlessObserving conv runtime (groupEntities conv runtime ["enabled"] group)

/-- The factory each platform but `select` passes to `async_setup_device_entities`. -/
def Platform.deviceFactory (platform : Platform) (device : Object) :
    Except PyError (List Entity) :=
  match platform with
  | .binarySensor => deviceEntities conv runtime
      ["device_availability", "actual_running", "device_problem"] device
  | .button => unlessObserving conv runtime
      (ifListed "controls" "resume_group" device
        (deviceEntities conv runtime ["resume_group"] device))
  | .number => unlessObserving conv runtime
      (ifListed "controls" "power" device (DevicePowerNumber.create conv runtime device))
  | .select => .ok []
  | .sensor => do
      let status ← deviceEntities conv runtime ["device_status"] device
      let power ← ifListed "observables" "power" device
        (deviceEntities conv runtime ["actual_power"] device)
      let mode ← ifListed "observables" "mode" device
        (deviceEntities conv runtime ["actual_mode"] device)
      let schedule ← ifListed "observables" "schedule" device
        (deviceEntities conv runtime ["schedule"] device)
      .ok (status ++ power ++ mode ++ schedule)
  | .switch => unlessObserving conv runtime
      (ifListed "controls" "enabled" device (deviceEntities conv runtime ["device_enabled"] device))

end Factories

/-! ## Discovery -/

/-- The two closures named `discover` of every platform. -/
inductive Loop
  | groups (platform : Platform)
  | devices (platform : Platform)
  deriving DecidableEq

/-- A closure with what it knows and has handed over; it listens once it was set up. -/
structure LoopState where
  listening : Bool := false
  seen : Once.Seen PyStr Entity := {}

/-- `str(item.get("id", ""))`; an empty one is passed over. -/
def identifierOf (conv : Conversions) (descriptor : Object) : Option PyStr :=
  let id := asText conv.str (getOr descriptor "id" (.text ""))
  if id = [] then none else some id

/-- What a loop goes through. -/
def Loop.descriptors (runtime : LiveRuntime) : Loop → List Object
  | .groups _ => runtime.groups
  | .devices _ => runtime.devices

def Loop.factory (conv : Conversions) (runtime : LiveRuntime) :
    Loop → Object → Except PyError (List Entity)
  | .groups platform => platform.groupFactory conv runtime
  | .devices platform => platform.deviceFactory conv runtime

/-- `discover()`. -/
def Loop.discover (conv : Conversions) (runtime : LiveRuntime) (loop : Loop) (state : LoopState) :
    LoopState × Option PyError :=
  let called := state.seen.call (identifierOf conv) (loop.factory conv runtime)
    (loop.descriptors runtime)
  ({ state with seen := called.1 }, called.2)

/-- The entry with its platforms. -/
structure Integration where
  runtime : LiveRuntime
  loops : Loop → LoopState

namespace Integration

variable (conv : Conversions)

/-- One loop is run; the exception it ends with, if any. -/
def run (runtime : LiveRuntime) (loop : Loop) (loops : Loop → LoopState) :
    (Loop → LoopState) × Option PyError :=
  let called := loop.discover conv runtime (loops loop)
  (Function.update loops loop called.1, called.2)

/-- `_notify`: the listeners in the order of the set, until one of them raises. -/
def notify (runtime : LiveRuntime) : List Loop → (Loop → LoopState) → Loop → LoopState
  | [], loops => loops
  | loop :: rest, loops =>
    if (loops loop).listening then
      match run conv runtime loop loops with
      | (after, none) => notify runtime rest after
      | (after, some _) => after
    else notify runtime rest loops

/-- A loop starts to listen and runs for the first time. -/
def setUpLoop (runtime : LiveRuntime) (loop : Loop) (loops : Loop → LoopState) :
    (Loop → LoopState) × Option PyError :=
  run conv runtime loop (Function.update loops loop { loops loop with listening := true })

/-- `async_setup_entry` of a platform: an exception keeps its second loop from starting. -/
def setUp (platform : Platform) (entry : Integration) : Integration :=
  if (entry.loops (.groups platform)).listening then entry
  else
    let afterGroups := setUpLoop conv entry.runtime (.groups platform) entry.loops
    { entry with loops :=
        if afterGroups.2 ≠ none ∨ platform = .select then afterGroups.1
        else (setUpLoop conv entry.runtime (.devices platform) afterGroups.1).1 }

/-- A message is received, and the listeners are called for every store. -/
def receive (order : List Loop) (message : ReceiveMessage) (entry : Integration) : Integration where
  runtime := entry.runtime.receive message
  loops := (entry.runtime.notified message).foldl
    (fun loops runtime => notify conv runtime order loops) entry.loops

/-- An entry that was just loaded. -/
def create (entryId : PyStr) (topicPrefix : String) : Integration where
  runtime := LiveRuntime.create entryId topicPrefix
  loops _ := {}

inductive Event
  /-- Any message at all; the listeners are called in the given order, as far as they get. -/
  | received (message : ReceiveMessage) (order : List Loop)
  | setUp (platform : Platform)

def step (entry : Integration) : Event → Integration
  | .received message order => entry.receive conv order message
  | .setUp platform => entry.setUp conv platform

end Integration

end JebaoFlow.HomeAssistant
