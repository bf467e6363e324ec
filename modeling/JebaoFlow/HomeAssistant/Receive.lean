import JebaoFlow.HomeAssistant.Runtime
import JebaoFlow.Lib.Broker
import JebaoFlow.Lib.TopicFilter
import JebaoFlow.Mqtt.Json

/-!
# What the integration receives

`JebaoFlowRuntime` with everything it keeps, and the handlers of its five subscriptions.
A message is taken when it decodes to an object of the right version that names the
identifier of its topic, and is ignored otherwise. A handler can raise; the host logs it,
and nothing has changed.
-/

namespace JebaoFlow.HomeAssistant

open PyStr

/-- The items of a JSON object. -/
abbrev Object := List (PyStr × Json)

structure ReceiveMessage where
  topic : String
  payload : WirePayload

/-- The live state for one daemon instance. -/
structure LiveRuntime where
  entryId : PyStr
  topicPrefix : String
  online : Bool := false
  systemConfig : Object := []
  groupStates : Dict String Object := Dict.empty
  deviceStates : Dict String Object := Dict.empty
  lastResults : Dict String Object := Dict.empty

/-- `payload.get("schema_version") == 1`: `True` and `1.0` are equal to it. -/
def equalsOne : Json → Bool
  | .int i => i = 1
  | .bool b => b
  | .float x => x.eq (.fin 1)
  | _ => false

def isList : Json → Bool
  | .list _ => true
  | _ => false

/-- `isinstance(value, dict)`. -/
def asObject : Json → Option Object
  | .dict items => some items
  | _ => none

/-- `_decode_object`. -/
def decodeObject : WirePayload → Option Object
  | .json (.dict items) => some items
  | _ => none

/-- `str(value)`; how a value that is no text prints is left open. -/
def asText (str : Json → PyStr) : Json → PyStr
  | .str s => s
  | value => str value

namespace LiveRuntime

/-- `JebaoFlowRuntime(hass, entry_id, topic_prefix)`. -/
def create (entryId : PyStr) (topicPrefix : String) : LiveRuntime where
  entryId
  topicPrefix := stripSlashes topicPrefix

variable (str : Json → PyStr) (runtime : LiveRuntime)

/-- `self.system_config.get(key, default)`. -/
def configured (key : String) (default : Json) : Json :=
  (Dict.lookupEntries (ofString key) runtime.systemConfig).getD default

def instanceId : PyStr := asText str (runtime.configured "instance_id" (.str runtime.entryId))

def runtimeMode : PyStr := asText str (runtime.configured "runtime_mode" (.text "observer"))

def observerMode : Bool := runtime.runtimeMode str = ofString "observer"

/-- The objects of a list of the configuration. -/
def descriptors (key : String) : List Object :=
  match runtime.configured key (.list []) with
  | .list items => items.filterMap asObject
  | _ => []

def groups : List Object := runtime.descriptors "groups"

def devices : List Object := runtime.descriptors "devices"

def patterns : List PyStr :=
  match runtime.configured "patterns" (.list []) with
  | .list items => items.map (asText str)
  | _ => []

/-- What publishing and the parsers of topics need; the mode is only ever compared. -/
def view : JebaoFlowRuntime where
  topicPrefix := runtime.topicPrefix
  online := runtime.online
  runtimeMode := if runtime.observerMode str then "observer" else "control"

def asyncGroupCommand (requestId : PyStr) (groupId : String) (changes : List (PyStr × Json)) :
    Except String PublishedCommand :=
  (runtime.view str).asyncGroupCommand requestId groupId changes

def asyncDeviceCommand (requestId : PyStr) (deviceId : String) (changes : List (PyStr × Json)) :
    Except String PublishedCommand :=
  (runtime.view str).asyncDeviceCommand requestId deviceId changes

/-! ## The handlers -/

/-- A handler returns what it stored before it notified, or nothing when it ignored the message. -/
abbrev Handler := ReceiveMessage → LiveRuntime → Except PyError (Option LiveRuntime)

/-- `_receive_availability`; a JSON text is never the word it looks for. -/
def receiveAvailability : Handler := fun message runtime =>
  .ok (some { runtime with online := match message.payload with
    | .text s => lower (strip s) = ofString "online"
    | .json _ => false })

/-- The membership test of the mode hashes its argument. -/
def isRuntimeMode : Json → Except PyError Bool
  | .str s => .ok (s = ofString "observer" || s = ofString "control")
  | .list _ => .error (.typeError "unhashable type: 'list'")
  | .dict _ => .error (.typeError "unhashable type: 'dict'")
  | _ => .ok false

/-- `_receive_system_config`. -/
def receiveSystemConfig : Handler := fun message runtime =>
  match decodeObject message.payload with
  | none => .ok none
  | some payload =>
    if equalsOne (field payload "schema_version") = false then .ok none
    else if isList (field payload "groups") = false then .ok none
    else if isList (field payload "devices") = false then .ok none
    else if isList (field payload "patterns") = false then .ok none
    else do
      let known ← isRuntimeMode
        ((Dict.lookupEntries (ofString "runtime_mode") payload).getD (.text "observer"))
      .ok (if known then some { runtime with systemConfig := payload } else none)

/-- The checks three handlers share: an object, of version 1, that names the segment of its topic. -/
def identified (key : String) (segment : Option String) (payload : WirePayload) :
    Option (String × Object) :=
  match decodeObject payload, segment with
  | some items, some id =>
    match field items key with
    | .str s =>
      if equalsOne (field items "schema_version") = true ∧ s = ofString id then some (id, items)
      else none
    | _ => none
  | _, _ => none

/-- `_parse_segment`. -/
def segment (topic collection suffix : String) : Option String :=
  JebaoFlowRuntime.parseSegment { topicPrefix := runtime.topicPrefix } topic collection suffix

/-- `_receive_group_state`. -/
def receiveGroupState : Handler := fun message runtime =>
  .ok ((identified "group_id" (runtime.segment message.topic "groups" "state")
      message.payload).map
    (fun found => { runtime with groupStates := runtime.groupStates.set found.1 found.2 }))

/-- `_receive_device_state`. -/
def receiveDeviceState : Handler := fun message runtime =>
  .ok ((identified "device_id" (runtime.segment message.topic "devices" "state")
      message.payload).map
    (fun found => { runtime with deviceStates := runtime.deviceStates.set found.1 found.2 }))

/-- The bound on `last_results`. -/
def resultCapacity : ℕ := 128

/-- A result is stored, and the oldest key goes when there are too many. -/
def storeResult (requestId : String) (payload : Object) (results : Dict String Object) :
    Dict String Object :=
  let stored := results.set requestId payload
  if stored.entries.length > resultCapacity then stored.popFirst else stored

/-- `_receive_result`. -/
def receiveResult : Handler := fun message runtime =>
  .ok ((identified "request_id" (runtime.segment message.topic "requests" "result")
      message.payload).map
    (fun found => { runtime with lastResults := storeResult found.1 found.2 runtime.lastResults }))

/-! ## Dispatch -/

/-- The handlers of `async_start`, in the order of the topics. -/
def handlers : List Handler :=
  [receiveAvailability, receiveSystemConfig, receiveGroupState, receiveDeviceState, receiveResult]

/-- The runtime after a handler ran; an exception leaves it as it was. -/
def attempt (handler : Handler) (message : ReceiveMessage) (runtime : LiveRuntime) : LiveRuntime :=
  match handler message runtime with
  | .ok (some stored) => stored
  | _ => runtime

theorem attempt_of_stored {handler : Handler} {message : ReceiveMessage}
    {runtime stored : LiveRuntime} (h : handler message runtime = .ok (some stored)) :
    runtime.attempt handler message = stored := by
  unfold attempt
  rw [h]

/-- No handler touches the prefix. -/
theorem handler_topicPrefix {handler : Handler} (hhandler : handler ∈ handlers)
    {message : ReceiveMessage} {runtime stored : LiveRuntime}
    (h : handler message runtime = .ok (some stored)) : stored.topicPrefix = runtime.topicPrefix := by
  simp only [handlers, List.mem_cons, List.not_mem_nil, or_false] at hhandler
  rcases hhandler with rfl | rfl | rfl | rfl | rfl
  · cases h
    rfl
  · unfold receiveSystemConfig at h
    split at h
    · cases h
    · rename_i payload _
      repeat' split at h
      · cases h
      · cases h
      · cases h
      · cases h
      · obtain ⟨known, _, hknown⟩ := PyError.bind_eq_ok h
        split at hknown
        · cases hknown
          rfl
        · cases hknown
  · obtain ⟨_, _, rfl⟩ := Option.map_eq_some_iff.mp (Except.ok.inj h)
    rfl
  · obtain ⟨_, _, rfl⟩ := Option.map_eq_some_iff.mp (Except.ok.inj h)
    rfl
  · obtain ⟨_, _, rfl⟩ := Option.map_eq_some_iff.mp (Except.ok.inj h)
    rfl

/-- The handlers of the subscriptions whose filters cover a topic. -/
def heard (runtime : LiveRuntime) (topic : String) : List Handler :=
  let subscriptions := JebaoFlowRuntime.subscriptions { topicPrefix := runtime.topicPrefix }
  (subscriptions.zip handlers).filterMap (fun entry =>
    if TopicFilter.covers entry.1.toList topic.toList then some entry.2 else none)

/-- A message goes to every subscription it is for. -/
def receive (runtime : LiveRuntime) (message : ReceiveMessage) : LiveRuntime :=
  (runtime.heard message.topic).foldl (fun current handler => current.attempt handler message) runtime

theorem mem_heard {runtime : LiveRuntime} {topic : String} {handler : Handler}
    (h : handler ∈ runtime.heard topic) : handler ∈ handlers := by
  obtain ⟨entry, hentry, heq⟩ := List.mem_filterMap.mp h
  split at heq
  · cases heq
    exact (List.of_mem_zip hentry).2
  · cases heq

theorem attempt_topicPrefix {handler : Handler} (hhandler : handler ∈ handlers)
    (message : ReceiveMessage) (runtime : LiveRuntime) :
    (runtime.attempt handler message).topicPrefix = runtime.topicPrefix := by
  unfold attempt
  split
  · rename_i stored hstored
    exact handler_topicPrefix hhandler hstored
  · rfl

theorem receive_topicPrefix (runtime : LiveRuntime) (message : ReceiveMessage) :
    (runtime.receive message).topicPrefix = runtime.topicPrefix := by
  have hfold : ∀ (called : List Handler) (current : LiveRuntime), (∀ h ∈ called, h ∈ handlers) →
      (called.foldl (fun current handler => current.attempt handler message) current).topicPrefix
        = current.topicPrefix := by
    intro called
    induction called with
    | nil => exact fun _ _ => rfl
    | cons handler called ih =>
        intro current hcalled
        rw [List.foldl_cons, ih _ (fun h hh => hcalled h (List.mem_cons_of_mem _ hh))]
        exact attempt_topicPrefix (hcalled handler (List.mem_cons_self ..)) message current
  exact hfold _ _ fun _ => mem_heard

/-- The runtime after each handler that stored something. -/
def visits (message : ReceiveMessage) : List Handler → LiveRuntime → List LiveRuntime
  | [], _ => []
  | handler :: rest, runtime =>
    match handler message runtime with
    | .ok (some stored) => stored :: visits message rest stored
    | _ => visits message rest runtime

/-- The runtimes that are notified of: `_notify` follows every store. -/
def notified (runtime : LiveRuntime) (message : ReceiveMessage) : List LiveRuntime :=
  visits message (runtime.heard message.topic) runtime

/-- A note of the broker, received. -/
def receiveNote (runtime : LiveRuntime) (note : Broker.Note String WirePayload) : LiveRuntime :=
  runtime.receive { topic := note.topic, payload := note.payload }

end LiveRuntime

end JebaoFlow.HomeAssistant
