import JebaoFlow.HomeAssistant.Schedule
import JebaoFlow.Mqtt.Topics

/-!
# The runtime of the integration

The integration knows the daemon by its topics only. It subscribes to states and results,
takes the identifier out of the topic of each message, and publishes commands. Topics are
put together and taken apart here again, apart from the daemon's own code for it.
-/

namespace JebaoFlow.HomeAssistant

/-- What the runtime needs to publish and to receive. -/
structure JebaoFlowRuntime where
  topicPrefix : String
  online : Bool := false
  runtimeMode : String := "observer"

/-- A message the integration publishes; the quality of service is 1 and nothing is retained. -/
structure PublishedCommand where
  topic : String
  payload : Dict PyStr Json

namespace JebaoFlowRuntime

/-- `JebaoFlowRuntime(hass, entry_id, topic_prefix)`. -/
def create (topicPrefix : String) : JebaoFlowRuntime where
  topicPrefix := stripSlashes topicPrefix

variable (runtime : JebaoFlowRuntime)

def observerMode : Bool := runtime.runtimeMode = "observer"

/-- The topics of `async_start`, in their order. -/
def subscriptions : List String :=
  [s!"{runtime.topicPrefix}/system/availability", s!"{runtime.topicPrefix}/system/config",
    s!"{runtime.topicPrefix}/groups/+/state", s!"{runtime.topicPrefix}/devices/+/state",
    s!"{runtime.topicPrefix}/requests/+/result"]

/-- The body the two commands share; `requestId` is the fresh one that is returned. -/
def asyncCommand (collection : String) (requestId : PyStr) (id : String)
    (changes : List (PyStr × Json)) : Except String PublishedCommand :=
  if runtime.observerMode then .error "jebao-flowd is in read-only observer mode"
  else if runtime.online = false then .error "jebao-flowd is offline; command was not sent"
  else
    let identified := (Dict.empty.set (PyStr.ofString "request_id") (Json.str requestId)).set
      (PyStr.ofString "source") (.str (PyStr.ofString "home_assistant"))
    .ok {
      topic := s!"{runtime.topicPrefix}/{collection}/{id}/command"
      payload := Dict.setAll Prod.fst Prod.snd changes identified }

def asyncGroupCommand (requestId : PyStr) (groupId : String) (changes : List (PyStr × Json)) :
    Except String PublishedCommand :=
  runtime.asyncCommand "groups" requestId groupId changes

def asyncDeviceCommand (requestId : PyStr) (deviceId : String) (changes : List (PyStr × Json)) :
    Except String PublishedCommand :=
  runtime.asyncCommand "devices" requestId deviceId changes

/-- `_parse_segment`. -/
def parseSegment (topic collection suffix : String) : Option String :=
  let base := s!"{runtime.topicPrefix}/{collection}/".toList
  let ending := s!"/{suffix}".toList
  if base.isPrefixOf topic.toList ∧ ending.isSuffixOf topic.toList then
    let segment := (topic.toList.drop base.length).take
      (topic.toList.length - ending.length - base.length)
    if segment = [] ∨ '/' ∈ segment then none else some (String.ofList segment)
  else none

/-- The group of `_receive_group_state`. -/
def stateGroup (topic : String) : Option String := runtime.parseSegment topic "groups" "state"

/-- The device of `_receive_device_state`. -/
def stateDevice (topic : String) : Option String := runtime.parseSegment topic "devices" "state"

/-- The request of `_receive_result`. -/
def resultRequest (topic : String) : Option String := runtime.parseSegment topic "requests" "result"

end JebaoFlowRuntime

end JebaoFlow.HomeAssistant
