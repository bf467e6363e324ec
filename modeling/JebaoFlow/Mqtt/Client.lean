import JebaoFlow.Lib.Bytes
import JebaoFlow.Mqtt.Service
import JebaoFlow.Mqtt.Topics

/-!
# The MQTT adapter

`MqttAdapter._consume`: command messages become calls of the service, and what
the service answers is published.

Publishing succeeds here, but it suspends the consumer: while a publication is in
flight, the observer may write to the service and the publisher may collect its
updates. What those two do during the `n`-th publication is read off a schedule.
The JSON validation of a command belongs to the model classes' library and is a
parameter; the commands it returns carry their field checks in their types.
-/

namespace JebaoFlow

structure Message where
  topic : String
  payload : Bytes

/-- `model_validate_json` of the two command classes. -/
structure CommandValidator where
  group : Bytes → Except PyError GroupCommand
  device : Bytes → Except PyError DeviceCommand
  /-- What does not validate raises a validation error, and nothing else. -/
  group_raises : ∀ payload e, group payload = .error e → ∃ text, e = .validationError text
  device_raises : ∀ payload e, device payload = .error e → ∃ text, e = .validationError text

/-- `except (TypeError, ValidationError, ValueError)`. -/
def isInvalidCommand : PyError → Bool
  | .typeError _ | .validationError _ | .valueError _ => true
  | _ => false

/-- The payloads the consumer publishes. -/
inductive PublicationBody
  | invalidCommand (groupId : String)
  | invalidDeviceCommand (deviceId : String)
  | groupResult (result : GroupCommandResult)
  | deviceResult (result : DeviceCommandResult)
  | groupState (state : GroupStatePayload)
  | deviceState (state : DeviceStatePayload)

structure Publication where
  topic : String
  body : PublicationBody
  retain : Bool := false

/-- The service, and everything published so far. -/
structure AdapterState where
  service : ServiceState
  published : List Publication := []

/-- What the other tasks of the daemon do to the service while the consumer waits. -/
inductive Background
  | observe (event : ObserverEvent) (clk : Clock)
  | collectUpdates

/-- The background steps that run while the `n`-th publication is in flight. -/
abbrev Schedule := ℕ → List Background

variable (cfg : AppConfig) (units : UnitSource)

def backgroundStep (s : ServiceState) : Background → ServiceState
  | .observe event clk => (recordObserverEvent cfg units clk event s).2
  | .collectUpdates => (waitForUpdates s).2

/-- The adapter after a wait in which `steps` happened. -/
def AdapterState.wait (steps : List Background) (a : AdapterState) : AdapterState :=
  { a with service := Run.exec (backgroundStep cfg units) a.service steps }

variable (schedule : Schedule)

/-- `await client.publish(...)`. -/
def publish (publication : Publication) (a : AdapterState) : AdapterState :=
  AdapterState.wait cfg units (schedule a.published.length)
    { a with published := a.published ++ [publication] }

variable (topics : MqttTopics)

/-! ## Snapshots -/

/-- Publish the retained snapshot of one group, and return it. -/
def publishGroupState (groupId : String) (a : AdapterState) :
    Except PyError GroupStatePayload × AdapterState :=
  match snapshot groupId a.service with
  | .error e => (.error e, a)
  | .ok state =>
    match topics.groupState groupId with
    | .error e => (.error e, a)
    | .ok topic =>
      (.ok state, publish cfg units schedule
        { topic, body := .groupState state, retain := true } a)

/-- Publish the retained snapshot of one device, and return it. -/
def publishDeviceState (deviceId : String) (a : AdapterState) :
    Except PyError DeviceStatePayload × AdapterState :=
  match deviceSnapshot deviceId a.service with
  | .error e => (.error e, a)
  | .ok state =>
    match topics.deviceState deviceId with
    | .error e => (.error e, a)
    | .ok topic =>
      (.ok state, publish cfg units schedule
        { topic, body := .deviceState state, retain := true } a)

/-- A loop `for x in xs: publish(x)` that stops at the first exception. -/
def publishEach {α : Type} (publishOne : String → AdapterState → Except PyError α × AdapterState) :
    List String → AdapterState → Except PyError Unit × AdapterState
  | [], a => (.ok (), a)
  | id :: ids, a =>
    match publishOne id a with
    | (.error e, a') => (.error e, a')
    | (.ok _, a') => publishEach publishOne ids a'

/-- The end of both command paths: the result, and behind an accepted one the snapshots. -/
def respond (requestId : String) (result : PublicationBody) (accepted : Bool)
    (publishStates : AdapterState → Except PyError Unit × AdapterState) (a : AdapterState) :
    Except PyError Unit × AdapterState :=
  match topics.requestResult requestId with
  | .error e => (.error e, a)
  | .ok topic =>
    let a' := publish cfg units schedule { topic, body := result } a
    -- the states are looked up after the result went out, not when it was computed
    if accepted then publishStates a' else (.ok (), a')

/-- The group an accepted group command names, then its members. -/
def publishGroupAndMembers (groupId : String) (a : AdapterState) :
    Except PyError Unit × AdapterState :=
  match publishGroupState cfg units schedule topics groupId a with
  | (.error e, a') => (.error e, a')
  | (.ok state, a') =>
    publishEach (publishDeviceState cfg units schedule topics) state.members.keys a'

/-- The device an accepted device command names, then its groups. -/
def publishDeviceAndGroups (deviceId : String) (a : AdapterState) :
    Except PyError Unit × AdapterState :=
  match publishDeviceState cfg units schedule topics deviceId a with
  | (.error e, a') => (.error e, a')
  | (.ok state, a') =>
    publishEach (publishGroupState cfg units schedule topics) state.groupIds a'

/-! ## The consumer -/

variable (validator : CommandValidator)

/-- The body of `_consume` for a group command. -/
def consumeGroup (clk : Clock) (groupId : String) (payload : Bytes) (a : AdapterState) :
    Except PyError Unit × AdapterState :=
  match validator.group payload with
  | .error e =>
    if isInvalidCommand e then
      (.ok (), publish cfg units schedule
        { topic := topics.systemStatus, body := .invalidCommand groupId } a)
    else (.error e, a)
  | .ok command =>
    match apply cfg units clk groupId command a.service with
    | (.error e, s) => (.error e, { a with service := s })
    | (.ok result, s) =>
      respond cfg units schedule topics command.requestId (.groupResult result) result.accepted
        (publishGroupAndMembers cfg units schedule topics groupId) { a with service := s }

/-- `_consume_device`. -/
def consumeDevice (clk : Clock) (deviceId : String) (payload : Bytes) (a : AdapterState) :
    Except PyError Unit × AdapterState :=
  match validator.device payload with
  | .error e =>
    if isInvalidCommand e then
      (.ok (), publish cfg units schedule
        { topic := topics.systemStatus, body := .invalidDeviceCommand deviceId } a)
    else (.error e, a)
  | .ok command =>
    match applyDevice cfg units clk deviceId command a.service with
    | (.error e, s) => (.error e, { a with service := s })
    | (.ok result, s) =>
      respond cfg units schedule topics command.requestId (.deviceResult result) result.accepted
        (publishDeviceAndGroups cfg units schedule topics deviceId) { a with service := s }

/-- One iteration of `_consume`. -/
def consumeMessage (clk : Clock) (message : Message) (a : AdapterState) :
    Except PyError Unit × AdapterState :=
  match topics.parseDeviceCommand message.topic with
  | some deviceId => consumeDevice cfg units schedule topics validator clk deviceId message.payload a
  | none =>
    match topics.parseGroupCommand message.topic with
    | some groupId => consumeGroup cfg units schedule topics validator clk groupId message.payload a
    | none => (.ok (), a)

/-- A message, what happened while the consumer waited for it, and the clock it is handled with. -/
structure Delivery where
  waited : List Background
  message : Message
  clk : Clock

def deliver (a : AdapterState) (d : Delivery) : Except PyError Unit × AdapterState :=
  consumeMessage cfg units schedule topics validator d.clk d.message
    (AdapterState.wait cfg units d.waited a)

/-- `_consume` over the messages of a run: an exception ends it. -/
def consume : List Delivery → AdapterState → Except PyError Unit × AdapterState
  | [], a => (.ok (), a)
  | d :: ds, a =>
    match deliver cfg units schedule topics validator a d with
    | (.error e, a') => (.error e, a')
    | (.ok (), a') => consume ds a'

end JebaoFlow
