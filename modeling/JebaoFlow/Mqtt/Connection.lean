import JebaoFlow.Mqtt.Client

/-!
# The connection

`MqttAdapter.run`, `_run_connected` and `_publish_observer_updates`. A connected
adapter first greets the broker with a snapshot of everything. Then a consumer and
a publisher share the client, until one of them fails or the daemon is stopped.

`Mqtt.Client` follows the consumer through its messages and treats the other tasks
as a schedule. Here the observer and all tasks take their steps in any order: a
task is suspended while a publication is in flight, and also before it starts one.
The client transmits what is published in call order. A publication may raise
`MqttError`, whether or not it was transmitted, and a new connection follows.
-/

namespace JebaoFlow

/-! ## What is published -/

/-- The system configuration is a function of the configuration file, and is not spelled out. -/
inductive Payload
  | availability (text : String)
  | systemConfig
  | message (body : PublicationBody)

structure Transmission where
  topic : String
  payload : Payload
  retain : Bool := false

/-- The last payload published on a topic. -/
def lastPayload (published : List Transmission) (topic : String) : Option Payload :=
  (published.filter (fun t => t.topic = topic)).getLast?.map Transmission.payload

/-- `snapshots` and `device_snapshots`. -/
def snapshots (s : ServiceState) : List GroupStatePayload := s.states.entries.map Prod.snd

def deviceSnapshots (s : ServiceState) : List DeviceStatePayload :=
  s.deviceStates.entries.map Prod.snd

/-- What a task has still to do, up to and including the next publication. -/
inductive Job
  | availability (text : String)
  | systemConfig
  /-- `for snapshot in self._service.snapshots()`: the loop runs over what is current now. -/
  | groupSnapshots
  | deviceSnapshots
  | capturedGroup (state : GroupStatePayload)
  | capturedDevice (state : DeviceStatePayload)
  | complaint (body : PublicationBody)
  | result (requestId : String) (body : PublicationBody)
  | groupState (groupId : String)
  | deviceState (deviceId : String)
  /-- The end of an accepted group command. -/
  | groupAndMembers (groupId : String)
  /-- The end of an accepted device command. -/
  | deviceAndGroups (deviceId : String)

variable (topics : MqttTopics)

def retained (topic : String) (body : PublicationBody) : Transmission :=
  { topic, payload := .message body, retain := true }

/-- What a job publishes in the state it finds, and the jobs that take its place. -/
def Job.run (s : ServiceState) : Job → Except PyError (Option Transmission × List Job)
  | .availability text =>
      pure (some { topic := topics.availability, payload := .availability text, retain := true }, [])
  | .systemConfig =>
      pure (some { topic := topics.systemConfig, payload := .systemConfig, retain := true }, [])
  | .groupSnapshots => pure (none, (JebaoFlow.snapshots s).map .capturedGroup)
  | .deviceSnapshots => pure (none, (JebaoFlow.deviceSnapshots s).map .capturedDevice)
  | .capturedGroup state => do
      let topic ← topics.groupState state.groupId
      pure (some (retained topic (.groupState state)), [])
  | .capturedDevice state => do
      let topic ← topics.deviceState state.deviceId
      pure (some (retained topic (.deviceState state)), [])
  | .complaint body => pure (some { topic := topics.systemStatus, payload := .message body }, [])
  | .result requestId body => do
      let topic ← topics.requestResult requestId
      pure (some { topic, payload := .message body }, [])
  | .groupState groupId => do
      let state ← snapshot groupId s
      let topic ← topics.groupState groupId
      pure (some (retained topic (.groupState state)), [])
  | .deviceState deviceId => do
      let state ← deviceSnapshot deviceId s
      let topic ← topics.deviceState deviceId
      pure (some (retained topic (.deviceState state)), [])
  | .groupAndMembers groupId => do
      let state ← snapshot groupId s
      let topic ← topics.groupState groupId
      pure (some (retained topic (.groupState state)), state.members.keys.map .deviceState)
  | .deviceAndGroups deviceId => do
      let state ← deviceSnapshot deviceId s
      let topic ← topics.deviceState deviceId
      pure (some (retained topic (.deviceState state)), state.groupIds.map .groupState)

/-! ## The adapter -/

/-- What ends a task. -/
inductive TaskError
  | mqttError
  | raised (e : PyError)

inductive Activity
  /-- The consumer for a message, the publisher for an update. -/
  | waiting
  | busy (jobs : List Job)
  | failed (error : TaskError)

/-- Where `run` is. -/
inductive Link
  | disconnected
  | greeting (jobs : List Job)
  | online (stopping : Bool) (consumer publisher : Activity)
  | ended (error : Option PyError)

/-- Connected, with both tasks waiting. -/
def Link.idle : Link → Bool
  | .online _ .waiting .waiting => true
  | _ => false

structure MqttAdapter where
  service : ServiceState
  link : Link := .disconnected
  published : List Transmission := []

namespace MqttAdapter

variable (cfg : AppConfig) (units : UnitSource) (validator : CommandValidator)

/-- What `_run_connected` publishes before it starts the tasks. -/
def greetingJobs : List Job :=
  [.availability "online", .systemConfig, .groupSnapshots, .deviceSnapshots]

/-- `run` after an exception of `_run_connected`: an `MqttError` is caught. -/
def afterError : TaskError → Link
  | .mqttError => .disconnected
  | .raised e => .ended (some e)

/-- A task goes on to its next publication, or has none left. -/
def proceed (s : ServiceState) : List Job → Activity × List Transmission
  | [] => (.waiting, [])
  | job :: jobs =>
    match job.run topics s with
    | .error e => (.failed (.raised e), [])
    | .ok (transmission, next) => (.busy (next ++ jobs), transmission.toList)

/-- The body of `_consume` for one message, up to the first publication. -/
def receive (clk : Clock) (message : Message) (s : ServiceState) : Activity × ServiceState :=
  match topics.parseDeviceCommand message.topic with
  | some deviceId =>
    match validator.device message.payload with
    | .error e =>
      if isInvalidCommand e then (.busy [.complaint (.invalidDeviceCommand deviceId)], s)
      else (.failed (.raised e), s)
    | .ok command =>
      match applyDevice cfg units clk deviceId command s with
      | (.error e, s') => (.failed (.raised e), s')
      | (.ok result, s') =>
        (.busy (.result command.requestId (.deviceResult result)
          :: if result.accepted then [.deviceAndGroups deviceId] else []), s')
  | none =>
    match topics.parseGroupCommand message.topic with
    | none => (.waiting, s)
    | some groupId =>
      match validator.group message.payload with
      | .error e =>
        if isInvalidCommand e then (.busy [.complaint (.invalidCommand groupId)], s)
        else (.failed (.raised e), s)
      | .ok command =>
        match apply cfg units clk groupId command s with
        | (.error e, s') => (.failed (.raised e), s')
        | (.ok result, s') =>
          (.busy (.result command.requestId (.groupResult result)
            :: if result.accepted then [.groupAndMembers groupId] else []), s')

/-- The jobs behind one `wait_for_updates`. -/
def updateJobs (update : StateUpdate) : List Job :=
  update.deviceIds.map .deviceState ++ update.groupIds.map .groupState

/-- What happens next: a step of the observer or of one task, or an `MqttError` in a task. -/
inductive Event
  | observe (event : ObserverEvent) (clk : Clock)
  | connect
  | greet
  | greetingLost
  | receive (message : Message) (clk : Clock)
  | consume
  | consumerLost
  | wake
  | publish
  | publisherLost
  | stop
  | leave

/-- One step; an event that is not possible where the adapter is changes nothing. -/
def step (a : MqttAdapter) : Event → MqttAdapter
  | .observe event clk =>
    { a with service := (recordObserverEvent cfg units clk event a.service).2 }
  | .connect =>
    match a.link with
    | .disconnected => { a with link := .greeting greetingJobs }
    | _ => a
  | .greet =>
    match a.link with
    | .greeting jobs =>
      match proceed topics a.service jobs with
      -- the last publication has returned, and the tasks are started
      | (.waiting, _) => { a with link := .online false .waiting .waiting }
      | (.busy jobs', sent) => { a with link := .greeting jobs', published := a.published ++ sent }
      | (.failed error, _) => { a with link := afterError error }
    | _ => a
  | .greetingLost =>
    match a.link with
    | .greeting _ => { a with link := .disconnected }
    | _ => a
  | .receive message clk =>
    match a.link with
    | .online stopping .waiting publisher =>
      -- the service is called before the consumer is suspended again
      let (consumer, s) := receive topics cfg units validator clk message a.service
      { a with service := s, link := .online stopping consumer publisher }
    | _ => a
  | .consume =>
    match a.link with
    | .online stopping (.busy jobs) publisher =>
      let (consumer, sent) := proceed topics a.service jobs
      { a with link := .online stopping consumer publisher, published := a.published ++ sent }
    | _ => a
  | .consumerLost =>
    match a.link with
    | .online _ (.failed _) _ => a
    | .online stopping _ publisher => { a with link := .online stopping (.failed .mqttError) publisher }
    | _ => a
  | .wake =>
    match a.link with
    | .online stopping consumer .waiting =>
      if a.service.updateEvent then
        -- the marks are gone before the first of them is published
        let (update, s) := waitForUpdates a.service
        { a with service := s, link := .online stopping consumer (.busy (updateJobs update)) }
      else a
    | _ => a
  | .publish =>
    match a.link with
    | .online stopping consumer (.busy jobs) =>
      let (publisher, sent) := proceed topics a.service jobs
      { a with link := .online stopping consumer publisher, published := a.published ++ sent }
    | _ => a
  | .publisherLost =>
    match a.link with
    | .online stopping consumer (.busy _) =>
      { a with link := .online stopping consumer (.failed .mqttError) }
    | _ => a
  | .stop =>
    match a.link with
    | .disconnected => { a with link := .ended none }
    -- a task that is over goes before the stop, which is then not announced
    | .online false (.failed _) _ | .online false _ (.failed _) => a
    | .online false consumer publisher =>
      { a with
        link := .online true consumer publisher
        published := a.published
          ++ [{ topic := topics.availability, payload := .availability "offline", retain := true }] }
    | _ => a
  | .leave =>
    match a.link with
    | .online true _ _ => { a with link := .ended none }
    | .online false (.failed error) _ | .online false _ (.failed error) =>
      { a with link := afterError error }
    | _ => a

/-- Connected, the consumer idle, the publisher waiting and nothing left to collect. -/
def Quiet (a : MqttAdapter) : Prop :=
  a.link.idle = true ∧ a.service.dirtyDevices = ∅ ∧ a.service.dirtyGroups = ∅

instance (a : MqttAdapter) : Decidable a.Quiet :=
  inferInstanceAs (Decidable (_ ∧ _ ∧ _))

end MqttAdapter

end JebaoFlow
