import JebaoFlow.App
import JebaoFlow.Devices.Factory

/-!
# The daemon on its network

Each time around its loop a worker of the observer builds an adapter on a session of its own. What
the observer takes for the state of a pump is what `get_state` returns on that session, and what it
takes for a failure is what `connect` or `get_state` raises there.

Two things are noted that no code looks at: what is written to the pumps, and what they answer.
-/

namespace JebaoFlow

/-- The `device` of a worker: an adapter on its session. -/
structure LanDevice where
  session : GizwitsSession
  adapter : LanJebaoDevice
  stack : LanStack := {}

/-- What a pump sends during a status read, whose end is this moment. -/
structure Answer where
  deviceId : String
  adapter : LanJebaoDevice
  reply : Bytes
  observedAt : Datetime

structure Network (site : Site) where
  installation : Installation site
  /-- By the place of the worker among all that were created; a new worker has none yet. -/
  devices : ℕ → Option LanDevice := fun _ => none
  written : List Bytes := []
  answers : List Answer := []

/-- Whether the worker gets to see how its call ends. -/
inductive CallEnd
  | seen
  /-- The cancellation that was asked for is raised first. -/
  | interrupted
  /-- An exception that nothing catches is raised first. -/
  | left
  deriving DecidableEq

/-- What the worker makes of a call. -/
def CallEnd.action (ending : CallEnd) (worker : Worker) (result : WorkerAction) : WorkerAction :=
  match ending with
  | .seen => result
  | .interrupted => if worker.cancelled then .interrupted else result
  | .left => .left

namespace Network

variable {site : Site}

def start (service : ServiceState) : Network site where
  installation := Installation.start service

/-- What happens next. The text of an exception is whatever its class makes of it. -/
inductive Event
  /-- The worker runs its loop from the top. -/
  | begin (i : ℕ) (text : String) (occurredAt : Datetime) (clks : ℕ → Clock)
  | connect (i : ℕ) (opened : Except ProtocolError Unit) (passcodeIo loginIo : ExchangeIo)
    (ending : CallEnd) (text : String) (occurredAt : Datetime) (clks : ℕ → Clock)
  | read (i : ℕ) (io : ExchangeIo) (observedAt : Datetime) (ending : CallEnd) (text : String)
    (occurredAt : Datetime) (clks : ℕ → Clock)
  | disconnect (i : ℕ) (clks : ℕ → Clock)
  /-- The connection closes by itself. -/
  | lose (i : ℕ)
  | other (event : Installation.Event)

/-- `self._device_factory(config, endpoint.address, endpoint.product_key)`. -/
def create (cfg : AppConfig) (worker : Worker) : Except PyError LanDevice :=
  match cfg.observed.find? (fun config => config.id = worker.deviceId) with
  | none => .error (.keyError worker.deviceId)
  | some config =>
    (createReadOnlyLanDevice config worker.endpoint.address worker.endpoint.productKey).map
      (fun adapter => {
        session := { address := worker.endpoint.address, port_range := GizwitsSession.port_default }
        adapter })

variable (n : Network site)

def worker (i : ℕ) : Option Worker := n.installation.observer.workers[i]?

/-- A step of the worker. -/
def act (i : ℕ) (action : WorkerAction) (clks : ℕ → Clock) : Network site :=
  { n with installation := n.installation.step (.observer (.worker i action) clks) }

/-- The device after a call, and what the call wrote. -/
def wire (i : ℕ) (device : LanDevice) (stack : LanStack) : Network site :=
  { n with
    devices := Function.update n.devices i (some { device with stack })
    written := n.written ++ stack.written.drop device.stack.written.length }

/-- What of the observer is left to the steps that have a session. -/
def onSession : Installation.Event → Bool
  | .observer (.worker _ (.begin _ _)) _ | .observer (.worker _ .connected) _
  | .observer (.worker _ (.read _)) _ | .observer (.worker _ .disconnected) _ => true
  | _ => false

def step (n : Network site) : Event → Network site
  | .begin i text occurredAt clks =>
    match n.worker i with
    | none => n
    | some worker =>
      match worker.phase with
      | .starting | .backingOff =>
        let created := create site.cfg worker
        { n.act i (.begin ((created.mapError (fun _ => text)).map (fun _ => ())) occurredAt) clks with
          devices := Function.update n.devices i created.toOption }
      | _ => n
  | .connect i opened passcodeIo loginIo ending text occurredAt clks =>
    match n.worker i, n.devices i with
    | some worker, some device =>
      match worker.phase with
      | .connecting =>
        let (result, stack) := device.stack.connect device.session opened passcodeIo loginIo
        let action := match result with
          | .ok () => .connected
          | .error _ => .failed text occurredAt
        (n.wire i device stack).act i (ending.action worker action) clks
      | _ => n
    | _, _ => n
  | .read i io observedAt ending text occurredAt clks =>
    match n.worker i, n.devices i with
    | some worker, some device =>
      match worker.phase with
      | .reading =>
        let (result, stack) := device.stack.getState device.session device.adapter io observedAt
        let action := match result with
          | .ok state => .read state
          | .error _ => .failed text occurredAt
        let answer : Answer :=
          { deviceId := worker.deviceId, adapter := device.adapter, reply := io.reply, observedAt }
        { (n.wire i device stack).act i (ending.action worker action) clks with
          answers := n.answers ++ [answer] }
      | _ => n
    | _, _ => n
  | .disconnect i clks =>
    match n.worker i, n.devices i with
    | some worker, some device =>
      match worker.phase with
      | .disconnecting _ =>
        (n.wire i device (device.stack.disconnect device.session)).act i .disconnected clks
      | _ => n
    | _, _ => n
  | .lose i =>
    match n.devices i with
    | some device => n.wire i device (device.stack.call device.session .lose)
    | none => n
  | .other event =>
    if onSession event then n
    else { n with installation := n.installation.step event }

end Network

end JebaoFlow
