import JebaoFlow.Devices.Binding
import JebaoFlow.Mqtt.Service

/-!
# The read-only observer

`ReadOnlyObserver` as a machine of small steps. One coroutine reconciles the workers with
what the discovery finds, each worker reads one device and reports what it reads, and the
reports go to a journal behind one lock. A step takes one of them from one `await` to the
next; what the network, the threads and the clock do is the input.

The sink is the service's `record_observer_event`, which always returns; `disconnect`
closes the session of its device, however it ends.
-/

namespace JebaoFlow

/-! ## The journal -/

inductive JournalEvent
  | firstSeen | recovered | stateChanged | offline
  deriving DecidableEq, Repr

structure JournalRecord where
  event : JournalEvent
  deviceId : String
  occurredAt : Datetime
  previous : Option DeviceState := none
  current : Option DeviceState := none
  error : Option String := none

/-- `_state_signature(a) == _state_signature(b)`. -/
def DeviceState.sameSignature (a b : DeviceState) : Bool :=
  a.enabled == b.enabled && a.power == b.power && a.mode == b.mode && a.frequency == b.frequency
    && a.error == b.error && Scalar.eqDict a.observedAttributes b.observedAttributes
    && scheduleConfigurationEq (scheduleConfiguration a.schedule) (scheduleConfiguration b.schedule)

/-! ## State -/

/-- What a worker awaits. -/
inductive Phase
  /-- The task was created and has not run yet. -/
  | starting
  | connecting
  | reading
  /-- The journal's lock. -/
  | waiting (record : JournalRecord)
  /-- The thread of its write, which has not begun. -/
  | queued (record : JournalRecord)
  /-- The write, in a thread. -/
  | writing (record : JournalRecord) (write : ℕ)
  | polling
  /-- `disconnect`, the last thing it does or before it tries again. -/
  | disconnecting (last : Bool)
  | backingOff
  | done

def Phase.isDone : Phase → Bool
  | .done => true
  | _ => false

def Phase.isWaiting : Phase → Bool
  | .waiting _ => true
  | _ => false

/-- The task of one `_observe_device`. -/
structure Worker where
  deviceId : String
  endpoint : ResolvedDevice
  phase : Phase := .starting
  /-- `cancel` was called; what it awaits may still end first. -/
  cancelled : Bool := false
  /-- Sessions of devices it created and has not disconnected. -/
  sessions : ℕ := 0

/-- What `_reconcile` awaits. -/
inductive Reconciler
  /-- The next round. -/
  | idle
  | discovering
  /-- Nothing: the loop goes on with these devices. -/
  | binding (resolved : Dict String ResolvedDevice) (configs : List DeviceConfig)
  /-- The end of the cancelled worker of a device. -/
  | gathering (resolved : Dict String ResolvedDevice) (config : DeviceConfig) (worker : ℕ)
    (configs : List DeviceConfig)
  /-- The end of all workers, in the `finally` of `run`. -/
  | stopping
  | stopped

structure ObserverState where
  reconciler : Reconciler := .idle
  /-- `_workers`, with the position of the task among all that were created. -/
  table : Dict String (ResolvedDevice × ℕ) := Dict.empty
  workers : List Worker := []
  lastStates : Dict String DeviceState := Dict.empty
  offline : List String := []
  /-- The worker that holds the journal's lock. -/
  lock : Option ℕ := none
  /-- The writes threads are at, oldest first; a thread does not stop with its worker. -/
  running : List (ℕ × JournalRecord) := []
  nextWrite : ℕ := 0
  file : List JournalRecord := []
  /-- What was handed to the sink. -/
  events : List ObserverEvent := []

/-! ## Workers -/

namespace Worker

variable (worker : Worker)

/-- The `finally` of the loop body; without a device there is nothing to disconnect. -/
def close (last : Bool) : Worker :=
  if worker.sessions = 0 then { worker with phase := if last then .done else .backingOff }
  else { worker with phase := .disconnecting last }

/-- `disconnect` is over. -/
def disconnected (last : Bool) : Worker :=
  { worker with
    phase := if last then .done else .backingOff
    sessions := worker.sessions - 1 }

/-- An exception that nothing catches, or a `return`. -/
def terminate : Worker :=
  match worker.phase with
  | .starting | .backingOff | .done => { worker with phase := .done }
  | .disconnecting _ => worker.disconnected true
  | _ => worker.close true

/-- Where the report goes on after its record is written. -/
def resume (record : JournalRecord) : Worker :=
  if record.current.isSome then { worker with phase := .polling } else worker.close false

end Worker

namespace ObserverState

variable (s : ObserverState)

def setWorker (i : ℕ) (worker : Worker) : ObserverState :=
  { s with workers := s.workers.set i worker }

def isDone (i : ℕ) : Bool := s.workers[i]?.all (fun worker => worker.phase.isDone)

/-- `self._sink(event)`. -/
def emit (event : ObserverEvent) : ObserverState := { s with events := s.events ++ [event] }

/-- Leaving `async with self._lock`. -/
def release (i : ℕ) : ObserverState := if s.lock = some i then { s with lock := none } else s

/-- Entering `async with self._lock`, which waits behind those who wait already. -/
def append (i : ℕ) (worker : Worker) (record : JournalRecord) : ObserverState :=
  if s.lock = none ∧ s.workers.all (fun other => !other.phase.isWaiting) then
    { s with lock := some i }.setWorker i { worker with phase := .queued record }
  else s.setWorker i { worker with phase := .waiting record }

/-- `_report_state`, up to the record it appends. -/
def reportState (deviceId : String) (state : DeviceState) : ObserverState × Option JournalRecord :=
  let previous := s.lastStates.get? deviceId
  let recovered : Bool := deviceId ∈ s.offline
  let record (event : JournalEvent) : JournalRecord :=
    { event, deviceId, occurredAt := state.observedAt, previous, current := some state }
  let reported := { s with
    offline := s.offline.filter (fun other => other ≠ deviceId)
    lastStates := s.lastStates.set deviceId state }.emit
      { deviceId, status := .online, occurredAt := state.observedAt, state := some state }
  (reported,
    match previous with
    | none => some (record .firstSeen)
    | some previous =>
        if recovered then some (record .recovered)
        else if !previous.sameSignature state then some (record .stateChanged)
        else none)

/-- `_report_offline`, up to the record it appends. -/
def reportOffline (deviceId : String) (error : String) (occurredAt : Datetime) :
    ObserverState × Option JournalRecord :=
  let first : Bool := deviceId ∉ s.offline
  let reported := { s with offline := if first then deviceId :: s.offline else s.offline }.emit
    { deviceId, status := .offline, occurredAt, error := some error }
  (reported,
    if first then
      some { event := .offline, deviceId, occurredAt, previous := s.lastStates.get? deviceId
             error := some error }
    else none)

/-- The `except Exception` of a worker. -/
def fail (i : ℕ) (worker : Worker) (error : String) (occurredAt : Datetime) : ObserverState :=
  match s.reportOffline worker.deviceId error occurredAt with
  | (s, some record) => s.append i worker record
  | (s, none) => s.setWorker i (worker.close false)

/-- The top of a worker's loop, up to `connect`. -/
def begin (i : ℕ) (worker : Worker) (created : Except String Unit) (occurredAt : Datetime) :
    ObserverState :=
  let s := s.emit { deviceId := worker.deviceId, status := .connecting, occurredAt }
  match created with
  | .ok () => s.setWorker i { worker with phase := .connecting, sessions := worker.sessions + 1 }
  | .error error => s.fail i worker error occurredAt

end ObserverState

/-- What happens to a worker. -/
inductive WorkerAction
  /-- It runs its loop from the top; the device factory returns or raises. -/
  | begin (created : Except String Unit) (occurredAt : Datetime)
  | connected
  | read (state : DeviceState)
  /-- What it awaits raises. -/
  | failed (error : String) (occurredAt : Datetime)
  /-- It gets the lock; which of those that wait gets it first is left open. -/
  | acquired
  /-- A thread begins its write. -/
  | started
  /-- It sees its write done. -/
  | appended
  | polled
  | disconnected
  /-- It ends by itself: at a stop, or by an exception that nothing catches, wherever it is. -/
  | left
  /-- The cancellation that was asked for is raised. -/
  | interrupted

def workerStep (s : ObserverState) (i : ℕ) (worker : Worker) (action : WorkerAction) :
    ObserverState :=
  match action, worker.phase with
  | .begin created occurredAt, .starting => s.begin i worker created occurredAt
  | .begin created occurredAt, .backingOff => s.begin i worker created occurredAt
  | .connected, .connecting => s.setWorker i { worker with phase := .reading }
  | .read state, .reading =>
      match s.reportState worker.deviceId state with
      | (s, some record) => s.append i worker record
      | (s, none) => s.setWorker i { worker with phase := .polling }
  | .failed error occurredAt, .connecting => s.fail i worker error occurredAt
  | .failed error occurredAt, .reading => s.fail i worker error occurredAt
  | .failed error occurredAt, .polling => s.fail i worker error occurredAt
  | .acquired, .waiting record =>
      if s.lock = none then
        { s with lock := some i }.setWorker i { worker with phase := .queued record }
      else s
  | .started, .queued record =>
      { s with
        running := s.running ++ [(s.nextWrite, record)]
        nextWrite := s.nextWrite + 1 }.setWorker i
        { worker with phase := .writing record s.nextWrite }
  | .appended, .writing record write =>
      if write ∈ s.running.map Prod.fst then s
      else (s.release i).setWorker i (worker.resume record)
  | .polled, .polling => s.setWorker i { worker with phase := .reading }
  | .disconnected, .disconnecting last => s.setWorker i (worker.disconnected last)
  -- its write goes on without it, if the thread has begun, and is never begun if not
  | .left, _ => (s.release i).setWorker i worker.terminate
  | .interrupted, _ =>
      if worker.cancelled then (s.release i).setWorker i worker.terminate else s
  | _, _ => s

/-! ## Reconciling -/

/-- How a discovery ends. -/
inductive DiscoveryOutcome
  | answers (discovered : List DiscoveredDevice)
  /-- An `OSError` or a `RuntimeError`. -/
  | failed (error : String)
  | raised (error : String)

inductive ObserverAction
  | beginRound
  /-- The discovery ends; when no device needs it, there was none and it found nothing. -/
  | discovered (outcome : DiscoveryOutcome)
  /-- The loop handles its next device, or is over. -/
  | bindNext (occurredAt : Datetime)
  /-- The awaited worker is done. -/
  | gathered (occurredAt : Datetime)
  /-- `run` leaves its loop. -/
  | shutdown
  | cleared
  | worker (i : ℕ) (action : WorkerAction)
  /-- A thread finishes a write. -/
  | written (write : ℕ)
  /-- A write ends in an `OSError`, which `append` only logs. -/
  | unwritten (write : ℕ)

namespace AppConfig

variable (cfg : AppConfig)

/-- `self._configs`. -/
def observed : List DeviceConfig := cfg.devices.filter DeviceConfig.enabled

def requiresDiscovery : Bool :=
  cfg.observed.any (fun device =>
    device.identity.isSome || device.address.isNone || device.productKey.isNone)

end AppConfig

namespace ObserverState

variable (s : ObserverState)

def cancel (i : ℕ) : ObserverState :=
  { s with workers := s.workers.modify i (fun worker => { worker with cancelled := true }) }

/-- `create_task`, and its place in the table. -/
def spawn (config : DeviceConfig) (endpoint : ResolvedDevice) : ObserverState :=
  { s with
    workers := s.workers ++ [{ deviceId := config.id, endpoint }]
    table := s.table.set config.id (endpoint, s.workers.length) }

def unmap (config : DeviceConfig) (occurredAt : Datetime) : ObserverState :=
  s.emit { deviceId := config.id, status := .unmapped, occurredAt
           error := some "stable_identity_not_resolved" }

/-- One device of the loop, up to its `await` or its end. -/
def bindOne (resolved : Dict String ResolvedDevice) (config : DeviceConfig)
    (configs : List DeviceConfig) (occurredAt : Datetime) : ObserverState :=
  let next := { s with reconciler := .binding resolved configs }
  let gathering (i : ℕ) := { s.cancel i with reconciler := .gathering resolved config i configs }
  match resolved.get? config.id, s.table.get? config.id with
  | none, none => next.unmap config occurredAt
  | none, some (_, i) => gathering i
  | some endpoint, none => next.spawn config endpoint
  | some endpoint, some (current, i) =>
      if current = endpoint ∧ s.isDone i = false then next else gathering i

/-- The rest of a device whose worker was awaited. -/
def bindGathered (resolved : Dict String ResolvedDevice) (config : DeviceConfig)
    (configs : List DeviceConfig) (occurredAt : Datetime) : ObserverState :=
  let next := { s with reconciler := .binding resolved configs }
  match resolved.get? config.id with
  | none => { next with table := next.table.erase config.id }.unmap config occurredAt
  | some endpoint => next.spawn config endpoint

/-- The `finally` of `run` cancels every worker. -/
def stop : ObserverState :=
  { s.table.entries.foldl (fun s entry => s.cancel entry.2.2) s with reconciler := .stopping }

end ObserverState

/-- One step; an input that nothing waits for changes nothing. -/
def observerStep (cfg : AppConfig) (s : ObserverState) (action : ObserverAction) : ObserverState :=
  match action, s.reconciler with
  | .beginRound, .idle =>
      if cfg.observer.enabled then { s with reconciler := .discovering } else s
  | .discovered outcome, .discovering =>
      if cfg.requiresDiscovery then
        match outcome with
        | .answers discovered =>
            { s with
              reconciler := .binding (resolveDeviceBindings cfg.observed discovered) cfg.observed }
        | .failed _ => { s with reconciler := .idle }
        | .raised _ => s.stop
      else { s with reconciler := .binding (resolveDeviceBindings cfg.observed []) cfg.observed }
  | .bindNext _, .binding _ [] => { s with reconciler := .idle }
  | .bindNext occurredAt, .binding resolved (config :: configs) =>
      s.bindOne resolved config configs occurredAt
  | .gathered occurredAt, .gathering resolved config i configs =>
      if s.isDone i then s.bindGathered resolved config configs occurredAt else s
  | .shutdown, .stopping => s
  | .shutdown, .stopped => s
  | .shutdown, _ => s.stop
  | .cleared, .stopping =>
      if s.table.entries.all (fun entry => s.isDone entry.2.2) then
        { s with reconciler := .stopped, table := Dict.empty }
      else s
  | .worker i action, _ =>
      match s.workers[i]? with
      | some worker => workerStep s i worker action
      | none => s
  | .written write, _ =>
      match s.running.find? (fun running => running.1 = write) with
      | some (_, record) =>
          { s with
            running := s.running.filter (fun running => running.1 ≠ write)
            file := s.file ++ [record] }
      | none => s
  | .unwritten write, _ =>
      { s with running := s.running.filter (fun running => running.1 ≠ write) }
  | _, _ => s

end JebaoFlow
