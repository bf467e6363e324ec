import JebaoFlow.Devices.Observer

/-!
# Reports that run to completion

The two report functions of the observer as one operation: what it remembers and hands
to the sink, and the record that is in the journal once the call is over, if its write
succeeded. The signature is the tuple of `_state_signature`.
-/

namespace JebaoFlow

/-! ## Signatures -/

/-- `_state_signature`; the attributes are sorted, and the schedule is without its clock. -/
structure StateSignature where
  enabled : Bool
  power : Percent
  mode : String
  frequency : Option Percent
  error : Option String
  attributes : List (String × Scalar)
  schedule : Option DeviceSchedule

/-- `sorted(d.items())`; the keys are distinct, so they decide. -/
def sortedItems (d : Dict String Scalar) : List (String × Scalar) :=
  d.entries.mergeSort (fun a b => decide (a.1 ≤ b.1))

def DeviceState.signature (state : DeviceState) : StateSignature where
  enabled := state.enabled
  power := state.power
  mode := state.mode
  frequency := state.frequency
  error := state.error
  attributes := sortedItems state.observedAttributes
  schedule := scheduleConfiguration state.schedule

/-- `a == b` between tuples of items. -/
def eqItems : List (String × Scalar) → List (String × Scalar) → Bool
  | [], [] => true
  | a :: as, b :: bs => a.1 == b.1 && a.2.eq b.2 && eqItems as bs
  | _, _ => false

/-- `a == b`, component by component. -/
def StateSignature.eq (a b : StateSignature) : Bool :=
  a.enabled == b.enabled && a.power == b.power && a.mode == b.mode && a.frequency == b.frequency
    && a.error == b.error && eqItems a.attributes b.attributes
    && scheduleConfigurationEq a.schedule b.schedule

/-! ## Reports -/

/-- A call of `_report_state` or `_report_offline`. -/
inductive Report
  | online (deviceId : String) (state : DeviceState)
  | offline (deviceId : String) (error : String) (occurredAt : Datetime)

namespace Report

def deviceId : Report → String
  | .online deviceId _ => deviceId
  | .offline deviceId _ _ => deviceId

/-- The state it reports of a device. -/
def stateOf (deviceId : String) : Report → Option DeviceState
  | .online other state => if other = deviceId then some state else none
  | .offline .. => none

end Report

/-- A call that ran to its end, and whether the file took the line, if there was one. -/
structure Completed where
  report : Report
  /-- When not, the write raised an `OSError`, and `append` returned all the same. -/
  written : Bool := true

namespace ObserverState

variable (s : ObserverState)

/-- The call, up to the record it appends. -/
def report : Report → ObserverState × Option JournalRecord
  | .online deviceId state => s.reportState deviceId state
  | .offline deviceId error occurredAt => s.reportOffline deviceId error occurredAt

/-- The call to its end: the record is in the journal, or its write failed. -/
def complete (call : Completed) : ObserverState :=
  let (s, record) := s.report call.report
  if call.written then { s with file := s.file ++ record.toList } else s

end ObserverState

/-- What is left of an observer's memory after these calls, one after the other. -/
def observed (calls : List Completed) : ObserverState :=
  Run.exec ObserverState.complete {} calls

/-- The records of a device. -/
def journalOf (deviceId : String) (s : ObserverState) : List JournalRecord :=
  s.file.filter (fun record => record.deviceId = deviceId)

/-- The state that was last reported of a device. -/
def lastState (deviceId : String) (calls : List Completed) : Option DeviceState :=
  (calls.filterMap (fun call => call.report.stateOf deviceId)).getLast?

/-- It was reported offline, and no state of it afterwards. -/
def OfflineSince (deviceId : String) (calls : List Completed) : Prop :=
  ∃ before error occurredAt written after,
    calls = before ++ ⟨.offline deviceId error occurredAt, written⟩ :: after
      ∧ ∀ call ∈ after, call.report.stateOf deviceId = none

/-! ## The observer with the service behind it -/

/-- What a report hands to the sink. -/
def Report.event : Report → ObserverEvent
  | .online deviceId state =>
      { deviceId, status := .online, occurredAt := state.observedAt, state := some state }
  | .offline deviceId error occurredAt =>
      { deviceId, status := .offline, occurredAt, error := some error }

/-- An observer whose sink is `record_observer_event`. -/
structure Monitor where
  observer : ObserverState := {}
  service : ServiceState

inductive MonitorAction
  | report (call : Completed) (clk : Clock)
  /-- A command, or an event that is no report: connecting, unmapped. -/
  | service (op : ServiceOp)

/-- It is a report or another event of the device. -/
def MonitorAction.about (deviceId : String) : MonitorAction → Prop
  | .report call _ => call.report.deviceId = deviceId
  | .service (.observe event _) => event.deviceId = deviceId
  | .service _ => False

def monitorStep (cfg : AppConfig) (units : UnitSource) (m : Monitor) : MonitorAction → Monitor
  | .report call clk =>
      { observer := m.observer.complete call
        service := (recordObserverEvent cfg units clk call.report.event m.service).2 }
  | .service op => { m with service := serviceStep cfg units m.service op }

end JebaoFlow
