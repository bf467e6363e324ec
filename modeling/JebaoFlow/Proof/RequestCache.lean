import JebaoFlow.Lib.Cache
import JebaoFlow.Proof.Answers
import JebaoFlow.Proof.Start

/-!
# One execution per request id

Commands arrive at least once, so each of the two command paths remembers what it
answered to a request id and answers a redelivery from there. The cache is bounded;
what it holds is the tail of everything that path ever recorded.
-/

namespace JebaoFlow

open Run

variable {cfg : AppConfig} {units : UnitSource}

/-- What a group command records: its answer, unless that comes from the cache. -/
def recordedResult (cfg : AppConfig) (units : UnitSource) (s : ServiceState) :
    ServiceOp → Option GroupCommandResult
  | .apply groupId command clk =>
      if (s.results.get? command.requestId).isSome then none
      else (apply cfg units clk groupId command s).1.toOption
  | .applyDevice _ _ _ => none
  | .observe _ _ => none

/-- What a device command records. -/
def recordedDeviceResult (cfg : AppConfig) (units : UnitSource) (s : ServiceState) :
    ServiceOp → Option DeviceCommandResult
  | .apply _ _ _ => none
  | .applyDevice deviceId command clk =>
      if (s.deviceResults.get? command.requestId).isSome then none
      else (applyDevice cfg units clk deviceId command s).1.toOption
  | .observe _ _ => none

/-! ## One call -/

theorem GroupAnswer.deviceResults {groupId requestId : String} {s s' : ServiceState}
    {r : Except PyError GroupCommandResult} (h : GroupAnswer groupId requestId s r s') :
    s'.deviceResults = s.deviceResults := by
  cases h with
  | replayed => rfl
  | refused => exact remember_deviceResults ..
  | raised _ hbesides => exact hbesides.deviceResults
  | executed _ hbesides => exact (remember_deviceResults ..).trans hbesides.deviceResults

theorem DeviceAnswer.results {requestId : String} {s s' : ServiceState}
    {r : Except PyError DeviceCommandResult} (h : DeviceAnswer requestId s r s') :
    s'.results = s.results := by
  cases h with
  | replayed => rfl
  | refused => exact rememberDevice_results ..
  | raised _ hbesides => exact hbesides.results
  | executed _ _ hbesides => exact (rememberDevice_results ..).trans hbesides.results

/-- A group command leaves its cache alone, or records its answer under a new id. -/
theorem GroupAnswer.caches {groupId requestId : String} {s s' : ServiceState}
    {r : Except PyError GroupCommandResult} (h : GroupAnswer groupId requestId s r s') :
    Caches maxDeduplicationEntries GroupCommandResult.requestId s.results s'.results
      (if (s.results.get? requestId).isSome then none else r.toOption) := by
  cases h with
  | replayed hold =>
      rw [hold]
      exact rfl
  | refused hnew =>
      rw [hnew]
      exact ⟨hnew, remember_results ..⟩
  | raised hnew hbesides =>
      rw [hnew]
      exact hbesides.results
  | executed hnew hbesides =>
      rw [hnew]
      refine ⟨hnew, ?_⟩
      rw [← hbesides.results, remember_results]

theorem DeviceAnswer.caches {requestId : String} {s s' : ServiceState}
    {r : Except PyError DeviceCommandResult} (h : DeviceAnswer requestId s r s') :
    Caches maxDeduplicationEntries DeviceCommandResult.requestId s.deviceResults s'.deviceResults
      (if (s.deviceResults.get? requestId).isSome then none else r.toOption) := by
  cases h with
  | replayed hold =>
      rw [hold]
      exact rfl
  | refused hnew =>
      rw [hnew]
      exact ⟨hnew, rememberDevice_deviceResults ..⟩
  | raised hnew hbesides =>
      rw [hnew]
      exact hbesides.deviceResults
  | executed hnew _ hbesides =>
      rw [hnew]
      refine ⟨hnew, ?_⟩
      rw [← hbesides.deviceResults, rememberDevice_deviceResults]

theorem results_step (s : ServiceState) (op : ServiceOp) :
    Caches maxDeduplicationEntries GroupCommandResult.requestId s.results
      (serviceStep cfg units s op).results (recordedResult cfg units s op) := by
  cases op with
  | apply groupId command clk => exact (apply_answer cfg units clk groupId command s).caches
  | applyDevice deviceId command clk =>
      exact (applyDevice_answer cfg units clk deviceId command s).results
  | observe event clk => exact (recordObserverEvent_results cfg units clk event s).results

theorem deviceResults_step (s : ServiceState) (op : ServiceOp) :
    Caches maxDeduplicationEntries DeviceCommandResult.requestId s.deviceResults
      (serviceStep cfg units s op).deviceResults (recordedDeviceResult cfg units s op) := by
  cases op with
  | apply groupId command clk =>
      exact (apply_answer cfg units clk groupId command s).deviceResults
  | applyDevice deviceId command clk =>
      exact (applyDevice_answer cfg units clk deviceId command s).caches
  | observe event clk => exact (recordObserverEvent_results cfg units clk event s).deviceResults

/-- A recorded request id is answered from the cache, whatever the command asks for. -/
theorem apply_of_recorded {s : ServiceState} {command : GroupCommand} {result : GroupCommandResult}
    (h : s.results.get? command.requestId = some result) (clk : Clock) (groupId : String) :
    apply cfg units clk groupId command s = (.ok result, s) := by
  unfold apply
  rw [h]

theorem applyDevice_of_recorded {s : ServiceState} {command : DeviceCommand}
    {result : DeviceCommandResult} (h : s.deviceResults.get? command.requestId = some result)
    (clk : Clock) (deviceId : String) :
    applyDevice cfg units clk deviceId command s = (.ok result, s) := by
  unfold applyDevice
  rw [h]

/-! ## Runs -/

/--
**Each path answers a request id once and then repeats itself**, as long as the id
is among the newest recorded.

After any run of a fresh service the cache holds the newest results of that run's
log, in the order they were recorded and under distinct ids; and a request id with
at most 511 results recorded behind it gets the recorded result, for any target and
any command content, and leaves the whole state as it is.
-/
theorem at_most_once {s₀ : ServiceState} {clk₀ : Clock}
    (hinit : GroupControlService.init cfg units clk₀ = .ok s₀) (ops : List ServiceOp) :
    let s := exec (serviceStep cfg units) s₀ ops
    let log := trace (serviceStep cfg units) (recordedResult cfg units) s₀ ops
    let deviceLog := trace (serviceStep cfg units) (recordedDeviceResult cfg units) s₀ ops
    (s.results.entries = logged GroupCommandResult.requestId (log.rtake 512)
      ∧ (log.rtake 512).length = min log.length 512
      ∧ ((log.rtake 512).map GroupCommandResult.requestId).Nodup
      ∧ ∀ before result after, log = before ++ result :: after → after.length ≤ 511 →
          ∀ clk groupId (command : GroupCommand), command.requestId = result.requestId →
            apply cfg units clk groupId command s = (.ok result, s))
    ∧ (s.deviceResults.entries = logged DeviceCommandResult.requestId (deviceLog.rtake 512)
      ∧ (deviceLog.rtake 512).length = min deviceLog.length 512
      ∧ ((deviceLog.rtake 512).map DeviceCommandResult.requestId).Nodup
      ∧ ∀ before result after, deviceLog = before ++ result :: after → after.length ≤ 511 →
          ∀ clk deviceId (command : DeviceCommand), command.requestId = result.requestId →
            applyDevice cfg units clk deviceId command s = (.ok result, s)) := by
  intro s log deviceLog
  have hstart := init_started hinit
  have hlength : ∀ {ν : Type} (l : List ν), (l.rtake 512).length = min l.length 512 := by
    intro ν l
    unfold List.rtake
    rw [List.length_drop]
    omega
  -- the two caches do not touch each other, and each is the end of its own log
  have hentries : s.results.entries = (logged GroupCommandResult.requestId log).rtake 512 :=
    cache_entries results_step ops s₀ [] (by rw [hstart.results]; rfl)
  have hdevice : s.deviceResults.entries
      = (logged DeviceCommandResult.requestId deviceLog).rtake 512 :=
    cache_entries deviceResults_step ops s₀ [] (by rw [hstart.deviceResults]; rfl)
  refine ⟨⟨?_, hlength log, nodup_of_entries hentries, ?_⟩,
    ⟨?_, hlength deviceLog, nodup_of_entries hdevice, ?_⟩⟩
  · rw [hentries, logged_rtake]
  · intro before result after hlog hafter clk groupId command hid
    rw [hlog] at hentries
    have hget := get?_of_entries hentries (Nat.lt_succ_of_le hafter)
    exact apply_of_recorded (hid ▸ hget) clk groupId
  · rw [hdevice, logged_rtake]
  · intro before result after hlog hafter clk deviceId command hid
    rw [hlog] at hdevice
    have hget := get?_of_entries hdevice (Nat.lt_succ_of_le hafter)
    exact applyDevice_of_recorded (hid ▸ hget) clk deviceId

/-- The stop button pressed once: a second press with the same id is answered from the cache. -/
theorem at_most_once_reefTank :
    ∃ result : GroupCommandResult, ∀ clk groupId (command : GroupCommand),
      command.requestId = "stop-001" →
      apply reefTank steadyUnits clk groupId command
          (exec (serviceStep reefTank steadyUnits) (startState reefTank steadyUnits (fun _ => 0))
            [.apply "flow" plainStop (fun _ => 0)])
        = (.ok result, exec (serviceStep reefTank steadyUnits)
            (startState reefTank steadyUnits (fun _ => 0)) [.apply "flow" plainStop (fun _ => 0)]) := by
  have hinit := @startState_eq reefTank steadyUnits (fun _ => 0) (by decide +kernel)
  have hlog : trace (serviceStep reefTank steadyUnits) (recordedResult reefTank steadyUnits)
      (startState reefTank steadyUnits (fun _ => 0)) [.apply "flow" plainStop (fun _ => 0)]
      = [] ++ ⟨"stop-001", "flow", true, 1, none⟩ :: [] := by decide +kernel
  obtain ⟨⟨_, _, _, hreplay⟩, _⟩ := at_most_once hinit [.apply "flow" plainStop (fun _ => 0)]
  exact ⟨_, hreplay [] _ [] hlog (Nat.zero_le _)⟩

end JebaoFlow
