import JebaoFlow.Proof.RequestCache

/-!
# Rejection is atomic

A command is always answered. A refused one changes nothing but the request cache, and
in observer mode every command is refused.
-/

namespace JebaoFlow

open PyFloat Run

variable {cfg : AppConfig} {units : UnitSource}

/-- Records, dirty sets and the update event are as they were. -/
structure Untouched (s s' : ServiceState) : Prop where
  states : s'.states = s.states
  deviceStates : s'.deviceStates = s.deviceStates
  dirtyDevices : s'.dirtyDevices = s.dirtyDevices
  dirtyGroups : s'.dirtyGroups = s.dirtyGroups
  updateEvent : s'.updateEvent = s.updateEvent

/-- The call returns, a refusal leaves everything untouched, and observer mode refuses. -/
def AnswersGroup (cfg : AppConfig) (units : UnitSource) (s : ServiceState) (groupId : String)
    (command : GroupCommand) (clk : Clock) : Prop :=
  ∃ result, (apply cfg units clk groupId command s).1 = .ok result
    ∧ (result.accepted = false → Untouched s (apply cfg units clk groupId command s).2)
    ∧ (cfg.runtime.mode = .observer → result.accepted = false)

def AnswersDevice (cfg : AppConfig) (units : UnitSource) (s : ServiceState) (deviceId : String)
    (command : DeviceCommand) (clk : Clock) : Prop :=
  ∃ result, (applyDevice cfg units clk deviceId command s).1 = .ok result
    ∧ (result.accepted = false → Untouched s (applyDevice cfg units clk deviceId command s).2)
    ∧ (cfg.runtime.mode = .observer → result.accepted = false)

/-! ## A refusal changes nothing -/

theorem GroupAnswer.untouched {groupId requestId : String} {s s' : ServiceState}
    {result : GroupCommandResult} (h : GroupAnswer groupId requestId s (.ok result) s')
    (hrefused : result.accepted = false) : Untouched s s' := by
  cases h with
  | replayed => exact ⟨rfl, rfl, rfl, rfl, rfl⟩
  | refused => constructor <;> simp only [remember]
  | executed => cases hrefused

theorem DeviceAnswer.untouched {requestId : String} {s s' : ServiceState}
    {result : DeviceCommandResult} (h : DeviceAnswer requestId s (.ok result) s')
    (hrefused : result.accepted = false) : Untouched s s' := by
  cases h with
  | replayed => exact ⟨rfl, rfl, rfl, rfl, rfl⟩
  | refused => constructor <;> simp only [rememberDevice]
  | executed => cases hrefused

/-! ## Observer mode -/

/-- Every recorded answer is a refusal. -/
structure RefusedAll (s : ServiceState) : Prop where
  results : ∀ id result, s.results.get? id = some result → result.accepted = false
  deviceResults : ∀ id result, s.deviceResults.get? id = some result → result.accepted = false

theorem apply_refused {s : ServiceState} {clk : Clock} {groupId : String} {command : GroupCommand}
    {result : GroupCommandResult} (hmode : cfg.runtime.mode = .observer) (hinv : ServiceInv cfg s)
    (hold : ∀ r, s.results.get? command.requestId = some r → r.accepted = false)
    (hresult : (apply cfg units clk groupId command s).1 = .ok result) :
    result.accepted = false := by
  have hout := apply_outcome units clk groupId command hinv
  rw [hresult] at hout
  generalize (apply cfg units clk groupId command s).2 = s' at hout
  cases hout with
  | replayed hcached => exact hold _ hcached
  | unknown _ _ hrefused => exact hrefused
  | rejected _ _ _ _ _ hrefused => exact hrefused
  | accepted _ _ _ _ hpass =>
      rw [(rejection_eq_none_iff.mp hpass).mode] at hmode
      cases hmode

theorem applyDevice_refusedAll {s : ServiceState} {clk : Clock} {deviceId : String}
    {command : DeviceCommand} {result : DeviceCommandResult}
    (hmode : cfg.runtime.mode = .observer) (hinv : ServiceInv cfg s)
    (hold : ∀ r, s.deviceResults.get? command.requestId = some r → r.accepted = false)
    (hresult : (applyDevice cfg units clk deviceId command s).1 = .ok result) :
    result.accepted = false := by
  have hout := applyDevice_outcome units clk deviceId command hinv
  rw [hresult] at hout
  generalize (applyDevice cfg units clk deviceId command s).2 = s' at hout
  cases hout with
  | replayed hcached => exact hold _ hcached
  | unknown _ _ hrefused => exact hrefused
  | rejected _ _ _ _ _ hrefused => exact hrefused
  | resumed _ _ _ _ hpass =>
      rw [hpass.mode] at hmode
      cases hmode
  | patched _ _ _ _ hpass =>
      rw [hpass.mode] at hmode
      cases hmode

theorem refusedAll_step (hmode : cfg.runtime.mode = .observer) (s : ServiceState) (op : ServiceOp)
    (hinv : ServiceInv cfg s) (h : RefusedAll s) : RefusedAll (serviceStep cfg units s op) where
  results := by
    refine Caches.forall (results_step s op) h.results (fun result hresult => ?_)
    cases op with
    | apply groupId command clk =>
        rw [recordedResult] at hresult
        cases hget : s.results.get? command.requestId with
        | some r =>
            rw [hget] at hresult
            cases hresult
        | none =>
            rw [hget] at hresult
            exact apply_refused hmode hinv (fun r hr => by rw [hget] at hr; cases hr)
              (PyError.toOption_eq_some hresult)
    | applyDevice => cases hresult
    | observe => cases hresult
  deviceResults := by
    refine Caches.forall (deviceResults_step s op) h.deviceResults (fun result hresult => ?_)
    cases op with
    | apply => cases hresult
    | applyDevice deviceId command clk =>
        rw [recordedDeviceResult] at hresult
        cases hget : s.deviceResults.get? command.requestId with
        | some r =>
            rw [hget] at hresult
            cases hresult
        | none =>
            rw [hget] at hresult
            exact applyDevice_refusedAll hmode hinv (fun r hr => by rw [hget] at hr; cases hr)
              (PyError.toOption_eq_some hresult)
    | observe => cases hresult

theorem reachable_refusedAll {s : ServiceState} (hs : Reachable cfg units s)
    (hmode : cfg.runtime.mode = .observer) : RefusedAll s := by
  refine hs.induct (fun clk s₀ hstart => ⟨?_, ?_⟩) (refusedAll_step hmode)
  · intro id result hget
    rw [hstart.results] at hget
    cases hget
  · intro id result hget
    rw [hstart.deviceResults] at hget
    cases hget

/-! ## One call -/

/-- Group commands always answer. -/
theorem answersGroup {s : ServiceState} (hs : Reachable cfg units s) (groupId : String)
    (command : GroupCommand) (clk : Clock) : AnswersGroup cfg units s groupId command clk := by
  have hinv := reachable_inv hs
  obtain ⟨result, hresult⟩ : ∃ result, (apply cfg units clk groupId command s).1 = .ok result := by
    have hout := apply_outcome units clk groupId command hinv
    generalize apply cfg units clk groupId command s = out at hout ⊢
    obtain ⟨r, s'⟩ := out
    cases hout <;> exact ⟨_, rfl⟩
  have hanswer := apply_answer cfg units clk groupId command s
  rw [hresult] at hanswer
  exact ⟨result, hresult, hanswer.untouched, fun hmode =>
    apply_refused hmode hinv ((reachable_refusedAll hs hmode).results command.requestId) hresult⟩

/-- Device commands always answer. -/
theorem answersDevice {s : ServiceState} (hs : Reachable cfg units s) (deviceId : String)
    (command : DeviceCommand) (clk : Clock) : AnswersDevice cfg units s deviceId command clk := by
  have hinv := reachable_inv hs
  obtain ⟨result, hresult⟩ : ∃ result, (applyDevice cfg units clk deviceId command s).1
      = .ok result := by
    have hout := applyDevice_outcome units clk deviceId command hinv
    generalize applyDevice cfg units clk deviceId command s = out at hout ⊢
    obtain ⟨r, s'⟩ := out
    cases hout <;> exact ⟨_, rfl⟩
  have hanswer := applyDevice_answer cfg units clk deviceId command s
  rw [hresult] at hanswer
  exact ⟨result, hresult, hanswer.untouched, fun hmode => applyDevice_refusedAll hmode hinv
    ((reachable_refusedAll hs hmode).deviceResults command.requestId) hresult⟩

/--
**Rejection is atomic.**

In every reachable state every command, for a known target or not, is answered without
an exception; a refusal leaves the records, the dirty sets and the update event as they
were, and observer mode refuses everything.
-/
theorem rejection_atomic {s : ServiceState} (hs : Reachable cfg units s) :
    (∀ groupId command clk, AnswersGroup cfg units s groupId command clk)
      ∧ ∀ deviceId command clk, AnswersDevice cfg units s deviceId command clk :=
  ⟨answersGroup hs, answersDevice hs⟩

/-- A stop for a group that does not exist, and a power that no device limit allows. -/
theorem rejection_atomic_reefTank :
    AnswersGroup reefTank steadyUnits (startState reefTank steadyUnits (fun _ => 0)) "unknown"
        plainStop (fun _ => 1)
      ∧ AnswersDevice reefTank steadyUnits (startState reefTank steadyUnits (fun _ => 0)) "right"
        { requestId := "over-100", power := some ⟨100, by decide⟩ } (fun _ => 1) := by
  have hstart : starts reefTank steadyUnits (fun _ => 0) = true := by decide +kernel
  obtain ⟨hgroup, hdevice⟩ := rejection_atomic (reachable_startState hstart [])
  exact ⟨hgroup "unknown" plainStop _, hdevice "right" _ _⟩

end JebaoFlow
