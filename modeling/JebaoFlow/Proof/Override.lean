import JebaoFlow.Proof.Start

/-!
# Manual overrides

An individual command puts a grouped device under manual override. The override
holds until something asks for the device by name or forces its group back: no
observation and no ordinary group patch touches the desired output.
-/

namespace JebaoFlow

variable {cfg : AppConfig} {units : UnitSource}

/-- An operation that neither addresses the device nor forces a group back. -/
def Spares (did : String) : ServiceOp → Prop
  | .apply _ command _ => command.enabled = none
      ∧ command.action ≠ some .startFeed
      ∧ command.action ≠ some .emergencyStop
      ∧ command.action ≠ some .resumeAllMembers
  | .applyDevice deviceId _ _ => deviceId ≠ did
  | .observe _ _ => True

/-- The device's desired output and control mode are those of `before`. -/
def HoldsOutput (did : String) (before : DeviceStatePayload) (s : ServiceState) : Prop :=
  ∃ after, s.deviceStates.get? did = some after
    ∧ after.enabled = before.enabled
    ∧ after.power = before.power
    ∧ after.controlMode = before.controlMode

theorem HoldsOutput.congr {s s' : ServiceState} {did : String} {before : DeviceStatePayload}
    (h : HoldsOutput did before s) (hdev : s'.deviceStates = s.deviceStates) :
    HoldsOutput did before s' := by
  obtain ⟨now, hnow, hkeep⟩ := h
  exact ⟨now, hdev ▸ hnow, hkeep⟩

theorem Spares.not_forces {did groupId : String} {command : GroupCommand} {clk : Clock}
    (h : Spares did (.apply groupId command clk)) : forcesGroupControl command = false := by
  obtain ⟨henabled, hfeed, hstop, hresume⟩ := h
  rw [Bool.eq_false_iff]
  intro hforce
  rcases forcesGroupControl_eq_true_iff.mp hforce with h | h | h | h
  · exact h henabled
  · exact hfeed h
  · exact hstop h
  · exact hresume h

/-! ## The frame of one step -/

theorem holdsOutput_apply {s s' : ServiceState} {did groupId : String} {clk : Clock}
    {command : GroupCommand} {r : Except PyError GroupCommandResult} {before : DeviceStatePayload}
    (hout : ApplyOutcome cfg units clk groupId command s r s')
    (hforce : forcesGroupControl command = false) (hman : before.controlMode = .manualOverride)
    (h : HoldsOutput did before s) : HoldsOutput did before s' := by
  cases hout with
  | replayed => exact h
  | unknown => exact h.congr (remember_deviceStates ..)
  | rejected => exact h.congr (remember_deviceStates ..)
  | accepted _ _ _ _ _ hacc =>
      obtain ⟨now, hnow, henabled, hpower, hmode⟩ := h
      rcases hacc.device_after hnow with ⟨_, hsame⟩ | ⟨_, _, _, _, _, _, _, hsync⟩
      · exact ⟨now, hsame, henabled, hpower, hmode⟩
      · rw [hforce, afterSync_skip (hmode.trans hman)] at hsync
        exact ⟨now, hsync, henabled, hpower, hmode⟩

theorem holdsOutput_applyDevice {s s' : ServiceState} {did deviceId : String} {clk : Clock}
    {command : DeviceCommand} {r : Except PyError DeviceCommandResult}
    {before : DeviceStatePayload}
    (hout : DeviceOutcome cfg units clk deviceId command s r s') (hne : deviceId ≠ did)
    (h : HoldsOutput did before s) : HoldsOutput did before s' := by
  cases hout with
  | replayed => exact h
  | unknown => exact h.congr (rememberDevice_deviceStates ..)
  | rejected => exact h.congr (rememberDevice_deviceStates ..)
  | resumed _ _ hid _ _ _ _ _ _ _ _ hst =>
      obtain ⟨now, hnow, hkeep⟩ := h
      refine ⟨now, ?_, hkeep⟩
      rw [hst.device, hid, Dict.get?_set_ne _ _ hne, hnow]
  | patched _ _ hid _ _ _ hst =>
      obtain ⟨now, hnow, hkeep⟩ := h
      refine ⟨now, ?_, hkeep⟩
      rw [hst.device, hid, Dict.get?_set_ne _ _ hne, hnow]

/-- An observation keeps the desired output of every device, the observed one included. -/
theorem holdsOutput_observe {s s' : ServiceState} {did : String} {clk : Clock}
    {event : ObserverEvent} {r : Except PyError Unit} {before : DeviceStatePayload}
    (hout : ObserveOutcome cfg units clk event s r s') (h : HoldsOutput did before s) :
    HoldsOutput did before s' := by
  cases hout with
  | unknown => exact h
  | stale => exact h
  | @merged _ current _ _ _ hcur _ hmerged =>
      obtain ⟨now, hnow, henabled, hpower, hmode⟩ := h
      by_cases hdid : event.deviceId = did
      · subst hdid
        rw [hnow] at hcur
        cases hcur
        obtain ⟨_, _, he, hp, hm, _⟩ := mergeEvent_fields current event
        refine ⟨(mergeEvent current event).1, ?_, he.trans henabled, hp.trans hpower, hm.trans hmode⟩
        rw [hmerged.device, Dict.get?_set_self]
      · refine ⟨now, ?_, henabled, hpower, hmode⟩
        rw [hmerged.device, Dict.get?_set_ne _ _ hdid, hnow]

theorem holdsOutput_step {s : ServiceState} {did : String} {op : ServiceOp}
    {before : DeviceStatePayload} (hinv : ServiceInv cfg s) (hop : Spares did op)
    (hman : before.controlMode = .manualOverride) (h : HoldsOutput did before s) :
    HoldsOutput did before (serviceStep cfg units s op) := by
  cases op with
  | apply groupId command clk =>
      exact holdsOutput_apply (apply_outcome units clk groupId command hinv) hop.not_forces hman h
  | applyDevice deviceId command clk =>
      exact holdsOutput_applyDevice (applyDevice_outcome units clk deviceId command hinv) hop h
  | observe event clk =>
      exact holdsOutput_observe (recordObserverEvent_outcome units clk event hinv) h

/-- The invariant and the override carry a run. -/
theorem holdsOutput_run {did : String} {before : DeviceStatePayload}
    (hman : before.controlMode = .manualOverride) {ops : List ServiceOp} {s : ServiceState}
    (hinv : ServiceInv cfg s) (hops : ∀ op ∈ ops, Spares did op) (h : HoldsOutput did before s) :
    Run.Always (serviceStep cfg units) (HoldsOutput did before) s ops := by
  have hstep : ∀ s op, Spares did op → ServiceInv cfg s ∧ HoldsOutput did before s →
      ServiceInv cfg (serviceStep cfg units s op)
        ∧ HoldsOutput did before (serviceStep cfg units s op) := by
    rintro s op hop ⟨hinv, h⟩
    exact ⟨serviceInv_step s op hinv, holdsOutput_step hinv hop hman h⟩
  exact Run.always_of_each hstep (fun _ h => h.2) (Run.each_of_forall hops) ⟨hinv, h⟩

/-! ## Forcing a group back -/

/-- A forced sync leaves no override behind. -/
theorem forced_members_grouped {s s' : ServiceState} {clk : Clock} {groupId : String}
    {command : GroupCommand} {result : GroupCommandResult} (hinv : ServiceInv cfg s)
    (hout : ApplyOutcome cfg units clk groupId command s (.ok result) s')
    (hnew : s.results.get? command.requestId = none) (haccepted : result.accepted = true)
    (hforce : forcesGroupControl command = true) :
    ∃ g ∈ cfg.groups, g.id = groupId ∧ ∀ did ∈ g.deviceIds,
      ∃ state, s'.deviceStates.get? did = some state ∧ state.controlMode = .group := by
  obtain ⟨g, hg, hid, _, _, _, hacc⟩ := hout.executed hnew haccepted
  refine ⟨g, hg, hid, fun did hdid => ?_⟩
  obtain ⟨m, hm, rfl⟩ := List.mem_map.mp hdid
  obtain ⟨before, hbefore⟩ := hinv.member_present hg hm
  rcases hacc.device_after hbefore with ⟨hnot, _⟩ | ⟨_, _, _, _, target, _, _, hsync⟩
  · exact absurd hdid hnot
  · rw [hforce, afterSync_write (fun _ => rfl)] at hsync
    exact ⟨_, hsync, rfl⟩

/--
**A manual override is sticky, and a forced group has none.**

The three parts in turn: the frame over every run of operations that spare the
device, the effect of a forcing command, and what standalone means.
-/
theorem manual_override_sticky (cfg : AppConfig) (units : UnitSource) :
    (∀ s, Reachable cfg units s → ∀ did before, s.deviceStates.get? did = some before →
      before.controlMode = .manualOverride → ∀ ops : List ServiceOp, (∀ op ∈ ops, Spares did op) →
        Run.Always (serviceStep cfg units) (HoldsOutput did before) s ops)
    ∧ (∀ s, Reachable cfg units s → ∀ groupId command clk result,
      s.results.get? command.requestId = none →
      (apply cfg units clk groupId command s).1 = .ok result → result.accepted = true →
      (command.enabled ≠ none ∨ command.action = some .startFeed
        ∨ command.action = some .emergencyStop ∨ command.action = some .resumeAllMembers) →
      ∃ g ∈ cfg.groups, g.id = groupId ∧ ∀ did ∈ g.deviceIds,
        ∃ state, (apply cfg units clk groupId command s).2.deviceStates.get? did = some state
          ∧ state.controlMode = .group)
    ∧ (∀ s, Reachable cfg units s → ∀ d ∈ cfg.devices,
      ∃ state, s.deviceStates.get? d.id = some state
        ∧ (state.controlMode = .standalone ↔ ∀ g ∈ cfg.groups, d.id ∉ g.deviceIds)) := by
  refine ⟨?_, ?_, ?_⟩
  · intro s hs did before hbefore hman ops hops
    exact holdsOutput_run hman (reachable_inv hs) hops ⟨before, hbefore, rfl, rfl, rfl⟩
  · intro s hs groupId command clk result hnew hresult haccepted hforce
    have hinv := reachable_inv hs
    have hout := apply_outcome units clk groupId command hinv
    rw [hresult] at hout
    exact forced_members_grouped hinv hout hnew haccepted
      (forcesGroupControl_eq_true_iff.mpr hforce)
  · intro s hs d hd
    have hinv := reachable_inv hs
    obtain ⟨state, hstate⟩ := hinv.device_present d hd
    have hdinv := hinv.deviceInv hd hstate
    refine ⟨state, hstate, ?_⟩
    rw [hdinv.standalone, List.eq_nil_iff_forall_not_mem]
    constructor
    · intro h g hg hmem
      exact h g.id (hdinv.mem_groupIds.mpr ⟨g, hg, rfl, hmem⟩)
    · intro h gid hgid
      obtain ⟨g, hg, _, hmem⟩ := hdinv.mem_groupIds.mp hgid
      exact h g hg hmem

/-- The left pump of the tank on its own, then back with its group. -/
def overrideLeft : DeviceCommand :=
  { requestId := "override-1", enabled := some true, power := some 40 }

def resumeAll : GroupCommand :=
  { requestId := "resume-1", action := some .resumeAllMembers }

def overriddenTank : ServiceState :=
  Run.exec (serviceStep reefTank steadyUnits) (startState reefTank steadyUnits (fun _ => 0))
    [.applyDevice "left" overrideLeft (fun _ => 1)]

/-- A group patch leaves the overridden pump alone, and a resume takes it back. -/
theorem manual_override_sticky_reefTank :
    (∃ before, overriddenTank.deviceStates.get? "left" = some before
      ∧ Run.Always (serviceStep reefTank steadyUnits) (HoldsOutput "left" before) overriddenTank
        [.apply "flow" raisePower (fun _ => 2)])
    ∧ ∃ g ∈ reefTank.groups, g.id = "flow" ∧ ∀ did ∈ g.deviceIds, ∃ state,
      (apply reefTank steadyUnits (fun _ => 2) "flow" resumeAll overriddenTank).2.deviceStates.get? did
        = some state ∧ state.controlMode = .group := by
  have hreach : Reachable reefTank steadyUnits overriddenTank :=
    reachable_startState (by decide +kernel) _
  obtain ⟨hsticky, hforced, _⟩ := manual_override_sticky reefTank steadyUnits
  have hleft : (overriddenTank.deviceStates.get? "left").any
      (fun d => d.controlMode = .manualOverride) = true := by decide +kernel
  obtain ⟨before, hbefore, hman⟩ := (Option.any_eq_true ..).mp hleft
  have hsome : ((apply reefTank steadyUnits (fun _ => 2) "flow" resumeAll overriddenTank).1.toOption.any
      (·.accepted)) = true := by decide +kernel
  obtain ⟨result, hresult, haccepted⟩ := (Option.any_eq_true ..).mp hsome
  refine ⟨⟨before, hbefore, hsticky _ hreach "left" before hbefore (of_decide_eq_true hman) _ ?_⟩, ?_⟩
  · intro op hop
    rcases List.mem_singleton.mp hop with rfl
    exact ⟨rfl, by decide, by decide, by decide⟩
  · exact hforced _ hreach "flow" resumeAll (fun _ => 2) result (by decide +kernel)
      (PyError.toOption_eq_some hresult) haccepted (by decide)

end JebaoFlow
