import JebaoFlow.Proof.Changes

/-!
# The pumps of a stopped group

Without observations a stop holds its group's status, and every member of a
stopped group is off and under group control. A device may belong to several
groups, and the sync of one group does not look at the others: what switches such
a pump on again is a command that leaves another of its groups enabled, and
nothing else does.
-/

namespace JebaoFlow

variable {cfg : AppConfig} {units : UnitSource}

/-- Every device of a group in emergency stop is off at power zero. -/
def StoppedPumpsOff (cfg : AppConfig) (s : ServiceState) : Prop :=
  ∀ h ∈ cfg.groups, HasStatus h.id .emergencyStop s → ∀ did ∈ h.deviceIds,
    ∃ state, s.deviceStates.get? did = some state ∧ state.enabled = false ∧ state.power.val = 0

/-- No device of a group in emergency stop is under manual override. -/
def StoppedPumpsGrouped (cfg : AppConfig) (s : ServiceState) : Prop :=
  ∀ h ∈ cfg.groups, HasStatus h.id .emergencyStop s → ∀ did ∈ h.deviceIds,
    ∀ state, s.deviceStates.get? did = some state → state.controlMode ≠ .manualOverride

/-- What the runs without observations keep. -/
structure StoppedInv (cfg : AppConfig) (s : ServiceState) : Prop where
  inv : ServiceInv cfg s
  grouped : StoppedPumpsGrouped cfg s

/-- The operation is a group or device command. -/
def IsCommand : ServiceOp → Prop
  | .observe _ _ => False
  | _ => True

/--
The operation is an executed command that leaves its group enabled while one of
its members belongs to another group in emergency stop.
-/
def Wakes (cfg : AppConfig) (s : ServiceState) : ServiceOp → Prop
  | .apply groupId command _ => ∃ g current, g.id = groupId ∧ Executes cfg s g current command
      ∧ command.action ≠ some .emergencyStop ∧ command.enabled.getD current.enabled = true
      ∧ ∃ h ∈ cfg.groups, g.id ≠ h.id ∧ HasStatus h.id .emergencyStop s
        ∧ ∃ did ∈ g.deviceIds, did ∈ h.deviceIds
  | _ => False

/-- A group that is in emergency stop after a command was stopped by it, or before it. -/
theorem Accepted.stopped_cases {s s' : ServiceState} {g h : GroupConfig}
    {current : GroupStatePayload} {command : GroupCommand} {clk : Clock}
    {result : GroupCommandResult} (hexec : Executes cfg s g current command)
    (hacc : Accepted cfg units clk g current command result s s') (hh : h ∈ cfg.groups)
    (hstop : HasStatus h.id .emergencyStop s') :
    (h = g ∧ command.action = some .emergencyStop)
      ∨ (g.id ≠ h.id ∧ HasStatus h.id .emergencyStop s) := by
  by_cases heq : g.id = h.id
  · left
    have := AppConfig.group_eq hexec.mem hh heq
    subst this
    obtain ⟨members, hself, _⟩ := hacc.group_self
    obtain ⟨after, hafter, hstatus⟩ := hstop
    rw [hself] at hafter
    cases hafter
    exact ⟨rfl, hexec.admitted.stopped_iff.mp hstatus⟩
  · exact Or.inr ⟨heq, (hacc.hasStatus_other heq).mp hstop⟩

/-! ## Group control of the members -/

theorem stoppedPumpsGrouped_step {s s' : ServiceState} {op : ServiceOp} (hop : IsCommand op)
    (h : StoppedInv cfg s) (hch : Changed cfg units s op s') : StoppedPumpsGrouped cfg s' := by
  intro g' hg' hstop did hdid after hafter
  cases hch with
  | idle hstates hdevices =>
      rw [hdevices] at hafter
      exact h.grouped g' hg' (hstop.congr hstates.symm) did hdid after hafter
  | @commanded g current command clk result _ hexec hacc =>
      obtain ⟨before, hbefore, ⟨hkept, rfl⟩ | ⟨_, m, hm, hid, target, _, rfl⟩⟩ :=
        hacc.device_before h.inv hexec hafter
      · rcases hacc.stopped_cases hexec hg' hstop with ⟨rfl, haction⟩ | ⟨_, hbefore'⟩
        · -- the stop itself reaches every member
          rcases hkept with hnot | ⟨_, hskip⟩
          · exact absurd hdid hnot
          · exact absurd ((stop_forces haction).symm.trans hskip) Bool.noConfusion
        · exact h.grouped g' hg' hbefore' did hdid _ hbefore
      · -- a member that is synchronised is under group control afterwards
        exact fun hc => DeviceControlMode.noConfusion hc
  | @resumed d current command clk g state targets target result _ hexec _ _ _ _ _ _ hst =>
      have hstop' := (hst.hasStatus_iff h.inv hexec.mem hexec.record rfl).mp hstop
      by_cases hid : d.id = did
      · exact absurd hstop' (hexec.not_stopped h.inv hg' (hid ▸ hdid))
      · exact h.grouped g' hg' hstop' did hdid after ((hst.device_other hid).symm.trans hafter)
  | @overridden d current command clk result _ hexec _ hst =>
      have hstop' := (hst.hasStatus_iff h.inv hexec.mem hexec.record rfl).mp hstop
      by_cases hid : d.id = did
      · exact absurd hstop' (hexec.not_stopped h.inv hg' (hid ▸ hdid))
      · exact h.grouped g' hg' hstop' did hdid after ((hst.device_other hid).symm.trans hafter)
  | observed => exact absurd hop (fun hc => hc)

/-! ## One step -/

/-- A command that wakes writes an enabled record to a device that must stay off. -/
theorem Wakes.not_off {s s' : ServiceState} {op : ServiceOp} (hinv : StoppedInv cfg s)
    (hch : Changed cfg units s op s') (hw : Wakes cfg s op) : ¬ StoppedPumpsOff cfg s' := by
  intro hoff
  cases hch with
  | idle _ _ hidle =>
      cases op with
      | apply groupId command clk =>
          obtain ⟨g, current, hid, hexec, _⟩ := hw
          exact hidle ⟨g, current, hid, hexec⟩
      | applyDevice => exact hw
      | observe => exact hw
  | @commanded g current command clk result _ hexec hacc =>
      obtain ⟨g₁, current₁, hid, hexec₁, haction, henabled, h, hh, hne, hstop, did, hdid, hdid'⟩ := hw
      obtain ⟨rfl, rfl⟩ := hexec₁.unique hexec hid
      obtain ⟨m, hm, rfl⟩ := List.mem_map.mp hdid
      obtain ⟨before, _, target, hbefore, _, _, _, hafter⟩ := hacc.member_after hinv.inv hexec hm
      rw [afterSync_write (fun hman => absurd hman
        (hinv.grouped h hh hstop m.device hdid' before hbefore))] at hafter
      obtain ⟨state, hstate, hfalse, _⟩ :=
        hoff h hh ((hacc.hasStatus_other hne).mpr hstop) m.device hdid'
      rw [hafter] at hstate
      cases hstate
      have hon := patched_enabled_iff.mpr ⟨haction, henabled⟩
      exact absurd (hon.symm.trans hfalse) (fun hc => Bool.noConfusion hc)
  | resumed => exact hw
  | overridden => exact hw
  | observed => exact hw

/-- Every other command keeps the pumps of stopped groups off. -/
theorem stoppedPumpsOff_step {s s' : ServiceState} {op : ServiceOp} (hop : IsCommand op)
    (hinv : StoppedInv cfg s) (hch : Changed cfg units s op s') (hoff : StoppedPumpsOff cfg s)
    (hw : ¬ Wakes cfg s op) : StoppedPumpsOff cfg s' := by
  intro h hh hstop did hdid
  cases hch with
  | idle hstates hdevices =>
      rw [hdevices]
      exact hoff h hh (hstop.congr hstates.symm) did hdid
  | @commanded g current command clk result _ hexec hacc =>
      -- a member of the commanded group that is written is written off
      have hmember : ∀ m ∈ g.members, m.device = did →
          (patched current command).enabled = false →
          (∀ before, s.deviceStates.get? m.device = some before →
            before.controlMode = .manualOverride → forcesGroupControl command = true) →
          ∃ state, s'.deviceStates.get? did = some state ∧ state.enabled = false
            ∧ state.power.val = 0 := by
        intro m hm hid henabled hwrite
        obtain ⟨before, _, target, hbefore, _, _, hdue, hafter⟩ :=
          hacc.member_after hinv.inv hexec hm
        rw [afterSync_write (hwrite before hbefore), hid] at hafter
        refine ⟨_, hafter, henabled, hdue.off ?_⟩
        rw [hdue.enabled_eq, henabled, Bool.false_and]
      rcases hacc.stopped_cases hexec hh hstop with ⟨rfl, haction⟩ | ⟨hne, hstop'⟩
      · obtain ⟨m, hm, hid⟩ := List.mem_map.mp hdid
        have henabled : (patched current command).enabled = false := by
          rw [patched_enabled, if_pos haction]
        exact hmember m hm hid henabled (fun _ _ _ => stop_forces haction)
      · by_cases hmem : did ∈ g.deviceIds
        · obtain ⟨m, hm, hid⟩ := List.mem_map.mp hmem
          refine hmember m hm hid ?_ (fun before hbefore hman => ?_)
          · by_contra hon
            obtain ⟨haction, henabled⟩ := patched_enabled_iff.mp (Bool.not_eq_false _ ▸ hon)
            exact hw ⟨g, current, rfl, hexec, haction, henabled, h, hh, hne, hstop', did, hmem, hdid⟩
          · exact absurd hman (hinv.grouped h hh hstop' did hdid before (hid ▸ hbefore))
        · rw [hacc.frame did hmem]
          exact hoff h hh hstop' did hdid
  | @resumed d current command clk g state targets target result _ hexec _ _ _ _ _ _ hst =>
      have hstop' := (hst.hasStatus_iff hinv.inv hexec.mem hexec.record rfl).mp hstop
      have hid : d.id ≠ did := fun hid =>
        absurd hstop' (hexec.not_stopped hinv.inv hh (hid ▸ hdid))
      rw [hst.device_other hid]
      exact hoff h hh hstop' did hdid
  | @overridden d current command clk result _ hexec _ hst =>
      have hstop' := (hst.hasStatus_iff hinv.inv hexec.mem hexec.record rfl).mp hstop
      have hid : d.id ≠ did := fun hid =>
        absurd hstop' (hexec.not_stopped hinv.inv hh (hid ▸ hdid))
      rw [hst.device_other hid]
      exact hoff h hh hstop' did hdid
  | observed => exact absurd hop (fun hc => hc)

/-! ## Runs of commands -/

theorem stoppedInv_step (s : ServiceState) (op : ServiceOp) (hop : IsCommand op)
    (h : StoppedInv cfg s) : StoppedInv cfg (serviceStep cfg units s op) :=
  ⟨serviceInv_step s op h.inv, stoppedPumpsGrouped_step hop h (changed_step units h.inv op)⟩

/-- A control-mode service starts with no group in emergency stop. -/
theorem Started.not_stopped {clk : Clock} {s : ServiceState} (h : Started cfg units clk s)
    {g : GroupConfig} (hg : g ∈ cfg.groups) : ¬ HasStatus g.id .emergencyStop s := by
  rintro ⟨state, hstate, hstop⟩
  rw [(h.group g hg state hstate).1.status] at hstop
  split at hstop
  · exact GroupState.noConfusion hstop
  · split at hstop
    · exact GroupState.noConfusion hstop
    · exact GroupState.noConfusion hstop

/--
**The pumps of stopped groups stay off exactly as long as nothing wakes them.**

Along any run of group and device commands from a fresh service, every device of
a group in emergency stop is off at power zero at every point, if and only if no
executed command leaves a group enabled that shares a device with another group
in emergency stop.
-/
theorem stopped_pumps_off_iff {clk : Clock} {s₀ : ServiceState} {ops : List ServiceOp}
    (hinit : GroupControlService.init cfg units clk = .ok s₀) (hops : ∀ op ∈ ops, IsCommand op) :
    Run.Always (serviceStep cfg units) (StoppedPumpsOff cfg) s₀ ops
      ↔ Run.Each (serviceStep cfg units) (fun s op => ¬ Wakes cfg s op) s₀ ops := by
  have hstart := init_started hinit
  have hnone : ∀ g ∈ cfg.groups, ¬ HasStatus g.id .emergencyStop s₀ := fun g hg =>
    hstart.not_stopped hg
  refine Run.always_iff_each (fun s op hop h => stoppedInv_step s op hop h) ?_
    (Run.each_of_forall hops) ⟨hstart.inv, fun g hg hstop => absurd hstop (hnone g hg)⟩
    (fun g hg hstop => absurd hstop (hnone g hg))
  intro s op hop hinv hoff
  have hch := changed_step units hinv.inv op
  exact ⟨fun hoff' hw => hw.not_off hinv hch hoff', stoppedPumpsOff_step hop hinv hch hoff⟩

/-- A second group over the right pump of the tank. -/
def nightFlow : GroupConfig where
  id := "night"
  name := "Night"
  members := [.plain "right"]
  default := flowDefaults

def sharedTank : AppConfig := tankOf [reefFlow, nightFlow] (by decide) (by decide) (by decide)

/-- The start of the tank with a shared pump. -/
def sharedStart : ServiceState := startState sharedTank steadyUnits (fun _ => 0)

def raiseNight : GroupCommand :=
  { raisePower with requestId := "raise-02", requestId_ok := by decide }

/-- A stop with nothing after it wakes no pump. -/
theorem stopped_pumps_off_iff_sharedTank :
    Run.Always (serviceStep sharedTank steadyUnits) (StoppedPumpsOff sharedTank) sharedStart
      [.apply "flow" plainStop (fun _ => 1)] := by
  have hstart : starts sharedTank steadyUnits (fun _ => 0) = true := by decide +kernel
  refine (stopped_pumps_off_iff (startState_eq hstart) ?_).mpr ⟨?_, trivial⟩
  · intro op hop
    rcases List.mem_singleton.mp hop with rfl
    exact trivial
  · rintro ⟨_, _, _, _, haction, _⟩
    exact haction rfl

/--
**A patch of one group switches on a pump that another group has stopped.** The
second group shares the right pump and stays enabled; raising its power writes the
pump on while the first group is still in emergency stop.
-/
theorem stopped_pump_runs_sharedTank :
    GroupControlService.init sharedTank steadyUnits (fun _ => 0) = .ok sharedStart
      ∧ (∀ op ∈ [ServiceOp.apply "flow" plainStop (fun _ => 1),
          .apply "night" raiseNight (fun _ => 2)], IsCommand op)
      ∧ ¬ Run.Always (serviceStep sharedTank steadyUnits) (StoppedPumpsOff sharedTank) sharedStart
          [.apply "flow" plainStop (fun _ => 1), .apply "night" raiseNight (fun _ => 2)] := by
  have hstart : starts sharedTank steadyUnits (fun _ => 0) = true := by decide +kernel
  refine ⟨startState_eq hstart, ?_, fun halways => ?_⟩
  · intro op hop
    rcases List.mem_cons.mp hop with rfl | hop
    · exact trivial
    · rcases List.mem_singleton.mp hop with rfl
      exact trivial
  · have hlast := halways.last
    have hstatus : ((Run.exec (serviceStep sharedTank steadyUnits) sharedStart
        [.apply "flow" plainStop (fun _ => 1), .apply "night" raiseNight (fun _ => 2)]).states.get?
          "flow").any (fun g => g.status = .emergencyStop) = true := by decide +kernel
    have hright : ((Run.exec (serviceStep sharedTank steadyUnits) sharedStart
        [.apply "flow" plainStop (fun _ => 1), .apply "night" raiseNight (fun _ => 2)]).deviceStates.get?
          "right").map (·.enabled) = some true := by decide +kernel
    obtain ⟨group, hgroup, hstop⟩ := (Option.any_eq_true ..).mp hstatus
    obtain ⟨state, hstate, hoff, _⟩ := hlast reefFlow (List.mem_cons_self ..)
      ⟨group, hgroup, of_decide_eq_true hstop⟩ "right" (by decide)
    rw [hstate, Option.map_some, hoff] at hright
    cases hright

end JebaoFlow
