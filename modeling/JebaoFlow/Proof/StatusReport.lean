import JebaoFlow.Proof.StoppedPumps

/-!
# What a group's status says about its pumps

`STOPPED` and `EMERGENCY_STOP` are read as "nothing runs", `RUNNING` as "the group
is on". The status is derived from the action of a command while the enabled flag
is patched on its own, so a command can separate the two; and the sync of one
group can switch on a pump whose other group is halted. These are the only ways,
the configuration of the start apart.
-/

namespace JebaoFlow

variable {cfg : AppConfig} {units : UnitSource}

/-- The statuses that say that nothing runs. -/
def GroupState.IsHalted (status : GroupState) : Prop :=
  status = .stopped ∨ status = .emergencyStop

/-- The status of one group agrees with its enabled flag and its group-mode members. -/
structure ReportsPumps (g : GroupConfig) (state : GroupStatePayload) (s : ServiceState) :
    Prop where
  halted : state.status.IsHalted → state.enabled = false
  members : state.status.IsHalted → ∀ did ∈ g.deviceIds, ∀ device,
    s.deviceStates.get? did = some device → device.controlMode = .group → device.enabled = false
  running : state.status = .running → state.enabled = true

/-- No group misreports its pumps. -/
def StatusTruthful (cfg : AppConfig) (s : ServiceState) : Prop :=
  ∀ g ∈ cfg.groups, ∀ state, s.states.get? g.id = some state → ReportsPumps g state s

/-- The group is halted. -/
def Halted (gid : String) (s : ServiceState) : Prop :=
  ∃ state, s.states.get? gid = some state ∧ state.status.IsHalted

/-- A command writes a member record unless it is overridden and the command does not force. -/
def Writes (s : ServiceState) (command : GroupCommand) (did : String) : Prop :=
  ∀ before, s.deviceStates.get? did = some before → before.controlMode = .manualOverride →
    forcesGroupControl command = true

theorem writes_of_before {s : ServiceState} {command : GroupCommand} {did : String}
    {before : DeviceStatePayload} (hbefore : s.deviceStates.get? did = some before)
    (hforce : before.controlMode = .manualOverride → forcesGroupControl command = true) :
    Writes s command did := by
  intro before' hbefore'
  cases hbefore.symm.trans hbefore'
  exact hforce

/-- The command leaves a status that contradicts its own enabled flag. -/
def Contradicts (current : GroupStatePayload) (command : GroupCommand) : Prop :=
  (command.action = some .clearEmergency ∧ command.enabled.getD current.enabled = true)
    ∨ (command.action = some .resumeAllMembers ∧ current.status = .stopped
      ∧ command.enabled.getD current.enabled = true)
    ∨ (command.action = some .resumeAllMembers ∧ current.status = .running
      ∧ command.enabled.getD current.enabled = false)

/-- The operation is an executed command after which some group misreports its pumps. -/
def Misleads (cfg : AppConfig) (s : ServiceState) : ServiceOp → Prop
  | .apply groupId command _ => ∃ g current, g.id = groupId ∧ Executes cfg s g current command
      ∧ (Contradicts current command
        ∨ (command.action ≠ some .emergencyStop ∧ command.enabled.getD current.enabled = true
          ∧ ∃ h ∈ cfg.groups, g.id ≠ h.id ∧ Halted h.id s
            ∧ ∃ did ∈ g.deviceIds, did ∈ h.deviceIds ∧ Writes s command did))
  | .applyDevice deviceId command _ => ∃ d current, d.id = deviceId
      ∧ DeviceExecutes cfg s d current command ∧ command.action = some .resumeGroup
      ∧ ∃ g ∈ cfg.groups, current.groupIds.head? = some g.id
        ∧ (∃ state, s.states.get? g.id = some state ∧ state.enabled = true)
        ∧ (∃ m ∈ g.members, m.device = d.id ∧ m.enabled = true)
        ∧ ∃ h ∈ cfg.groups, d.id ∈ h.deviceIds ∧ Halted h.id s
  | .observe _ _ => False

/-! ## Status and enabled flag of one command -/

theorem patched_halted {current : GroupStatePayload} {command : GroupCommand}
    (hadm : Admitted cfg current command) (hc : ¬ Contradicts current command)
    (hstatus : (patched current command).status.IsHalted) :
    (patched current command).enabled = false := by
  rw [Bool.eq_false_iff]
  intro hon
  obtain ⟨haction, henabled⟩ := patched_enabled_iff.mp hon
  unfold GroupState.IsHalted at hstatus
  rw [patched_status] at hstatus
  cases ha : command.action with
  | none =>
      rw [ha, henabled] at hstatus
      rcases hstatus with h | h
      · exact GroupState.noConfusion h
      · exact GroupState.noConfusion h
  | some action =>
      rw [ha] at hstatus
      cases action with
      | startFeed =>
          rcases hstatus with h | h
          · exact GroupState.noConfusion h
          · exact GroupState.noConfusion h
      | stopFeed =>
          rw [henabled] at hstatus
          rcases hstatus with h | h
          · exact GroupState.noConfusion h
          · exact GroupState.noConfusion h
      | emergencyStop => exact haction ha
      | clearEmergency => exact hc (Or.inl ⟨ha, henabled⟩)
      | resumeAllMembers =>
          rcases hstatus with h | h
          · exact hc (Or.inr (Or.inl ⟨ha, h, henabled⟩))
          · have hlock := hadm.lock h
            rw [ha] at hlock
            cases hlock

theorem patched_running {current : GroupStatePayload} {command : GroupCommand}
    (hc : ¬ Contradicts current command)
    (hstatus : (patched current command).status = .running) :
    (patched current command).enabled = true := by
  rw [patched_status] at hstatus
  rw [patched_enabled_iff]
  cases ha : command.action with
  | none =>
      rw [ha] at hstatus
      refine ⟨(fun h => nomatch h), ?_⟩
      by_contra hoff
      rw [Bool.not_eq_true] at hoff
      rw [hoff] at hstatus
      exact GroupState.noConfusion hstatus
  | some action =>
      rw [ha] at hstatus
      cases action with
      | startFeed => exact GroupState.noConfusion hstatus
      | stopFeed =>
          refine ⟨(fun h => nomatch h), ?_⟩
          by_contra hoff
          rw [Bool.not_eq_true] at hoff
          rw [hoff] at hstatus
          exact GroupState.noConfusion hstatus
      | emergencyStop => exact GroupState.noConfusion hstatus
      | clearEmergency => exact GroupState.noConfusion hstatus
      | resumeAllMembers =>
          refine ⟨(fun h => nomatch h), ?_⟩
          by_contra hoff
          rw [Bool.not_eq_true] at hoff
          exact hc (Or.inr (Or.inr ⟨ha, hstatus, hoff⟩))

/-- A contradicting command leaves a record that misreports. -/
theorem Contradicts.not_reports {current : GroupStatePayload} {command : GroupCommand}
    {members : Dict String GroupMemberState} {g : GroupConfig} {s : ServiceState}
    (hc : Contradicts current command) :
    ¬ ReportsPumps g { patched current command with members } s := by
  intro hrep
  have hstatus := patched_status current command
  rcases hc with ⟨ha, hon⟩ | ⟨ha, hst, hon⟩ | ⟨ha, hst, hoff⟩
  · rw [ha] at hstatus
    have hfalse : (patched current command).enabled = false := hrep.halted (Or.inl hstatus)
    have htrue := patched_enabled_iff.mpr ⟨(by rw [ha]; exact fun h => nomatch h), hon⟩
    exact Bool.noConfusion (htrue.symm.trans hfalse)
  · rw [ha] at hstatus
    have hfalse : (patched current command).enabled = false :=
      hrep.halted (Or.inl (hstatus.trans hst))
    have htrue := patched_enabled_iff.mpr ⟨(by rw [ha]; exact fun h => nomatch h), hon⟩
    exact Bool.noConfusion (htrue.symm.trans hfalse)
  · rw [ha] at hstatus
    have htrue : (patched current command).enabled = true := hrep.running (hstatus.trans hst)
    rw [(patched_enabled_iff.mp htrue).2] at hoff
    exact Bool.noConfusion hoff

/-! ## One step -/

theorem ReportsPumps.congr {g : GroupConfig} {state : GroupStatePayload} {s s' : ServiceState}
    (h : ReportsPumps g state s) (hdevices : s'.deviceStates = s.deviceStates) :
    ReportsPumps g state s' :=
  ⟨h.halted, hdevices ▸ h.members, h.running⟩

/-- A device command that leaves its device off, or overridden, keeps every report. -/
theorem reports_stored {s s' : ServiceState} {d : DeviceConfig} {clk : Clock}
    {current updated : DeviceStatePayload} {result : DeviceCommandResult}
    (hinv : ServiceInv cfg s) (h : StatusTruthful cfg s) (hd : d ∈ cfg.devices)
    (hcur : s.deviceStates.get? d.id = some current)
    (hst : Stored cfg units clk d updated result s s') (hgroups : updated.groupIds = current.groupIds)
    (hsafe : updated.controlMode = .group → updated.enabled = true →
      ∀ g ∈ cfg.groups, d.id ∈ g.deviceIds → ¬ Halted g.id s) : StatusTruthful cfg s' := by
  intro g hg after hafter
  obtain ⟨before, hbefore, hcase⟩ := hst.groups.before (fun gid hgid => by
    obtain ⟨_, _, _, _, st, hst, _⟩ := hinv.named_group (hinv.deviceInv hd hcur) (hgroups ▸ hgid)
    exact ⟨st, hst⟩) hafter
  have hrep := h g hg before hbefore
  -- the group's own fields are the ones it had
  have hfields : after.status = before.status ∧ after.enabled = before.enabled := by
    rcases hcase with ⟨_, rfl⟩ | ⟨_, _, _, _, rfl⟩
    · exact ⟨rfl, rfl⟩
    · exact ⟨rfl, rfl⟩
  obtain ⟨hstatus, henabled⟩ := hfields
  refine ⟨?_, ?_, ?_⟩
  · rw [hstatus, henabled]
    exact hrep.halted
  · rw [hstatus]
    intro hhalted did hdid device hdevice hmode
    by_cases hid : d.id = did
    · subst hid
      rw [hst.device, Dict.get?_set_self] at hdevice
      cases hdevice
      rw [Bool.eq_false_iff]
      intro hon
      exact hsafe hmode hon g hg hdid ⟨before, hbefore, hhalted⟩
    · rw [hst.device_other hid] at hdevice
      exact hrep.members hhalted did hdid device hdevice hmode
  · rw [hstatus, henabled]
    exact hrep.running

theorem statusTruthful_step {s s' : ServiceState} {op : ServiceOp} (hop : IsCommand op)
    (hinv : ServiceInv cfg s) (hch : Changed cfg units s op s') (h : StatusTruthful cfg s)
    (hm : ¬ Misleads cfg s op) : StatusTruthful cfg s' := by
  cases hch with
  | idle hstates hdevices =>
      intro g hg state hstate
      rw [hstates] at hstate
      exact (h g hg state hstate).congr hdevices
  | @commanded g current command clk result _ hexec hacc =>
      have hc : ¬ Contradicts current command := fun hc => hm ⟨g, current, rfl, hexec, Or.inl hc⟩
      intro g' hg' state hstate
      by_cases heq : g.id = g'.id
      · have := AppConfig.group_eq hexec.mem hg' heq
        subst this
        obtain ⟨members, hself, _⟩ := hacc.group_self
        rw [hself] at hstate
        cases hstate
        refine ⟨patched_halted hexec.admitted hc, ?_, patched_running hc⟩
        intro hhalted did hdid device hdevice hmode
        have hoff := patched_halted hexec.admitted hc hhalted
        obtain ⟨before, hbefore, ⟨hnot | ⟨hman, _⟩, rfl⟩ | ⟨_, m, hm', hid, target, hdue, rfl⟩⟩ :=
          hacc.device_before hinv hexec hdevice
        · exact absurd hdid hnot
        · rw [hman] at hmode
          exact DeviceControlMode.noConfusion hmode
        · exact hoff
      · rw [hacc.group_other heq] at hstate
        have hrep := h g' hg' state hstate
        refine ⟨hrep.halted, ?_, hrep.running⟩
        intro hhalted did hdid device hdevice hmode
        obtain ⟨before, hbefore, ⟨_, rfl⟩ | ⟨hforce, m, hm', hid, target, hdue, rfl⟩⟩ :=
          hacc.device_before hinv hexec hdevice
        · exact hrep.members hhalted did hdid _ hbefore hmode
        · -- a shared member that is written takes the enabled flag of the commanded group
          rw [Bool.eq_false_iff]
          intro hon
          obtain ⟨haction, henabled⟩ := patched_enabled_iff.mp hon
          exact hm ⟨g, current, rfl, hexec, Or.inr ⟨haction, henabled, g', hg', heq,
            ⟨state, hstate, hhalted⟩, did, hid ▸ List.mem_map_of_mem hm', hdid,
            writes_of_before hbefore hforce⟩⟩
  | @resumed d current command clk g state targets target result _ hexec haction hg hfirst hstate
      htargets htarget hst =>
      refine reports_stored hinv h hexec.mem hexec.record hst rfl ?_
      intro _ hon g' hg' hmem hhalted
      obtain ⟨hgon, hmon⟩ :=
        (hexec.resumed_enabled_iff hinv hg hfirst hstate htargets htarget).mp hon
      exact hm ⟨d, current, rfl, hexec, haction, g, hg, hfirst, ⟨state, hstate, hgon⟩, hmon, g', hg',
        hmem, hhalted⟩
  | @overridden d current command clk result _ hexec _ hst =>
      refine reports_stored hinv h hexec.mem hexec.record hst rfl ?_
      intro hmode _ g' hg' hmem _
      -- a grouped device is overridden by the patch, a standalone one has no group
      have hgid := (hinv.deviceInv hexec.mem hexec.record).mem_groupIds.mpr ⟨g', hg', rfl, hmem⟩
      have hne : current.groupIds ≠ [] := List.ne_nil_of_mem hgid
      have hman : (patchedDevice current command).controlMode = .manualOverride := if_pos hne
      rw [hman] at hmode
      exact DeviceControlMode.noConfusion hmode
  | observed => exact absurd hop (fun hc => hc)

/-- A misleading operation leaves some group misreporting. -/
theorem Misleads.not_truthful {s s' : ServiceState} {op : ServiceOp} (hinv : ServiceInv cfg s)
    (hch : Changed cfg units s op s') (hm : Misleads cfg s op) : ¬ StatusTruthful cfg s' := by
  intro htrue
  cases hch with
  | idle _ _ hidle =>
      cases op with
      | apply groupId command clk =>
          obtain ⟨g, current, hid, hexec, _⟩ := hm
          exact hidle ⟨g, current, hid, hexec⟩
      | applyDevice deviceId command clk =>
          obtain ⟨d, current, hid, hexec, _⟩ := hm
          exact hidle ⟨d, current, hid, hexec⟩
      | observe => exact hm
  | @commanded g current command clk result _ hexec hacc =>
      obtain ⟨g₁, current₁, hid, hexec₁, hbad⟩ := hm
      obtain ⟨rfl, rfl⟩ := hexec₁.unique hexec hid
      rcases hbad with hc | ⟨haction, henabled, h, hh, hne, ⟨state, hstate, hhalted⟩, did, hdid,
        hdid', hwrites⟩
      · obtain ⟨members, hself, _⟩ := hacc.group_self
        exact hc.not_reports (htrue _ hexec.mem _ hself)
      · obtain ⟨m, hm, rfl⟩ := List.mem_map.mp hdid
        obtain ⟨before, _, target, hbefore, _, _, _, hafter⟩ := hacc.member_after hinv hexec hm
        rw [afterSync_write (hwrites before hbefore)] at hafter
        have hfalse := (htrue h hh state ((hacc.group_other hne).trans hstate)).members hhalted
          m.device hdid' _ hafter rfl
        have hon := patched_enabled_iff.mpr ⟨haction, henabled⟩
        exact Bool.noConfusion (hon.symm.trans hfalse)
  | @resumed d current command clk g state targets target result _ hexec haction hg hfirst hstate
      htargets htarget hst =>
      obtain ⟨d₁, current₁, hid, hexec₁, _, g₁, hg₁, hfirst₁, ⟨state₁, hstate₁, hgon⟩, hmon, h, hh,
        hmem, after, hafter, hhalted⟩ := hm
      obtain ⟨rfl, rfl⟩ := hexec₁.unique hexec hid
      have hon : target.enabled = true := by
        cases AppConfig.group_eq hg hg₁ (Option.some.inj (hfirst.symm.trans hfirst₁))
        cases hstate.symm.trans hstate₁
        exact (hexec.resumed_enabled_iff hinv hg hfirst hstate htargets htarget).mpr ⟨hgon, hmon⟩
      -- the halted group keeps its status and sees the device running
      obtain ⟨after', hafter', hstatus⟩ := (hst.hasStatus_iff hinv hexec.mem hexec.record rfl).mpr
        ⟨after, hafter, rfl⟩
      have hfalse := (htrue h hh after' hafter').members (hstatus ▸ hhalted) d₁.id hmem
        (resumedDevice current₁ target command) (by rw [hst.device, Dict.get?_set_self]) rfl
      exact Bool.noConfusion (hon.symm.trans hfalse)
  | @overridden d current command clk result _ hexec haction hst =>
      obtain ⟨_, _, _, _, haction', _⟩ := hm
      exact haction haction'
  | observed => exact hm

/-! ## Runs of commands -/

/-- No device starts enabled by one group while another of its groups starts disabled. -/
def StartsTruthful (cfg : AppConfig) : Prop :=
  ∀ g ∈ cfg.groups, g.enabled = false → ∀ did ∈ g.deviceIds, ∀ h,
    (cfg.groupsOf did).head? = some h → h.enabled = false

/-- A group of a control-mode service starts halted exactly when it is configured disabled. -/
theorem Configured.halted_iff {g : GroupConfig} {state : GroupStatePayload}
    (hmode : cfg.runtime.mode = .control) (hc : Configured cfg g state) :
    state.status.IsHalted ↔ g.enabled = false := by
  unfold GroupState.IsHalted
  rw [hc.status, hmode, if_neg (fun h => RuntimeMode.noConfusion h)]
  cases g.enabled with
  | true =>
      refine ⟨fun h => ?_, fun h => Bool.noConfusion h⟩
      rcases h with h | h
      · exact GroupState.noConfusion h
      · exact GroupState.noConfusion h
  | false => exact ⟨fun _ => rfl, fun _ => Or.inl rfl⟩

theorem started_truthful_iff {clk : Clock} {s₀ : ServiceState}
    (hmode : cfg.runtime.mode = .control) (hstart : Started cfg units clk s₀) :
    StatusTruthful cfg s₀ ↔ StartsTruthful cfg := by
  -- the record of a grouped device repeats its first group's flag
  have hdevice : ∀ g ∈ cfg.groups, ∀ did ∈ g.deviceIds, ∃ h device,
      (cfg.groupsOf did).head? = some h ∧ s₀.deviceStates.get? did = some device
        ∧ device.controlMode = .group ∧ device.enabled = h.enabled := by
    intro g hg did hdid
    obtain ⟨m, hm, rfl⟩ := List.mem_map.mp hdid
    obtain ⟨d, hd, hid, _⟩ := AppConfig.deviceConfig_member hg hm
    obtain ⟨device, hget⟩ := hstart.inv.device_present d hd
    have hwith := hstart.device d hd device hget
    rw [hid] at hget
    unfold StartsWith at hwith
    rw [hid] at hwith
    cases hgroups : cfg.groupsOf m.device with
    | nil =>
        have hmem := AppConfig.mem_groupsOf.mpr ⟨hg, hdid⟩
        rw [hgroups] at hmem
        exact absurd hmem List.not_mem_nil
    | cons h rest =>
        rw [hgroups] at hwith
        exact ⟨h, device, rfl, hget, hwith.2.1, hwith.1⟩
  constructor
  · intro htrue g hg hdis did hdid h hfirst
    obtain ⟨state, hstate⟩ := hstart.inv.group_present g hg
    obtain ⟨hc, _⟩ := hstart.group g hg state hstate
    obtain ⟨h', device, hfirst', hget, hgroup, henabled⟩ := hdevice g hg did hdid
    rw [hfirst] at hfirst'
    cases hfirst'
    have hoff := (htrue g hg state hstate).members ((hc.halted_iff hmode).mpr hdis) did hdid device
      hget hgroup
    exact henabled.symm.trans hoff
  · intro hconf g hg state hstate
    obtain ⟨hc, _⟩ := hstart.group g hg state hstate
    refine ⟨fun hhalted => ?_, fun hhalted did hdid device hget _ => ?_, fun hrunning => ?_⟩
    · rw [hc.enabled]
      exact (hc.halted_iff hmode).mp hhalted
    · obtain ⟨h, device', hfirst, hget', _, henabled⟩ := hdevice g hg did hdid
      rw [hget] at hget'
      cases hget'
      exact henabled.trans (hconf g hg ((hc.halted_iff hmode).mp hhalted) did hdid h hfirst)
    · rw [hc.enabled]
      by_contra hoff
      rw [Bool.not_eq_true] at hoff
      rcases (hc.halted_iff hmode).mpr hoff with h | h
      · exact GroupState.noConfusion (hrunning.symm.trans h)
      · exact GroupState.noConfusion (hrunning.symm.trans h)

/--
**No group misreports its pumps exactly when it starts right and nothing misleads.**

Along any run of group and device commands from a fresh service in control mode,
every status agrees with the pumps at every point if and only if the start is
free of a shared device that one group enables and another does not, and no
executed command contradicts itself or switches on a pump of another halted group.
-/
theorem status_truthful_iff {clk : Clock} {s₀ : ServiceState} {ops : List ServiceOp}
    (hmode : cfg.runtime.mode = .control)
    (hinit : GroupControlService.init cfg units clk = .ok s₀) (hops : ∀ op ∈ ops, IsCommand op) :
    Run.Always (serviceStep cfg units) (StatusTruthful cfg) s₀ ops
      ↔ StartsTruthful cfg
        ∧ Run.Each (serviceStep cfg units) (fun s op => ¬ Misleads cfg s op) s₀ ops := by
  have hstart := init_started hinit
  have hfirst := started_truthful_iff hmode hstart
  have hrun : StatusTruthful cfg s₀ → (Run.Always (serviceStep cfg units) (StatusTruthful cfg) s₀ ops
      ↔ Run.Each (serviceStep cfg units) (fun s op => ¬ Misleads cfg s op) s₀ ops) := by
    refine Run.always_iff_each (fun s op _ h => serviceInv_step s op h) ?_
      (Run.each_of_forall hops) hstart.inv
    intro s op hop hinv htrue
    have hch := changed_step units hinv op
    exact ⟨fun h hm => hm.not_truthful hinv hch h, statusTruthful_step hop hinv hch htrue⟩
  constructor
  · intro h
    exact ⟨hfirst.mp h.head, (hrun h.head).mp h⟩
  · rintro ⟨hconf, heach⟩
    exact (hrun (hfirst.mpr hconf)).mpr heach

/-- Switching the tank off is reported as it is. -/
theorem status_truthful_iff_reefTank :
    Run.Always (serviceStep reefTank steadyUnits) (StatusTruthful reefTank)
      (startState reefTank steadyUnits (fun _ => 0))
      [.apply "flow" { requestId := "off-0001", enabled := some false } (fun _ => 1)] := by
  have hstart : starts reefTank steadyUnits (fun _ => 0) = true := by decide +kernel
  refine (status_truthful_iff rfl (startState_eq hstart) ?_).mpr ⟨?_, ?_, trivial⟩
  · intro op hop
    rcases List.mem_singleton.mp hop with rfl
    exact trivial
  · intro g hg hdis
    rcases List.mem_singleton.mp hg with rfl
    exact absurd hdis (fun h => Bool.noConfusion h)
  · rintro ⟨_, _, _, _, hc | ⟨_, hon, _⟩⟩
    · rcases hc with ⟨h, _⟩ | ⟨h, _⟩ | ⟨h, _⟩
      · exact nomatch h
      · exact nomatch h
      · exact nomatch h
    · exact Bool.noConfusion hon

/--
**Clearing a group that is not stopped makes it look stopped.** The status becomes
`STOPPED` while the group stays enabled and its pumps keep their desired output.
-/
theorem status_misreported_reefTank :
    GroupControlService.init reefTank steadyUnits (fun _ => 0)
        = .ok (startState reefTank steadyUnits (fun _ => 0))
      ∧ ¬ Run.Always (serviceStep reefTank steadyUnits) (StatusTruthful reefTank)
          (startState reefTank steadyUnits (fun _ => 0))
          [.apply "flow" { requestId := "clear-01", action := some .clearEmergency } (fun _ => 1)] := by
  have hstart : starts reefTank steadyUnits (fun _ => 0) = true := by decide +kernel
  refine ⟨startState_eq hstart, fun halways => ?_⟩
  have hlast := halways.last
  have hflow : ((Run.exec (serviceStep reefTank steadyUnits)
      (startState reefTank steadyUnits (fun _ => 0))
      [.apply "flow" { requestId := "clear-01", action := some .clearEmergency }
        (fun _ => 1)]).states.get? "flow").any
        (fun g => g.status = .stopped && g.enabled) = true := by decide +kernel
  obtain ⟨state, hstate, hboth⟩ := (Option.any_eq_true ..).mp hflow
  rw [Bool.and_eq_true, decide_eq_true_eq] at hboth
  have hoff := (hlast reefFlow (List.mem_singleton.mpr rfl) state hstate).halted (Or.inl hboth.1)
  rw [hboth.2] at hoff
  exact Bool.noConfusion hoff

end JebaoFlow
