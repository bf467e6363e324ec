import JebaoFlow.Proof.Start

/-!
# What a step changes

The outcomes of the three operations, reduced to what they do to the group and
device records. Calls that are replayed or refused change none of them;
an executed group command rewrites its group and the members the sync does not
skip; an executed device command rewrites one device and the records of its
groups.
-/

namespace JebaoFlow

variable {cfg : AppConfig} {units : UnitSource}

/-- The group command is executed: new and admitted. -/
structure Executes (cfg : AppConfig) (s : ServiceState) (g : GroupConfig)
    (current : GroupStatePayload) (command : GroupCommand) : Prop where
  new : s.results.get? command.requestId = none
  mem : g ∈ cfg.groups
  record : s.states.get? g.id = some current
  admitted : Admitted cfg current command

/-- The device command is executed: new and admitted. -/
structure DeviceExecutes (cfg : AppConfig) (s : ServiceState) (d : DeviceConfig)
    (current : DeviceStatePayload) (command : DeviceCommand) : Prop where
  new : s.deviceResults.get? command.requestId = none
  mem : d ∈ cfg.devices
  record : s.deviceStates.get? d.id = some current
  admitted : DeviceAdmitted cfg s d current command

/-- The command of the operation is executed in this state. -/
def Acts (cfg : AppConfig) (s : ServiceState) : ServiceOp → Prop
  | .apply groupId command _ => ∃ g current, g.id = groupId ∧ Executes cfg s g current command
  | .applyDevice deviceId command _ =>
      ∃ d current, d.id = deviceId ∧ DeviceExecutes cfg s d current command
  | .observe _ _ => False

/-- A call executes in one group with one record. -/
theorem Executes.unique {s : ServiceState} {g h : GroupConfig} {current before : GroupStatePayload}
    {command : GroupCommand} (hg : Executes cfg s g current command)
    (hh : Executes cfg s h before command) (hid : g.id = h.id) : g = h ∧ current = before := by
  have heq := AppConfig.group_eq hg.mem hh.mem hid
  subst heq
  exact ⟨rfl, Option.some.inj (hg.record.symm.trans hh.record)⟩

theorem DeviceExecutes.unique {s : ServiceState} {d e : DeviceConfig}
    {current before : DeviceStatePayload} {command : DeviceCommand}
    (hd : DeviceExecutes cfg s d current command) (he : DeviceExecutes cfg s e before command)
    (hid : d.id = e.id) : d = e ∧ current = before := by
  have heq := AppConfig.device_eq hd.mem he.mem hid
  subst heq
  exact ⟨rfl, Option.some.inj (hd.record.symm.trans he.record)⟩

inductive Changed (cfg : AppConfig) (units : UnitSource) (s : ServiceState) :
    ServiceOp → ServiceState → Prop where
  | idle {op : ServiceOp} {s' : ServiceState} (hstates : s'.states = s.states)
      (hdevices : s'.deviceStates = s.deviceStates) (hidle : ¬ Acts cfg s op) :
      Changed cfg units s op s'
  | commanded {g : GroupConfig} {current : GroupStatePayload} {command : GroupCommand}
      {clk : Clock} {result : GroupCommandResult} {s' : ServiceState}
      (hexec : Executes cfg s g current command)
      (hacc : Accepted cfg units clk g current command result s s') :
      Changed cfg units s (.apply g.id command clk) s'
  | resumed {d : DeviceConfig} {current : DeviceStatePayload} {command : DeviceCommand}
      {clk : Clock} {g : GroupConfig} {state : GroupStatePayload}
      {targets : Dict String DeviceTarget} {target : DeviceTarget} {result : DeviceCommandResult}
      {s' : ServiceState} (hexec : DeviceExecutes cfg s d current command)
      (haction : command.action = some .resumeGroup)
      (hg : g ∈ cfg.groups) (hfirst : current.groupIds.head? = some g.id)
      (hstate : s.states.get? g.id = some state)
      (htargets : calculateTargets cfg units (clk 0) state = .ok targets)
      (htarget : targets.get? d.id = some target)
      (hst : Stored cfg units clk d (resumedDevice current target command) result s s') :
      Changed cfg units s (.applyDevice d.id command clk) s'
  | overridden {d : DeviceConfig} {current : DeviceStatePayload} {command : DeviceCommand}
      {clk : Clock} {result : DeviceCommandResult} {s' : ServiceState}
      (hexec : DeviceExecutes cfg s d current command)
      (haction : command.action ≠ some .resumeGroup)
      (hst : Stored cfg units clk d (patchedDevice current command) result s s') :
      Changed cfg units s (.applyDevice d.id command clk) s'
  | observed {event : ObserverEvent} {d : DeviceConfig} {current : DeviceStatePayload}
      {clk : Clock} {s' : ServiceState} (hd : d ∈ cfg.devices) (hid : d.id = event.deviceId)
      (hcur : s.deviceStates.get? event.deviceId = some current)
      (hmerged : Merged cfg units clk event current s s') :
      Changed cfg units s (.observe event clk) s'

theorem ApplyOutcome.changed {s s' : ServiceState} {clk : Clock} {groupId : String}
    {command : GroupCommand} {r : Except PyError GroupCommandResult}
    (hout : ApplyOutcome cfg units clk groupId command s r s') :
    Changed cfg units s (.apply groupId command clk) s' := by
  cases hout with
  | replayed hold =>
      refine .idle rfl rfl (fun ⟨_, _, _, h⟩ => ?_)
      rw [h.new] at hold
      cases hold
  | unknown _ hunknown =>
      refine .idle (remember_states ..) (remember_deviceStates ..) (fun ⟨_, _, hid, h⟩ => ?_)
      rw [AppConfig.group?_eq_some_iff.mpr ⟨h.mem, hid⟩] at hunknown
      cases hunknown
  | rejected _ _ _ hcur hreject =>
      refine .idle (remember_states ..) (remember_deviceStates ..) (fun ⟨_, _, hid, h⟩ => ?_)
      have hrec := h.record
      rw [hid, hcur] at hrec
      cases hrec
      rw [rejection_eq_none_iff.mpr h.admitted] at hreject
      cases hreject
  | accepted hnew hg hid hcur hpass hacc =>
      subst hid
      exact .commanded ⟨hnew, hg, hcur, rejection_eq_none_iff.mp hpass⟩ hacc

theorem DeviceOutcome.changed {s s' : ServiceState} {clk : Clock} {deviceId : String}
    {command : DeviceCommand} {r : Except PyError DeviceCommandResult}
    (hout : DeviceOutcome cfg units clk deviceId command s r s') :
    Changed cfg units s (.applyDevice deviceId command clk) s' := by
  cases hout with
  | replayed hold =>
      refine .idle rfl rfl (fun ⟨_, _, _, h⟩ => ?_)
      rw [h.new] at hold
      cases hold
  | unknown _ hunknown =>
      refine .idle (rememberDevice_states ..) (rememberDevice_deviceStates ..)
        (fun ⟨_, _, hid, h⟩ => ?_)
      rw [← hid, h.record] at hunknown
      cases hunknown
  | rejected _ hd hid hcur hreject =>
      refine .idle (rememberDevice_states ..) (rememberDevice_deviceStates ..)
        (fun ⟨_, _, hid', h⟩ => ?_)
      have hrec := h.record
      rw [hid', hcur] at hrec
      cases hrec
      have heq := AppConfig.device_eq hd h.mem (hid.trans hid'.symm)
      exact hreject (heq ▸ h.admitted)
  | resumed hnew hd hid hcur hpass haction hg hfirst hstate htargets htarget hst =>
      subst hid
      exact .resumed ⟨hnew, hd, hcur, hpass⟩ haction hg hfirst hstate htargets htarget hst
  | patched hnew hd hid hcur hpass haction hst =>
      subst hid
      exact .overridden ⟨hnew, hd, hcur, hpass⟩ haction hst

theorem ObserveOutcome.changed {s s' : ServiceState} {clk : Clock} {event : ObserverEvent}
    {r : Except PyError Unit} (hout : ObserveOutcome cfg units clk event s r s') :
    Changed cfg units s (.observe event clk) s' := by
  cases hout with
  | unknown => exact .idle rfl rfl (fun h => h)
  | stale => exact .idle rfl rfl (fun h => h)
  | merged hd hid hcur _ hmerged => exact .observed hd hid hcur hmerged

/-- **Every step is one of the listed changes.** -/
theorem changed_step (units : UnitSource) {s : ServiceState} (hinv : ServiceInv cfg s)
    (op : ServiceOp) : Changed cfg units s op (serviceStep cfg units s op) := by
  cases op with
  | apply groupId command clk => exact (apply_outcome units clk groupId command hinv).changed
  | applyDevice deviceId command clk =>
      exact (applyDevice_outcome units clk deviceId command hinv).changed
  | observe event clk => exact (recordObserverEvent_outcome units clk event hinv).changed

/-! ## The members of a commanded group -/

section Commanded

variable {s s' : ServiceState} {g : GroupConfig} {current : GroupStatePayload}
  {command : GroupCommand} {clk : Clock} {result : GroupCommandResult}

/-- The record of an executed command is well formed, its members pending. -/
theorem Executes.groupInv (hexec : Executes cfg s g current command) (hinv : ServiceInv cfg s) :
    GroupInv cfg g (patched current command) :=
  hexec.admitted.groupInv (hinv.groupInv hexec.mem hexec.record)

/-- The limits in force after the command. -/
def Executes.limits (hexec : Executes cfg s g current command) : PowerLimits :=
  ⟨(patched current command).minPower, (patched current command).maxPower, hexec.admitted.range⟩

/-- **Every member is synchronised with a target that is due to it.** -/
theorem Accepted.member_after (hinv : ServiceInv cfg s) (hexec : Executes cfg s g current command)
    (hacc : Accepted cfg units clk g current command result s s') {m : GroupMember}
    (hm : m ∈ g.members) : ∃ before targets target, s.deviceStates.get? m.device = some before
      ∧ calculateTargets cfg units (clk (syncReading command)) (patched current command) = .ok targets
      ∧ targets.get? m.device = some target
      ∧ target.For m hexec.limits (patched current command).enabled
      ∧ s'.deviceStates.get? m.device = some (afterSync (patched current command)
          (forcesGroupControl command) target.power before) := by
  obtain ⟨before, hbefore⟩ := hinv.member_present hexec.mem hm
  obtain ⟨targets, htargets, hwrite⟩ := hacc.devices
  obtain ⟨targets', htargets', hfor⟩ :=
    (hexec.groupInv hinv).targets units (clk (syncReading command))
  rw [htargets] at htargets'
  cases htargets'
  obtain ⟨target, htarget, hafter⟩ := hwrite m hm before hbefore
  obtain ⟨target', htarget', hdue⟩ := hfor.member m hm
  rw [htarget] at htarget'
  cases htarget'
  exact ⟨before, targets, target, hbefore, htargets, htarget, hdue, hafter⟩

/--
Where a device record after the command comes from: outside the group and
overridden records are as they were, every other one is rewritten.
-/
theorem Accepted.device_before (hinv : ServiceInv cfg s) (hexec : Executes cfg s g current command)
    (hacc : Accepted cfg units clk g current command result s s') {did : String}
    {after : DeviceStatePayload} (hafter : s'.deviceStates.get? did = some after) :
    ∃ before, s.deviceStates.get? did = some before
      ∧ (((did ∉ g.deviceIds
          ∨ (before.controlMode = .manualOverride ∧ forcesGroupControl command = false))
        ∧ after = before)
      ∨ ((before.controlMode = .manualOverride → forcesGroupControl command = true)
        ∧ ∃ m ∈ g.members, m.device = did ∧ ∃ target : DeviceTarget,
          target.For m hexec.limits (patched current command).enabled
          ∧ after = syncedDevice (patched current command) target.power before)) := by
  by_cases hmem : did ∈ g.deviceIds
  · obtain ⟨m, hm, rfl⟩ := List.mem_map.mp hmem
    obtain ⟨before, _, target, hbefore, _, _, hdue, hsync⟩ := hacc.member_after hinv hexec hm
    rw [hafter] at hsync
    have heq := Option.some.inj hsync
    refine ⟨before, hbefore, ?_⟩
    rcases afterSync_cases (patched current command) (forcesGroupControl command) target.power before
      with ⟨hman, hskip⟩ | ⟨hforce, hwrite⟩
    · exact Or.inl ⟨Or.inr hman, heq.trans hskip⟩
    · exact Or.inr ⟨hforce, m, hm, rfl, target, hdue, heq.trans hwrite⟩
  · exact ⟨after, (hacc.frame did hmem).symm.trans hafter, Or.inl ⟨Or.inl hmem, rfl⟩⟩

end Commanded

/-! ## What a device resumes to -/

section Resumed

variable {s : ServiceState} {d : DeviceConfig} {current : DeviceStatePayload}
  {command : DeviceCommand} {g : GroupConfig} {state : GroupStatePayload} {now : ℚ}
  {targets : Dict String DeviceTarget} {target : DeviceTarget}

/-- The first group a record names is one the device belongs to. -/
theorem DeviceExecutes.first_group (hexec : DeviceExecutes cfg s d current command)
    (hinv : ServiceInv cfg s) (hg : g ∈ cfg.groups)
    (hfirst : current.groupIds.head? = some g.id) : d.id ∈ g.deviceIds := by
  obtain ⟨g', hg', hid, hmem⟩ :=
    (hinv.deviceInv hexec.mem hexec.record).mem_groupIds.mp (List.mem_of_head? hfirst)
  have heq := AppConfig.group_eq hg' hg hid
  exact heq ▸ hmem

/-- The target a device finds in its first group is due to its membership there. -/
theorem DeviceExecutes.resumed_due (hexec : DeviceExecutes cfg s d current command)
    (hinv : ServiceInv cfg s) (hg : g ∈ cfg.groups)
    (hfirst : current.groupIds.head? = some g.id) (hstate : s.states.get? g.id = some state)
    (htargets : calculateTargets cfg units now state = .ok targets)
    (htarget : targets.get? d.id = some target) :
    ∃ m ∈ g.members, m.device = d.id ∧ target.For m
      ⟨state.minPower, state.maxPower, (hinv.groupInv hg hstate).range⟩ state.enabled := by
  obtain ⟨targets', htargets', hfor⟩ := (hinv.groupInv hg hstate).targets units now
  rw [htargets] at htargets'
  cases htargets'
  obtain ⟨m, hm, hid⟩ := List.mem_map.mp (hexec.first_group hinv hg hfirst)
  obtain ⟨target', htarget', hdue⟩ := hfor.member m hm
  rw [hid, htarget] at htarget'
  cases htarget'
  exact ⟨m, hm, hid, hdue⟩

/-- A device resumes to a running state exactly when its first group and its membership are on. -/
theorem DeviceExecutes.resumed_enabled_iff (hexec : DeviceExecutes cfg s d current command)
    (hinv : ServiceInv cfg s) (hg : g ∈ cfg.groups)
    (hfirst : current.groupIds.head? = some g.id) (hstate : s.states.get? g.id = some state)
    (htargets : calculateTargets cfg units now state = .ok targets)
    (htarget : targets.get? d.id = some target) :
    target.enabled = true
      ↔ state.enabled = true ∧ ∃ m ∈ g.members, m.device = d.id ∧ m.enabled = true := by
  obtain ⟨m, hm, hid, hdue⟩ := hexec.resumed_due hinv hg hfirst hstate htargets htarget
  rw [hdue.enabled_eq, Bool.and_eq_true]
  constructor
  · rintro ⟨hgroup, hmember⟩
    exact ⟨hgroup, m, hm, hid, hmember⟩
  · rintro ⟨hgroup, m', hm', hid', hmember⟩
    have heq := List.inj_on_of_nodup_map g.members_unique hm hm' (hid.trans hid'.symm)
    exact ⟨hgroup, heq ▸ hmember⟩

end Resumed

/-! ## Where a group record goes -/

/-- A device command keeps the desired fields of every group. -/
theorem Stored.group_after {s s' : ServiceState} {d : DeviceConfig} {clk : Clock}
    {updated : DeviceStatePayload} {result : DeviceCommandResult} {gid : String}
    {before : GroupStatePayload} (hst : Stored cfg units clk d updated result s s')
    (hbefore : s.states.get? gid = some before) :
    ∃ after, s'.states.get? gid = some after ∧ SameDesired before after := by
  by_cases hgid : gid ∈ updated.groupIds
  · obtain ⟨after, hafter, _, _, _, rfl⟩ := hst.groups.rewritten gid hgid before hbefore
    exact ⟨_, hafter, rfl, rfl, rfl, rfl, rfl, rfl, rfl⟩
  · exact ⟨before, (hst.groups.frame gid hgid).trans hbefore, SameDesired.refl _⟩

/-- So does an observation. -/
theorem Merged.group_after {s s' : ServiceState} {clk : Clock} {event : ObserverEvent}
    {current : DeviceStatePayload} {gid : String} {before : GroupStatePayload}
    (hmerged : Merged cfg units clk event current s s') (hbefore : s.states.get? gid = some before) :
    ∃ after, s'.states.get? gid = some after ∧ SameDesired before after := by
  cases hrefresh : refreshes current event with
  | false => exact ⟨before, hmerged.unrefreshed hrefresh ▸ hbefore, SameDesired.refl _⟩
  | true =>
      have href := hmerged.refreshed hrefresh
      by_cases hgid : gid ∈ current.groupIds
      · obtain ⟨after, hafter, _, _, _, rfl⟩ := href.rewritten gid hgid before hbefore
        exact ⟨_, hafter, rfl, rfl, rfl, rfl, rfl, rfl, rfl⟩
      · exact ⟨before, (href.frame gid hgid).trans hbefore, SameDesired.refl _⟩

/-! ## The status field -/

/-- The group's recorded status. -/
def HasStatus (gid : String) (status : GroupState) (s : ServiceState) : Prop :=
  ∃ state, s.states.get? gid = some state ∧ state.status = status

theorem HasStatus.congr {s s' : ServiceState} {gid : String} {status : GroupState}
    (h : HasStatus gid status s) (hs : s'.states = s.states) : HasStatus gid status s' := by
  obtain ⟨state, hstate, hst⟩ := h
  exact ⟨state, hs ▸ hstate, hst⟩

/-- A group command writes the status of no other group. -/
theorem Accepted.hasStatus_other {s s' : ServiceState} {g : GroupConfig}
    {current : GroupStatePayload} {command : GroupCommand} {clk : Clock}
    {result : GroupCommandResult} {gid : String} {status : GroupState}
    (hacc : Accepted cfg units clk g current command result s s') (hne : g.id ≠ gid) :
    HasStatus gid status s' ↔ HasStatus gid status s := by
  unfold HasStatus
  rw [hacc.group_other hne]

/-- A device command writes no status. -/
theorem Stored.hasStatus_iff {s s' : ServiceState} {d : DeviceConfig} {clk : Clock}
    {current updated : DeviceStatePayload} {result : DeviceCommandResult} {gid : String}
    {status : GroupState} (hinv : ServiceInv cfg s) (hd : d ∈ cfg.devices)
    (hcur : s.deviceStates.get? d.id = some current)
    (hst : Stored cfg units clk d updated result s s') (hgroups : updated.groupIds = current.groupIds) :
    HasStatus gid status s' ↔ HasStatus gid status s := by
  constructor
  · rintro ⟨after, hafter, hstatus⟩
    obtain ⟨before, hbefore, hcase⟩ := hst.groups.before (fun gid hgid => by
      obtain ⟨_, _, _, _, st, hst, _⟩ := hinv.named_group (hinv.deviceInv hd hcur) (hgroups ▸ hgid)
      exact ⟨st, hst⟩) hafter
    rcases hcase with ⟨_, rfl⟩ | ⟨_, _, _, _, rfl⟩
    · exact ⟨after, hbefore, hstatus⟩
    · exact ⟨before, hbefore, hstatus⟩
  · rintro ⟨before, hbefore, hstatus⟩
    by_cases hgid : gid ∈ updated.groupIds
    · obtain ⟨after, hafter, _, _, _, rfl⟩ := hst.groups.rewritten gid hgid before hbefore
      exact ⟨_, hafter, hstatus⟩
    · exact ⟨before, (hst.groups.frame gid hgid).trans hbefore, hstatus⟩

/-- A device command writes no other device. -/
theorem Stored.device_other {s s' : ServiceState} {d : DeviceConfig} {clk : Clock}
    {updated : DeviceStatePayload} {result : DeviceCommandResult} {did : String}
    (hst : Stored cfg units clk d updated result s s') (hne : d.id ≠ did) :
    s'.deviceStates.get? did = s.deviceStates.get? did := by
  rw [hst.device, Dict.get?_set_ne _ _ hne]

/-- An executed device command finds none of the device's groups in emergency stop. -/
theorem DeviceExecutes.not_stopped {s : ServiceState} {d : DeviceConfig}
    {current : DeviceStatePayload} {command : DeviceCommand} {g : GroupConfig}
    (hexec : DeviceExecutes cfg s d current command) (hinv : ServiceInv cfg s)
    (hg : g ∈ cfg.groups) (hmem : d.id ∈ g.deviceIds) : ¬ HasStatus g.id .emergencyStop s := by
  rintro ⟨state, hstate, hstop⟩
  have hgid := (hinv.deviceInv hexec.mem hexec.record).mem_groupIds.mpr ⟨g, hg, rfl, hmem⟩
  exact hexec.admitted.lock g.id hgid state hstate hstop

/-! ## What commands write -/

/-- The devices with a record are the same in any two states of a service. -/
theorem ServiceInv.device_before {s s' : ServiceState} (hinv' : ServiceInv cfg s')
    (hinv : ServiceInv cfg s) {did : String} {after : DeviceStatePayload}
    (hafter : s'.deviceStates.get? did = some after) :
    ∃ before, s.deviceStates.get? did = some before := by
  obtain ⟨d, rfl, hd⟩ := hinv'.device did after hafter
  exact hinv.device_present d hd.mem

/-- A command wrote the record: its desired half, under the next revision. -/
def Written (before after : DeviceStatePayload) : Prop :=
  ∃ enabled power status controlMode lastRequestId, after = { before with
    revision := before.revision + 1, enabled, power, status, controlMode, lastRequestId }

/-- A command leaves every device record as it is or writes its desired half. -/
theorem Changed.device_written {s s' : ServiceState} {op : ServiceOp} (hinv : ServiceInv cfg s)
    (h : Changed cfg units s op s') (hop : ∀ event clk, op ≠ .observe event clk) {did : String}
    {before : DeviceStatePayload} (hbefore : s.deviceStates.get? did = some before) :
    ∃ after, s'.deviceStates.get? did = some after ∧ (after = before ∨ Written before after) := by
  have hstored : ∀ {d : DeviceConfig} {updated current : DeviceStatePayload},
      s.deviceStates.get? d.id = some current →
      s'.deviceStates = s.deviceStates.set d.id updated → Written current updated →
      ∃ after, s'.deviceStates.get? did = some after ∧ (after = before ∨ Written before after) := by
    intro d updated current hcur hset hwritten
    rw [hset, Dict.get?_set]
    split
    · rename_i heq
      rw [heq, hbefore] at hcur
      cases hcur
      exact ⟨updated, rfl, Or.inr hwritten⟩
    · exact ⟨before, hbefore, Or.inl rfl⟩
  cases h with
  | idle _ hdevices _ => exact ⟨before, hdevices ▸ hbefore, Or.inl rfl⟩
  | @commanded g current command clk result _ hexec hacc =>
      by_cases hmem : did ∈ g.deviceIds
      · obtain ⟨m, hm, rfl⟩ := List.mem_map.mp hmem
        obtain ⟨_, _, target, hbefore', _, _, _, hafter⟩ := hacc.member_after hinv hexec hm
        rw [hbefore] at hbefore'
        cases hbefore'
        refine ⟨_, hafter, ?_⟩
        rcases afterSync_cases (patched current command) (forcesGroupControl command) target.power
          before with ⟨_, heq⟩ | ⟨_, heq⟩
        · exact Or.inl heq
        · exact Or.inr ⟨_, _, _, _, _, heq⟩
      · exact ⟨before, (hacc.frame did hmem).trans hbefore, Or.inl rfl⟩
  | resumed hexec _ _ _ _ _ _ hst =>
      exact hstored hexec.record hst.device ⟨_, _, _, _, _, rfl⟩
  | overridden hexec _ hst => exact hstored hexec.record hst.device ⟨_, _, _, _, _, rfl⟩
  | observed => exact absurd rfl (hop _ _)

/-- And every group record, or writes it under the next revision. -/
theorem Changed.group_written {s s' : ServiceState} {op : ServiceOp}
    (h : Changed cfg units s op s') (hop : ∀ event clk, op ≠ .observe event clk) {gid : String}
    {before : GroupStatePayload} (hbefore : s.states.get? gid = some before) :
    ∃ after, s'.states.get? gid = some after
      ∧ (after = before ∨ after.revision = before.revision + 1) := by
  have hstored : ∀ {d : DeviceConfig} {clk : Clock} {updated : DeviceStatePayload}
      {result : DeviceCommandResult}, Stored cfg units clk d updated result s s' →
      ∃ after, s'.states.get? gid = some after
        ∧ (after = before ∨ after.revision = before.revision + 1) := by
    intro d clk updated result hst
    by_cases hgid : gid ∈ updated.groupIds
    · obtain ⟨after, hafter, _, _, _, rfl⟩ := hst.groups.rewritten gid hgid before hbefore
      exact ⟨_, hafter, Or.inr rfl⟩
    · exact ⟨before, (hst.groups.frame gid hgid).trans hbefore, Or.inl rfl⟩
  cases h with
  | idle hstates _ _ => exact ⟨before, hstates ▸ hbefore, Or.inl rfl⟩
  | @commanded g _ _ _ _ _ hexec hacc =>
      by_cases heq : g.id = gid
      · subst heq
        obtain ⟨members, hself, _⟩ := hacc.group_self
        rw [hexec.record] at hbefore
        cases hbefore
        exact ⟨_, hself, Or.inr rfl⟩
      · exact ⟨before, (hacc.group_other heq).trans hbefore, Or.inl rfl⟩
  | resumed _ _ _ _ _ _ _ hst => exact hstored hst
  | overridden _ _ hst => exact hstored hst
  | observed => exact absurd rfl (hop _ _)

end JebaoFlow
