import JebaoFlow.Proof.PowerLayers

/-!
# Two views of one pump

A group snapshot shows each member device, and so does the device's own snapshot.
A group command recomputes the members of its own group only and writes the
group's flag to the devices, whatever the member's own flag; device commands and
observations recompute every group of the device. With the clock held at one
reading the two views agree along every run exactly for the configurations on
which neither shortcut shows.
-/

namespace JebaoFlow

variable {cfg : AppConfig} {units : UnitSource} {t : ℚ}

/-- The member entry shows what the device record shows. -/
structure Agrees (view : GroupMemberState) (device : DeviceStatePayload) : Prop where
  mode : view.controlMode = device.controlMode
  enabled : view.enabled = device.enabled
  power : view.targetPower = device.power

/-- Every group shows each of its devices as the device shows itself. -/
def ViewsAgree (cfg : AppConfig) (s : ServiceState) : Prop :=
  ∀ g ∈ cfg.groups, ∀ did ∈ g.deviceIds, ∃ record view device,
    s.states.get? g.id = some record ∧ record.members.get? did = some view
      ∧ s.deviceStates.get? did = some device ∧ Agrees view device

/-- Every reading of the clock during the call is the same. -/
def AtTime (t : ℚ) : ServiceOp → Prop
  | .apply _ _ clk => ∀ i, clk i = t
  | .applyDevice _ _ clk => ∀ i, clk i = t
  | .observe _ clk => ∀ i, clk i = t

/-- No member is configured disabled. -/
def MembersEnabled (cfg : AppConfig) : Prop := ∀ g ∈ cfg.groups, ∀ m ∈ g.members, m.enabled = true

/-- No device is listed in two groups. -/
def Unshared (cfg : AppConfig) : Prop :=
  ∀ g ∈ cfg.groups, ∀ h ∈ cfg.groups, ∀ did ∈ g.deviceIds, did ∈ h.deviceIds → g = h

/-! ## Targets depend on the desired fields only -/

/-- No pattern reads the status of the runtime. -/
theorem calculate_status (units : UnitSource) (timestamp : PyFloat) (g : GroupConfig)
    (runtime : GroupRuntime) (status : GroupState) :
    PatternCalculator.calculate units timestamp g { runtime with state := status }
      = PatternCalculator.calculate units timestamp g runtime := by
  unfold PatternCalculator.calculate
  dsimp only
  cases runtime.pattern.getD g.default.pattern <;> rfl

theorem SameDesired.targets_eq {g : GroupConfig} {a b : GroupStatePayload} (h : SameDesired a b)
    (hinv : GroupInv cfg g a) (now : ℚ) :
    calculateTargets cfg units now b = calculateTargets cfg units now a := by
  have hrange : b.minPower.val ≤ b.maxPower.val := by
    rw [h.minPower, h.maxPower]
    exact hinv.range
  have hruntime : runtimeOf cfg b = { runtimeOf cfg a with state := b.status } := by
    unfold runtimeOf
    rw [h.enabled, h.pattern, h.power, h.minPower, h.maxPower, h.periodSeconds]
  rw [calculateTargets_eq hinv.mem hinv.groupId hinv.range,
    calculateTargets_eq hinv.mem (h.groupId.trans hinv.groupId) hrange, hruntime, calculate_status]

theorem SameDesired.members_eq {g : GroupConfig} {a b : GroupStatePayload} (h : SameDesired a b)
    (hinv : GroupInv cfg g a) (now : ℚ) (deviceStates : Dict String DeviceStatePayload) :
    calculateMembers cfg units now deviceStates b = calculateMembers cfg units now deviceStates a := by
  unfold calculateMembers
  rw [h.targets_eq hinv now, h.groupId]

/-! ## What group control asks of a device -/

/-- A device under group control carries its group's flag and its target at this reading. -/
def Follows (cfg : AppConfig) (units : UnitSource) (t : ℚ) (record : GroupStatePayload)
    (did : String) (device : DeviceStatePayload) : Prop :=
  device.controlMode ≠ .manualOverride → device.enabled = record.enabled
    ∧ ∀ targets target, calculateTargets cfg units t record = .ok targets →
        targets.get? did = some target → device.power = target.power

def DevicesFollow (cfg : AppConfig) (units : UnitSource) (t : ℚ) (s : ServiceState) : Prop :=
  ∀ g ∈ cfg.groups, ∀ did ∈ g.deviceIds, ∀ record, s.states.get? g.id = some record →
    ∀ device, s.deviceStates.get? did = some device → Follows cfg units t record did device

theorem Follows.congr {g : GroupConfig} {a b : GroupStatePayload} {did : String}
    {device device' : DeviceStatePayload} (h : Follows cfg units t a did device)
    (hsame : SameDesired a b) (hinv : GroupInv cfg g a)
    (hmode : device'.controlMode = device.controlMode) (henabled : device'.enabled = device.enabled)
    (hpower : device'.power = device.power) : Follows cfg units t b did device' := by
  intro hcontrol
  rw [hmode] at hcontrol
  obtain ⟨hon, hdue⟩ := h hcontrol
  refine ⟨?_, fun targets target htargets htarget => ?_⟩
  · rw [henabled, hon, hsame.enabled]
  · rw [hsame.targets_eq hinv] at htargets
    rw [hpower]
    exact hdue targets target htargets htarget

/-- The entries of the record are those of this reading and the current device records. -/
def Recomputed (cfg : AppConfig) (units : UnitSource) (t : ℚ) (s : ServiceState)
    (record : GroupStatePayload) : Prop :=
  calculateMembers cfg units t s.deviceStates record = .ok record.members

section Recomputed

variable {s : ServiceState} {g : GroupConfig} {record : GroupStatePayload} {m : GroupMember}
  {device : DeviceStatePayload}

/-- Where no override is in force, the entry shows the target of its member. -/
theorem Recomputed.group_view (hinv : ServiceInv cfg s) (hg : g ∈ cfg.groups)
    (hrecord : s.states.get? g.id = some record) (h : Recomputed cfg units t s record)
    (hm : m ∈ g.members) (hdevice : s.deviceStates.get? m.device = some device)
    (hcontrol : device.controlMode ≠ .manualOverride) :
    ∃ view targets target, record.members.get? m.device = some view ∧ view.controlMode = .group
      ∧ view.enabled = (record.enabled && m.enabled) ∧ view.targetPower = target.power
      ∧ calculateTargets cfg units t record = .ok targets ∧ targets.get? m.device = some target := by
  obtain ⟨targets, htargets, hfor, hmembers⟩ := (hinv.groupInv hg hrecord).members_of_ok h
  obtain ⟨name, target, htarget, hview⟩ := hmembers.member m hm
  obtain ⟨target', htarget', hdue⟩ := hfor.member m hm
  rw [htarget] at htarget'
  cases htarget'
  obtain ⟨hmode, henabled, hpower⟩ := memberView_group name m target
    (fun d (hd : some device = some d) => Option.some.inj hd ▸ hcontrol)
  rw [hdevice] at hview
  exact ⟨_, targets, target, hview, hmode, henabled.trans hdue.enabled_eq, hpower, htargets, htarget⟩

/-- A member device that is not overridden is under group control. -/
theorem ServiceInv.group_control (hinv : ServiceInv cfg s) (hg : g ∈ cfg.groups)
    (hm : m ∈ g.members) (hdevice : s.deviceStates.get? m.device = some device)
    (hcontrol : device.controlMode ≠ .manualOverride) : device.controlMode = .group := by
  obtain ⟨d, hd, hid, _⟩ := AppConfig.deviceConfig_member hg hm
  have hdinv := hinv.deviceInv hd (hid ▸ hdevice)
  have hgid : g.id ∈ device.groupIds :=
    hdinv.mem_groupIds.mpr ⟨g, hg, rfl, hid ▸ List.mem_map_of_mem hm⟩
  cases hmode : device.controlMode with
  | group => rfl
  | manualOverride => exact absurd hmode hcontrol
  | standalone => exact absurd (hdinv.standalone.mp hmode) (List.ne_nil_of_mem hgid)

/-- **A recomputed entry of an enabled member agrees with a device that follows its group.** -/
theorem Recomputed.agrees (hinv : ServiceInv cfg s) (hg : g ∈ cfg.groups)
    (hrecord : s.states.get? g.id = some record) (h : Recomputed cfg units t s record)
    (hm : m ∈ g.members) (hon : m.enabled = true)
    (hdevice : s.deviceStates.get? m.device = some device)
    (hfollows : Follows cfg units t record m.device device) :
    ∃ view, record.members.get? m.device = some view ∧ Agrees view device := by
  by_cases hman : device.controlMode = .manualOverride
  · obtain ⟨targets, _, _, hmembers⟩ := (hinv.groupInv hg hrecord).members_of_ok h
    obtain ⟨name, target, _, hview⟩ := hmembers.member m hm
    obtain ⟨hmode, henabled, hpower⟩ := memberView_manual name m target hman
    rw [hdevice] at hview
    exact ⟨_, hview, hmode.trans hman.symm, henabled, hpower⟩
  · obtain ⟨view, targets, target, hview, hmode, henabled, hpower, htargets, htarget⟩ :=
      h.group_view hinv hg hrecord hm hdevice hman
    obtain ⟨hflag, hdue⟩ := hfollows hman
    refine ⟨view, hview, ?_, ?_, ?_⟩
    · exact hmode.trans (hinv.group_control hg hm hdevice hman).symm
    · rw [henabled, hon, Bool.and_true, hflag]
    · exact hpower.trans (hdue targets target htargets htarget).symm

end Recomputed

/-! ## One step -/

/-- The same control mode, flag and power. -/
structure SameOutput (a b : DeviceStatePayload) : Prop where
  mode : b.controlMode = a.controlMode
  enabled : b.enabled = a.enabled
  power : b.power = a.power

theorem SameOutput.refl (a : DeviceStatePayload) : SameOutput a a := ⟨rfl, rfl, rfl⟩

/-- An observation writes none of the three. -/
theorem mergeEvent_sameOutput (current : DeviceStatePayload) (event : ObserverEvent) :
    SameOutput current (mergeEvent current event).1 := by
  obtain ⟨_, _, henabled, hpower, hmode, _⟩ := mergeEvent_fields current event
  exact ⟨hmode, henabled, hpower⟩

/-- The invariant of the runs at one reading of the clock. -/
structure AgreeInv (cfg : AppConfig) (units : UnitSource) (t : ℚ) (s : ServiceState) : Prop where
  inv : ServiceInv cfg s
  follow : DevicesFollow cfg units t s
  agree : ViewsAgree cfg s

/-- Writing one device that follows its groups, the groups' desired fields unchanged. -/
theorem devicesFollow_set {s s' : ServiceState} {did : String} {updated : DeviceStatePayload}
    (hinv : ServiceInv cfg s) (h : DevicesFollow cfg units t s)
    (hkeep : ∀ gid before, s.states.get? gid = some before →
      ∃ after, s'.states.get? gid = some after ∧ SameDesired before after)
    (hdevice : s'.deviceStates = s.deviceStates.set did updated)
    (hupd : ∀ g ∈ cfg.groups, did ∈ g.deviceIds → ∀ record, s.states.get? g.id = some record →
      Follows cfg units t record did updated) : DevicesFollow cfg units t s' := by
  intro g hg did' hdid' record' hrecord' device' hdevice'
  obtain ⟨record, hrecord⟩ := hinv.group_present g hg
  obtain ⟨after, hafter, hsame⟩ := hkeep g.id record hrecord
  rw [hrecord'] at hafter
  cases hafter
  have hginv := hinv.groupInv hg hrecord
  rw [hdevice, Dict.get?_set] at hdevice'
  split at hdevice'
  · rename_i heq
    subst heq
    cases hdevice'
    exact (hupd g hg hdid' record hrecord).congr hsame hginv rfl rfl rfl
  · exact (h g hg did' hdid' record hrecord device' hdevice').congr hsame hginv rfl rfl rfl

section Follow

variable {s s' : ServiceState} {clk : Clock}

/-- A group command writes its members what it asks for; without shared devices, no others. -/
theorem devicesFollow_commanded {g : GroupConfig} {current : GroupStatePayload}
    {command : GroupCommand} {result : GroupCommandResult} (hunshared : Unshared cfg)
    (hinv : ServiceInv cfg s) (hat : AtTime t (.apply g.id command clk))
    (hexec : Executes cfg s g current command)
    (hacc : Accepted cfg units clk g current command result s s')
    (h : DevicesFollow cfg units t s) : DevicesFollow cfg units t s' := by
  intro g' hg' did hdid record hrecord device hdevice
  by_cases heq : g.id = g'.id
  · have := AppConfig.group_eq hexec.mem hg' heq
    subst this
    obtain ⟨m, hm, rfl⟩ := List.mem_map.mp hdid
    obtain ⟨members, hself, _⟩ := hacc.group_self
    rw [hrecord] at hself
    cases hself
    obtain ⟨before, targets, target, _, htargets, htarget, _, hafter⟩ :=
      hacc.member_after hinv hexec hm
    rw [hdevice] at hafter
    cases hafter
    rcases afterSync_cases (patched current command) (forcesGroupControl command) target.power
      before with ⟨⟨hman, _⟩, hsync⟩ | ⟨_, hsync⟩
    · rw [hsync]
      exact fun hcontrol => absurd hman hcontrol
    · rw [hsync]
      refine fun _ => ⟨rfl, fun targets' target' htargets' htarget' => ?_⟩
      have hsame : SameDesired (patched current command)
          { patched current command with members } := ⟨rfl, rfl, rfl, rfl, rfl, rfl, rfl⟩
      rw [hsame.targets_eq (hexec.groupInv hinv), ← hat (syncReading command), htargets]
        at htargets'
      cases htargets'
      rw [htarget] at htarget'
      cases htarget'
      rfl
  · -- an unshared device is outside the commanded group
    have hnot : did ∉ g.deviceIds := fun hmem =>
      heq (congrArg GroupConfig.id (hunshared g hexec.mem g' hg' did hmem hdid))
    rw [hacc.group_other heq] at hrecord
    rw [hacc.frame did hnot] at hdevice
    exact h g' hg' did hdid record hrecord device hdevice

theorem devicesFollow_resumed {d : DeviceConfig} {current : DeviceStatePayload}
    {command : DeviceCommand} {g : GroupConfig} {state : GroupStatePayload}
    {targets : Dict String DeviceTarget} {target : DeviceTarget} {result : DeviceCommandResult}
    (hall : MembersEnabled cfg) (hunshared : Unshared cfg) (hinv : ServiceInv cfg s)
    (hat : AtTime t (.applyDevice d.id command clk))
    (hexec : DeviceExecutes cfg s d current command) (hg : g ∈ cfg.groups)
    (hfirst : current.groupIds.head? = some g.id) (hstate : s.states.get? g.id = some state)
    (htargets : calculateTargets cfg units (clk 0) state = .ok targets)
    (htarget : targets.get? d.id = some target)
    (hst : Stored cfg units clk d (resumedDevice current target command) result s s')
    (h : DevicesFollow cfg units t s) : DevicesFollow cfg units t s' := by
  refine devicesFollow_set hinv h (fun gid before hbefore => hst.group_after hbefore) hst.device ?_
  intro g' hg' hmem record hrecord _
  -- the group it resumes is the only one it has
  have hmem' := hexec.first_group hinv hg hfirst
  have := hunshared g hg g' hg' d.id hmem' hmem
  subst this
  rw [hstate] at hrecord
  cases hrecord
  obtain ⟨m, hm, _, hdue⟩ := hexec.resumed_due hinv hg hfirst hstate htargets htarget
  refine ⟨?_, fun targets' target' htargets' htarget' => ?_⟩
  · show target.enabled = state.enabled
    rw [hdue.enabled_eq, hall g hg m hm, Bool.and_true]
  · rw [← hat 0, htargets] at htargets'
    cases htargets'
    rw [htarget] at htarget'
    cases htarget'
    rfl

theorem devicesFollow_overridden {d : DeviceConfig} {current : DeviceStatePayload}
    {command : DeviceCommand} {result : DeviceCommandResult} (hinv : ServiceInv cfg s)
    (hexec : DeviceExecutes cfg s d current command)
    (hst : Stored cfg units clk d (patchedDevice current command) result s s')
    (h : DevicesFollow cfg units t s) : DevicesFollow cfg units t s' := by
  refine devicesFollow_set hinv h (fun gid before hbefore => hst.group_after hbefore) hst.device ?_
  intro g hg hmem record _ hcontrol
  have hgid := (hinv.deviceInv hexec.mem hexec.record).mem_groupIds.mpr ⟨g, hg, rfl, hmem⟩
  have hman : (patchedDevice current command).controlMode = .manualOverride :=
    if_pos (List.ne_nil_of_mem hgid)
  exact absurd hman hcontrol

theorem devicesFollow_observed {event : ObserverEvent} {current : DeviceStatePayload}
    (hinv : ServiceInv cfg s) (hcur : s.deviceStates.get? event.deviceId = some current)
    (hmerged : Merged cfg units clk event current s s') (h : DevicesFollow cfg units t s) :
    DevicesFollow cfg units t s' := by
  refine devicesFollow_set hinv h (fun gid before hbefore => hmerged.group_after hbefore)
    hmerged.device ?_
  intro g hg hmem record hrecord
  obtain ⟨hmode, henabled, hpower⟩ := mergeEvent_sameOutput current event
  exact (h g hg event.deviceId hmem record hrecord current hcur).congr (SameDesired.refl record)
    (hinv.groupInv hg hrecord) hmode henabled hpower

theorem devicesFollow_step {op : ServiceOp} (hall : MembersEnabled cfg) (hunshared : Unshared cfg)
    (hinv : ServiceInv cfg s) (hch : Changed cfg units s op s') (hat : AtTime t op)
    (h : DevicesFollow cfg units t s) : DevicesFollow cfg units t s' := by
  cases hch with
  | idle hstates hdevices =>
      intro g hg did hdid record hrecord device hdevice
      rw [hstates] at hrecord
      rw [hdevices] at hdevice
      exact h g hg did hdid record hrecord device hdevice
  | commanded hexec hacc => exact devicesFollow_commanded hunshared hinv hat hexec hacc h
  | resumed hexec _ hg hfirst hstate htargets htarget hst =>
      exact devicesFollow_resumed hall hunshared hinv hat hexec hg hfirst hstate htargets htarget hst h
  | overridden hexec _ hst => exact devicesFollow_overridden hinv hexec hst h
  | observed _ _ hcur hmerged => exact devicesFollow_observed hinv hcur hmerged h

end Follow

/-- What a step leaves of a group: recomputed entries, or the record and outputs as they were. -/
def RecordStep (cfg : AppConfig) (units : UnitSource) (t : ℚ) (s s' : ServiceState)
    (g : GroupConfig) (record' : GroupStatePayload) : Prop :=
  Recomputed cfg units t s' record' ∨ (s.states.get? g.id = some record'
    ∧ ∀ did ∈ g.deviceIds, ∀ device, s.deviceStates.get? did = some device →
        ∃ device', s'.deviceStates.get? did = some device' ∧ SameOutput device device')

/-- The groups named in a rewrite are recomputed from the device records after it. -/
theorem Refreshed.recomputed {s s' : ServiceState} {clk : Clock} {gids : List String}
    {write : GroupStatePayload → Dict String GroupMemberState → GroupStatePayload} {changed : Bool}
    {gid : String} {record' : GroupStatePayload}
    (href : Refreshed cfg units clk write gids s'.deviceStates s.states s'.states)
    (hw : write = refreshedGroup changed ∨ write = observedGroup changed)
    (hinv : ServiceInv cfg s) (hat : ∀ i, clk i = t) (hgid : gid ∈ gids)
    (hpresent : ∃ before, s.states.get? gid = some before)
    (hrecord : s'.states.get? gid = some record') : Recomputed cfg units t s' record' := by
  obtain ⟨before, hbefore⟩ := hpresent
  obtain ⟨g, _, hginv⟩ := hinv.group gid before hbefore
  obtain ⟨after, hafter, i, members, hmembers, rfl⟩ := href.rewritten gid hgid before hbefore
  rw [hrecord] at hafter
  cases hafter
  rw [hat i] at hmembers
  unfold Recomputed
  rcases hw with rfl | rfl
  · have hsame : SameDesired before (refreshedGroup changed before members) :=
      ⟨rfl, rfl, rfl, rfl, rfl, rfl, rfl⟩
    rw [hsame.members_eq hginv, hmembers]
    rfl
  · have hsame : SameDesired before (observedGroup changed before members) :=
      ⟨rfl, rfl, rfl, rfl, rfl, rfl, rfl⟩
    rw [hsame.members_eq hginv, hmembers]
    rfl

theorem Stored.recordStep {s s' : ServiceState} {d : DeviceConfig} {clk : Clock}
    {current updated : DeviceStatePayload} {result : DeviceCommandResult} {g : GroupConfig}
    {record' : GroupStatePayload} (hst : Stored cfg units clk d updated result s s')
    (hinv : ServiceInv cfg s) (hd : d ∈ cfg.devices)
    (hcur : s.deviceStates.get? d.id = some current) (hgroups : updated.groupIds = current.groupIds)
    (hat : ∀ i, clk i = t) (hg : g ∈ cfg.groups) (hrecord : s'.states.get? g.id = some record') :
    RecordStep cfg units t s s' g record' := by
  by_cases hgid : g.id ∈ updated.groupIds
  · exact Or.inl (hst.groups.recomputed (Or.inl rfl) hinv hat hgid
      (hinv.group_present g hg) hrecord)
  · refine Or.inr ⟨(hst.groups.frame g.id hgid).symm.trans hrecord, fun did hdid device hdevice => ?_⟩
    have hne : d.id ≠ did := by
      intro heq
      subst heq
      rw [hgroups] at hgid
      exact hgid ((hinv.deviceInv hd hcur).mem_groupIds.mpr ⟨g, hg, rfl, hdid⟩)
    exact ⟨device, (hst.device_other hne).trans hdevice, SameOutput.refl device⟩

theorem recordStep_step {s s' : ServiceState} {op : ServiceOp} (hunshared : Unshared cfg)
    (hinv : ServiceInv cfg s) (hch : Changed cfg units s op s') (hat : AtTime t op)
    {g : GroupConfig} (hg : g ∈ cfg.groups) {record' : GroupStatePayload}
    (hrecord : s'.states.get? g.id = some record') : RecordStep cfg units t s s' g record' := by
  cases hch with
  | idle hstates hdevices =>
      refine Or.inr ⟨hstates ▸ hrecord, fun did _ device hdevice => ?_⟩
      exact ⟨device, hdevices ▸ hdevice, SameOutput.refl device⟩
  | @commanded g₁ current command clk result _ hexec hacc =>
      by_cases heq : g₁.id = g.id
      · have := AppConfig.group_eq hexec.mem hg heq
        subst this
        obtain ⟨members, hself, hmembers⟩ := hacc.group_self
        rw [hrecord] at hself
        cases hself
        have hsame : SameDesired (patched current command) { patched current command with members } :=
          ⟨rfl, rfl, rfl, rfl, rfl, rfl, rfl⟩
        rw [hat 2] at hmembers
        exact Or.inl ((hsame.members_eq (hexec.groupInv hinv) t s'.deviceStates).trans hmembers)
      · refine Or.inr ⟨(hacc.group_other heq).symm.trans hrecord, fun did hdid device hdevice => ?_⟩
        have hnot : did ∉ g₁.deviceIds := fun hmem =>
          heq (congrArg GroupConfig.id (hunshared g₁ hexec.mem g hg did hmem hdid))
        exact ⟨device, (hacc.frame did hnot).trans hdevice, SameOutput.refl device⟩
  | @resumed d current command clk _ _ _ _ result _ hexec _ _ _ _ _ _ hst =>
      exact hst.recordStep hinv hexec.mem hexec.record rfl hat hg hrecord
  | @overridden d current command clk result _ hexec _ hst =>
      exact hst.recordStep hinv hexec.mem hexec.record rfl hat hg hrecord
  | @observed event d current clk _ hd hid hcur hmerged =>
      have hkept : ∀ did ∈ g.deviceIds, ∀ device, s.deviceStates.get? did = some device →
          ∃ device', s'.deviceStates.get? did = some device' ∧ SameOutput device device' := by
        intro did _ device hdevice
        rw [hmerged.device, Dict.get?_set]
        split
        · rename_i heq
          rw [← heq, hcur] at hdevice
          cases hdevice
          exact ⟨_, rfl, mergeEvent_sameOutput current event⟩
        · exact ⟨device, hdevice, SameOutput.refl device⟩
      cases hrefresh : refreshes current event with
      | false => exact Or.inr ⟨hmerged.unrefreshed hrefresh ▸ hrecord, hkept⟩
      | true =>
          have href := hmerged.refreshed hrefresh
          by_cases hgid : g.id ∈ current.groupIds
          · exact Or.inl (href.recomputed (Or.inr rfl) hinv hat hgid (hinv.group_present g hg)
              hrecord)
          · exact Or.inr ⟨(href.frame g.id hgid).symm.trans hrecord, hkept⟩

/-- Every member device has a record, its group has an entry for it. -/
theorem ServiceInv.entry {s : ServiceState} (hinv : ServiceInv cfg s) {g : GroupConfig}
    (hg : g ∈ cfg.groups) {m : GroupMember} (hm : m ∈ g.members) : ∃ record device,
      s.states.get? g.id = some record ∧ s.deviceStates.get? m.device = some device := by
  obtain ⟨record, hrecord⟩ := hinv.group_present g hg
  obtain ⟨device, hdevice⟩ := hinv.member_present hg hm
  exact ⟨record, device, hrecord, hdevice⟩

/-- Recomputed entries agree, and so do entries and outputs that are as they were. -/
theorem agreeInv_step {s s' : ServiceState} {op : ServiceOp} (hall : MembersEnabled cfg)
    (hunshared : Unshared cfg) (h : AgreeInv cfg units t s) (hinv' : ServiceInv cfg s')
    (hch : Changed cfg units s op s') (hat : AtTime t op) : AgreeInv cfg units t s' := by
  have hfollow := devicesFollow_step hall hunshared h.inv hch hat h.follow
  refine ⟨hinv', hfollow, ?_⟩
  intro g hg did hdid
  obtain ⟨m, hm, rfl⟩ := List.mem_map.mp hdid
  obtain ⟨record', device', hrecord', hdevice'⟩ := hinv'.entry hg hm
  rcases recordStep_step hunshared h.inv hch hat hg hrecord' with hrec | ⟨hrecord, hkept⟩
  · obtain ⟨view, hview, hagrees⟩ := hrec.agrees hinv' hg hrecord' hm (hall g hg m hm) hdevice'
      (hfollow g hg m.device hdid record' hrecord' device' hdevice')
    exact ⟨record', view, device', hrecord', hview, hdevice', hagrees⟩
  · obtain ⟨record, view, device, hrecord₀, hview, hdevice, hagrees⟩ := h.agree g hg m.device hdid
    rw [hrecord] at hrecord₀
    cases hrecord₀
    obtain ⟨device₁, hdevice₁, hsame⟩ := hkept m.device hdid device hdevice
    rw [hdevice'] at hdevice₁
    cases hdevice₁
    exact ⟨record', view, device', hrecord', hview, hdevice', hagrees.mode.trans hsame.mode.symm,
      hagrees.enabled.trans hsame.enabled.symm, hagrees.power.trans hsame.power.symm⟩

/-! ## The start -/

theorem Started.recomputed {s₀ : ServiceState} {g : GroupConfig} {record : GroupStatePayload}
    (hstart : Started cfg units (fun _ => t) s₀) (hg : g ∈ cfg.groups)
    (hrecord : s₀.states.get? g.id = some record) : Recomputed cfg units t s₀ record := by
  obtain ⟨_, _, hmembers⟩ := hstart.group g hg record hrecord
  exact hmembers

/-- No device starts overridden. -/
theorem Started.not_manual {clk : Clock} {s₀ : ServiceState} {d : DeviceConfig}
    {device : DeviceStatePayload} (hstart : Started cfg units clk s₀) (hd : d ∈ cfg.devices)
    (hdevice : s₀.deviceStates.get? d.id = some device) : device.controlMode ≠ .manualOverride := by
  have hwith := hstart.device d hd device hdevice
  unfold StartsWith at hwith
  intro hman
  split at hwith
  · exact DeviceControlMode.noConfusion (hman.symm.trans hwith.2.2)
  · exact DeviceControlMode.noConfusion (hman.symm.trans hwith.2.1)

/-- The one group of a device is the first of its groups. -/
theorem Unshared.first_group {g : GroupConfig} {did : String} (hunshared : Unshared cfg)
    (hg : g ∈ cfg.groups) (hdid : did ∈ g.deviceIds) : (cfg.groupsOf did).head? = some g := by
  have hmem : g ∈ cfg.groupsOf did := AppConfig.mem_groupsOf.mpr ⟨hg, hdid⟩
  cases hgroups : cfg.groupsOf did with
  | nil =>
      rw [hgroups] at hmem
      exact absurd hmem List.not_mem_nil
  | cons h rest =>
      obtain ⟨hh, hdid'⟩ := AppConfig.mem_groupsOf.mp (hgroups ▸ List.mem_cons_self ..)
      rw [List.head?_cons, hunshared g hg h hh did hdid hdid']

theorem Started.agreeInv {s₀ : ServiceState} (hall : MembersEnabled cfg) (hunshared : Unshared cfg)
    (hstart : Started cfg units (fun _ => t) s₀) : AgreeInv cfg units t s₀ := by
  have hfollow : DevicesFollow cfg units t s₀ := by
    intro g hg did hdid record hrecord device hdevice _
    obtain ⟨m, hm, rfl⟩ := List.mem_map.mp hdid
    obtain ⟨d, hd, hid, _⟩ := AppConfig.deviceConfig_member hg hm
    rw [← hid] at hdevice hdid ⊢
    obtain ⟨_, _, device', _, targets, target, hdevice', henabled, _, _, htargets, htarget,
      hpower⟩ := hstart.grouped hd (hunshared.first_group hg hdid)
    rw [hdevice] at hdevice'
    cases hdevice'
    obtain ⟨hconf, _⟩ := hstart.group g hg record hrecord
    refine ⟨henabled.trans hconf.enabled.symm, fun targets' target' htargets' htarget' => ?_⟩
    rw [hconf.targets hg (hstart.inv.groupInv hg hrecord).groupId, htargets] at htargets'
    cases htargets'
    rw [htarget] at htarget'
    cases htarget'
    exact hpower
  refine ⟨hstart.inv, hfollow, ?_⟩
  intro g hg did hdid
  obtain ⟨m, hm, rfl⟩ := List.mem_map.mp hdid
  obtain ⟨record, device, hrecord, hdevice⟩ := hstart.inv.entry hg hm
  obtain ⟨view, hview, hagrees⟩ := (hstart.recomputed hg hrecord).agrees hstart.inv hg hrecord hm
    (hall g hg m hm) hdevice (hfollow g hg m.device hdid record hrecord device hdevice)
  exact ⟨record, view, device, hrecord, hview, hdevice, hagrees⟩

/-! ## A switch that tells the views apart -/

/-- Switch a group on or off, at a power within its limits. -/
def switchTo (g : GroupConfig) (on : Bool) : GroupCommand where
  requestId := "switch-001"
  enabled := some on
  power := some g.default.minPower
  changed := rfl

/-- A fresh service executes it. -/
theorem Started.executes_switch {clk : Clock} {s₀ : ServiceState} {g : GroupConfig}
    {record : GroupStatePayload} (hmode : cfg.runtime.mode = .control)
    (hstart : Started cfg units clk s₀) (hg : g ∈ cfg.groups)
    (hrecord : s₀.states.get? g.id = some record) (on : Bool) :
    Executes cfg s₀ g record (switchTo g on) := by
  obtain ⟨hconf, _⟩ := hstart.group g hg record hrecord
  have hmin : (patched record (switchTo g on)).minPower = g.default.minPower := hconf.minPower
  have hmax : (patched record (switchTo g on)).maxPower = g.default.maxPower := hconf.maxPower
  have hpower : (patched record (switchTo g on)).power = g.default.minPower := rfl
  refine ⟨?_, hg, hrecord, ⟨hmode, fun p hp => (by cases hp), fun hstop => ?_, ?_, fun _ => ?_⟩⟩
  · rw [hstart.results]
    rfl
  · exact absurd ⟨record, hrecord, hstop⟩ (hstart.not_stopped hg)
  · rw [hmin, hmax]
    exact g.default.range
  · rw [hmin, hmax, hpower]
    exact ⟨le_refl _, g.default.range⟩

/-- An executed group command is accepted. -/
theorem Changed.accepted {s s' : ServiceState} {op : ServiceOp} {g : GroupConfig}
    {current : GroupStatePayload} {command : GroupCommand} {clk : Clock}
    (hch : Changed cfg units s op s') (hop : op = .apply g.id command clk)
    (hexec : Executes cfg s g current command) :
    ∃ result, Accepted cfg units clk g current command result s s' := by
  cases hch with
  | idle _ _ hidle =>
      subst hop
      exact absurd ⟨g, current, rfl, hexec⟩ hidle
  | @commanded g₁ current₁ _ _ result _ hexec₁ hacc =>
      injection hop with hid hcommand hclk
      subst hcommand hclk
      obtain ⟨rfl, rfl⟩ := hexec₁.unique hexec hid
      exact ⟨result, hacc⟩
  | resumed => cases hop
  | overridden => cases hop
  | observed => cases hop

/-- What the switch leaves: the flag on every member device, and the other groups' records. -/
theorem Started.switched {s₀ : ServiceState} {g : GroupConfig}
    (hmode : cfg.runtime.mode = .control) (hstart : Started cfg units (fun _ => t) s₀)
    (hg : g ∈ cfg.groups) (on : Bool) :
    ∃ s', serviceStep cfg units s₀ (.apply g.id (switchTo g on) (fun _ => t)) = s'
      ∧ (∃ record, s'.states.get? g.id = some record ∧ record.enabled = on
          ∧ Recomputed cfg units t s' record)
      ∧ (∀ m ∈ g.members, ∃ device, s'.deviceStates.get? m.device = some device
          ∧ device.enabled = on ∧ device.controlMode = .group)
      ∧ ∀ gid, g.id ≠ gid → s'.states.get? gid = s₀.states.get? gid := by
  obtain ⟨record, hrecord⟩ := hstart.inv.group_present g hg
  have hexec := hstart.executes_switch hmode hg hrecord on
  have hch := changed_step units hstart.inv (.apply g.id (switchTo g on) (fun _ => t))
  obtain ⟨result, hacc⟩ := hch.accepted rfl hexec
  refine ⟨_, rfl, ?_, fun m hm => ?_, fun gid hne => hacc.group_other hne⟩
  · obtain ⟨members, hself, hmembers⟩ := hacc.group_self
    have hsame : SameDesired (patched record (switchTo g on))
        { patched record (switchTo g on) with members } := ⟨rfl, rfl, rfl, rfl, rfl, rfl, rfl⟩
    exact ⟨_, hself, rfl, (hsame.members_eq (hexec.groupInv hstart.inv) t _).trans hmembers⟩
  · obtain ⟨before, _, target, _, _, _, _, hafter⟩ := hacc.member_after hstart.inv hexec hm
    have hforce : before.controlMode = .manualOverride → forcesGroupControl (switchTo g on) = true :=
      fun _ => rfl
    rw [afterSync_write hforce] at hafter
    exact ⟨_, hafter, rfl, rfl⟩

/-- A member configured disabled: switch its group on. -/
theorem Started.membersEnabled {s₀ : ServiceState} (hmode : cfg.runtime.mode = .control)
    (hstart : Started cfg units (fun _ => t) s₀)
    (hagree : ∀ op, AtTime t op → ViewsAgree cfg (serviceStep cfg units s₀ op)) :
    MembersEnabled cfg := by
  intro g hg m hm
  obtain ⟨s', hs', ⟨record, hrecord, hon, hrec⟩, hdevices, _⟩ := hstart.switched hmode hg true
  have hinv' : ServiceInv cfg s' := hs' ▸ serviceInv_step s₀ _ hstart.inv
  obtain ⟨device, hdevice, henabled, hcontrol⟩ := hdevices m hm
  obtain ⟨view, _, _, hview, _, hshown, _⟩ := hrec.group_view hinv' hg hrecord hm hdevice
    (fun hman => DeviceControlMode.noConfusion (hman.symm.trans hcontrol))
  obtain ⟨record', view', device', hrecord', hview', hdevice', hsame⟩ :=
    hs' ▸ hagree (.apply g.id (switchTo g true) (fun _ => t)) (fun _ => rfl) g hg m.device
      (List.mem_map_of_mem hm)
  rw [hrecord] at hrecord'
  cases hrecord'
  rw [hview] at hview'
  cases hview'
  rw [hdevice] at hdevice'
  cases hdevice'
  have hflag := hsame.enabled
  rw [hshown, hon, henabled, Bool.true_and] at hflag
  exact hflag

/-- A device in two groups: switch one group against the other. -/
theorem Started.unshared {s₀ : ServiceState} (hmode : cfg.runtime.mode = .control)
    (hstart : Started cfg units (fun _ => t) s₀) (hall : MembersEnabled cfg)
    (hagree : ∀ op, AtTime t op → ViewsAgree cfg (serviceStep cfg units s₀ op)) :
    Unshared cfg := by
  intro g hg h hh did hdid hdid'
  by_contra hne
  have hids : h.id ≠ g.id := fun hc =>
    hne (AppConfig.group_eq hg hh hc.symm)
  obtain ⟨m, hm, rfl⟩ := List.mem_map.mp hdid
  obtain ⟨m', hm', hid'⟩ := List.mem_map.mp hdid'
  obtain ⟨d, hd, hid, _⟩ := AppConfig.deviceConfig_member hg hm
  -- what the first group shows of the device from the start
  obtain ⟨record, device₀, hrecord, hdevice₀⟩ := hstart.inv.entry hg hm
  obtain ⟨view, _, _, hview, _, hshown, _⟩ := (hstart.recomputed hg hrecord).group_view hstart.inv hg
    hrecord hm hdevice₀ (hstart.not_manual hd (hid ▸ hdevice₀))
  rw [(hstart.group g hg record hrecord).1.enabled, hall g hg m hm, Bool.and_true] at hshown
  -- switching the second group leaves that entry as it is
  obtain ⟨s', hs', _, hdevices, hother⟩ := hstart.switched hmode hh (!g.enabled)
  obtain ⟨device, hdevice, henabled, _⟩ := hdevices m' hm'
  obtain ⟨record', view', device', hrecord', hview', hdevice', hsame⟩ :=
    hs' ▸ hagree (.apply h.id (switchTo h (!g.enabled)) (fun _ => t)) (fun _ => rfl) g hg m.device
      hdid
  rw [hother g.id hids, hrecord] at hrecord'
  cases hrecord'
  rw [hview] at hview'
  cases hview'
  rw [hid', hdevice'] at hdevice
  cases hdevice
  have hflag := hsame.enabled
  rw [hshown, henabled] at hflag
  exact absurd hflag.symm (Bool.not_ne_self g.enabled)

/-! ## Runs at one reading of the clock -/

/--
**The two views agree along every run exactly for configurations without disabled
members and shared devices.**

Every run is meant: any sequence of group commands, device commands and
observations whose calls all read the same clock as the constructor.
-/
theorem views_agree_iff {s₀ : ServiceState} (hmode : cfg.runtime.mode = .control)
    (hinit : GroupControlService.init cfg units (fun _ => t) = .ok s₀) :
    (∀ ops, (∀ op ∈ ops, AtTime t op) → Run.Always (serviceStep cfg units) (ViewsAgree cfg) s₀ ops)
      ↔ MembersEnabled cfg ∧ Unshared cfg := by
  have hstart := init_started hinit
  constructor
  · intro halways
    have hagree : ∀ op, AtTime t op → ViewsAgree cfg (serviceStep cfg units s₀ op) := by
      intro op hat
      refine (halways [op] (fun op' hop' => ?_)).last
      rw [List.mem_singleton] at hop'
      exact hop' ▸ hat
    have hall := hstart.membersEnabled hmode hagree
    exact ⟨hall, hstart.unshared hmode hall hagree⟩
  · rintro ⟨hall, hunshared⟩ ops hat
    have hstep : ∀ s op, AtTime t op → AgreeInv cfg units t s →
        AgreeInv cfg units t (serviceStep cfg units s op) := fun s op hop h =>
      agreeInv_step hall hunshared h (serviceInv_step s op h.inv) (changed_step units h.inv op) hop
    exact Run.always_of_each hstep (fun s h => h.agree) (Run.each_of_forall hat)
      (hstart.agreeInv hall hunshared)

theorem views_agree_iff_reefTank :
    GroupControlService.init reefTank steadyUnits (fun _ => 0)
        = .ok (startState reefTank steadyUnits (fun _ => 0))
      ∧ ∀ ops, (∀ op ∈ ops, AtTime 0 op) → Run.Always (serviceStep reefTank steadyUnits)
          (ViewsAgree reefTank) (startState reefTank steadyUnits (fun _ => 0)) ops := by
  have hinit := @startState_eq reefTank steadyUnits (fun _ => 0) (by decide +kernel)
  refine ⟨hinit, (views_agree_iff rfl hinit).mpr ⟨?_, ?_⟩⟩
  · intro g hg
    rw [List.mem_singleton.mp hg]
    decide
  · intro g hg h hh _ _ _
    exact (List.mem_singleton.mp hg).trans (List.mem_singleton.mp hh).symm

/-- The tank's group with its right pump configured disabled. -/
def idleFlow : GroupConfig :=
  { reefFlow with
    members := [.plain "left", { GroupMember.plain "right" with enabled := false }]
    members_ne := by decide
    members_unique := by decide }

def idleTank : AppConfig := tankOf [idleFlow] (by decide) (by decide) (by decide)

/--
**A member configured disabled is shown off by its group and on by itself**, from
the start on: its target is off, but its record takes the flag of the group.
-/
theorem views_disagree_idleTank :
    GroupControlService.init idleTank steadyUnits (fun _ => 0)
        = .ok (startState idleTank steadyUnits (fun _ => 0))
      ∧ ¬ ∀ ops, (∀ op ∈ ops, AtTime 0 op) → Run.Always (serviceStep idleTank steadyUnits)
          (ViewsAgree idleTank) (startState idleTank steadyUnits (fun _ => 0)) ops := by
  refine ⟨startState_eq (by decide +kernel), fun hagree => ?_⟩
  have hstart := (hagree [] (fun op hop => absurd hop List.not_mem_nil)).head
  have hview : ((startState idleTank steadyUnits (fun _ => 0)).states.get? "flow").bind
      (fun g => (g.members.get? "right").map (·.enabled)) = some false := by decide +kernel
  have hdevice : ((startState idleTank steadyUnits (fun _ => 0)).deviceStates.get? "right").map
      (·.enabled) = some true := by decide +kernel
  obtain ⟨record, view, device, hrecord, hget, hstate, hsame⟩ :=
    hstart idleFlow (List.mem_cons_self ..) "right" (by decide)
  have hrecord' : (startState idleTank steadyUnits (fun _ => 0)).states.get? "flow" = some record :=
    hrecord
  rw [hrecord', Option.bind_some, hget, Option.map_some] at hview
  rw [hstate, Option.map_some, ← hsame.enabled] at hdevice
  rw [hview] at hdevice
  cases hdevice

end JebaoFlow
