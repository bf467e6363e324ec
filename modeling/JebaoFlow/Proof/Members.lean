import JebaoFlow.Mqtt.Service

/-!
# Targets and members of a well-formed group record

A group record is well formed when it belongs to a configured group, its limits
are in order and its pattern can be calculated. On such a record
`_calculate_targets` and `_calculate_members` never raise, and what they return is
fixed member by member.
-/

namespace JebaoFlow

open PyFloat

variable {cfg : AppConfig} {units : UnitSource}

/-! ## Periods -/

/-- A validated period is a rational of at least one second. -/
theorem PeriodSeconds.cases (p : PeriodSeconds) : ∃ q : ℚ, p.val = fin q ∧ 1 ≤ q := by
  obtain ⟨q, hq, hge, _⟩ := fin_of_between p.property.1 p.property.2
  exact ⟨q, hq, hge⟩

/-- So the number of cycles that have passed is one. -/
theorem cycles_isFinite (now : ℚ) (p : PeriodSeconds) :
    ((fin now - fin 0) / p.val).isFinite = true := by
  obtain ⟨q, hq, hge⟩ := PeriodSeconds.cases p
  have hne : q ≠ 0 := by linarith
  rw [hq, fin_sub, fin_div hne]
  rfl

/-! ## Well-formed group records -/

/-- What every record of a configured group keeps. -/
structure GroupInv (cfg : AppConfig) (g : GroupConfig) (state : GroupStatePayload) : Prop where
  mem : g ∈ cfg.groups
  groupId : state.groupId = g.id
  range : state.minPower.val ≤ state.maxPower.val
  supported : targetPattern cfg state.pattern ∈ supportedPatterns
  keys : state.members.keys = g.deviceIds

theorem targetPattern_control (hmode : cfg.runtime.mode = .control) (pattern : PatternKind) :
    targetPattern cfg pattern = pattern := by
  unfold targetPattern
  rw [if_neg]
  rw [hmode]
  exact fun h => RuntimeMode.noConfusion h.1

theorem targetPattern_observer (hmode : cfg.runtime.mode = .observer) (pattern : PatternKind) :
    targetPattern cfg pattern ∈ supportedPatterns := by
  unfold targetPattern
  split
  · decide
  · rename_i h
    by_contra hn
    exact h ⟨hmode, hn⟩

/-! ## Targets -/

/-- The runtime `_calculate_targets` builds from a group record. -/
def runtimeOf (cfg : AppConfig) (state : GroupStatePayload) : GroupRuntime where
  state := state.status
  enabled := some state.enabled
  pattern := some (targetPattern cfg state.pattern)
  power := some state.power
  minPower := some state.minPower
  maxPower := some state.maxPower
  periodSeconds := some state.periodSeconds.val
  startedAt := fin 0

theorem runtimeOf_validate {state : GroupStatePayload}
    (hrange : state.minPower.val ≤ state.maxPower.val) :
    GroupRuntime.validate (runtimeOf cfg state) = .ok (runtimeOf cfg state) := by
  obtain ⟨q, hq, hge⟩ := PeriodSeconds.cases state.periodSeconds
  have hperiod : (fin 0).lt state.periodSeconds.val = true := by
    rw [hq, fin_lt, decide_eq_true_eq]
    linarith
  show (if (fin 0).lt state.periodSeconds.val then
    GroupRuntime.validate.checkRange (runtimeOf cfg state) else _) = _
  rw [if_pos hperiod]
  show (if state.maxPower.val < state.minPower.val then _ else _) = _
  rw [if_neg (not_lt.mpr hrange)]

theorem calculateTargets_eq {state : GroupStatePayload} {g : GroupConfig} (hg : g ∈ cfg.groups)
    (hid : state.groupId = g.id) (hrange : state.minPower.val ≤ state.maxPower.val) (now : ℚ) :
    calculateTargets cfg units now state
      = PatternCalculator.calculate units (fin now) g (runtimeOf cfg state) := by
  have hgroup : cfg.group? state.groupId = some g := AppConfig.group?_eq_some_iff.mpr ⟨hg, hid.symm⟩
  unfold calculateTargets
  rw [hgroup]
  exact PyError.bind_of_ok (runtimeOf_validate hrange)

theorem runtimeOf_limits {state : GroupStatePayload} (g : GroupConfig)
    (hrange : state.minPower.val ≤ state.maxPower.val) :
    effectiveLimits g (runtimeOf cfg state) = .ok ⟨state.minPower, state.maxPower, hrange⟩ := by
  unfold effectiveLimits PowerLimits.validate
  exact dif_pos hrange

/-- **On a well-formed record every member has its due target.** -/
theorem calculateTargets_ok (units : UnitSource) {state : GroupStatePayload} {g : GroupConfig}
    (hg : g ∈ cfg.groups) (hid : state.groupId = g.id)
    (hrange : state.minPower.val ≤ state.maxPower.val)
    (hsup : targetPattern cfg state.pattern ∈ supportedPatterns) (now : ℚ) :
    ∃ targets, calculateTargets cfg units now state = .ok targets
      ∧ TargetsFor g ⟨state.minPower, state.maxPower, hrange⟩ state.enabled targets := by
  rw [calculateTargets_eq hg hid hrange]
  exact calculate_ok hsup (runtimeOf_limits g hrange) fun _ =>
    cycles_isFinite now state.periodSeconds

theorem GroupInv.targets (units : UnitSource) {g : GroupConfig} {state : GroupStatePayload}
    (h : GroupInv cfg g state) (now : ℚ) :
    ∃ targets, calculateTargets cfg units now state = .ok targets
      ∧ TargetsFor g ⟨state.minPower, state.maxPower, h.range⟩ state.enabled targets :=
  calculateTargets_ok units h.mem h.groupId h.range h.supported now

/-! ## Members -/

/-- The members a group shows for given targets and device records. -/
structure MembersFor (g : GroupConfig) (deviceStates : Dict String DeviceStatePayload)
    (targets : Dict String DeviceTarget) (members : Dict String GroupMemberState) : Prop where
  keys : members.keys = g.deviceIds
  member : ∀ m ∈ g.members, ∃ name target, targets.get? m.device = some target
    ∧ members.get? m.device = some (memberView name (deviceStates.get? m.device) m target)

theorem calculateMembers_of_targets {state : GroupStatePayload} {g : GroupConfig}
    (hg : g ∈ cfg.groups) (hid : state.groupId = g.id) {targets : Dict String DeviceTarget} {now : ℚ}
    (htargets : calculateTargets cfg units now state = .ok targets)
    (hkeys : targets.keys = g.deviceIds) (deviceStates : Dict String DeviceStatePayload) :
    ∃ members, calculateMembers cfg units now deviceStates state = .ok members
      ∧ MembersFor g deviceStates targets members := by
  have hview : ∀ m : GroupMember, ∃ view, m ∈ g.members →
      memberState cfg deviceStates targets m = .ok (some view)
        ∧ ∃ name target, targets.get? m.device = some target
          ∧ view = memberView name (deviceStates.get? m.device) m target := by
    intro m
    by_cases hm : m ∈ g.members
    · have hkey : m.device ∈ targets.keys := by
        rw [hkeys]; exact List.mem_map_of_mem hm
      obtain ⟨target, htarget⟩ := Option.isSome_iff_exists.mp (Dict.mem_keys_iff.mp hkey)
      obtain ⟨device, _, _, hdevice⟩ := AppConfig.deviceConfig_member hg hm
      refine ⟨memberView device.name (deviceStates.get? m.device) m target, fun _ => ⟨?_, ?_⟩⟩
      · unfold memberState
        rw [htarget]
        exact PyError.bind_of_ok hdevice
      · exact ⟨device.name, target, htarget, rfl⟩
    · exact ⟨memberView "" none m ⟨true, ⟨0, by omega⟩, none, none⟩, fun h => absurd h hm⟩
  choose view hview using hview
  have hloop : calculateMembers cfg units now deviceStates state
      = .ok (Dict.setAll GroupMember.device view g.members Dict.empty) := by
    unfold calculateMembers
    rw [AppConfig.group?_eq_some_iff.mpr ⟨hg, hid.symm⟩]
    refine (PyError.bind_of_ok htargets).trans ?_
    exact Dict.collect_eq_setAll (fun m hm => (hview m hm).1)
  refine ⟨_, hloop, ?_, ?_⟩
  · have hnd : ((Dict.empty : Dict String GroupMemberState).keys
        ++ g.members.map GroupMember.device).Nodup := g.members_unique
    rw [Dict.keys_setAll hnd]
    rfl
  · intro m hm
    obtain ⟨name, target, htarget, heq⟩ := (hview m hm).2
    exact ⟨name, target, htarget, by
      rw [Dict.get?_setAll_of_mem g.members_unique hm, heq]⟩

/-- **On a well-formed record the members are those of its due targets.** -/
theorem calculateMembers_ok (units : UnitSource) {state : GroupStatePayload} {g : GroupConfig}
    (hg : g ∈ cfg.groups) (hid : state.groupId = g.id)
    (hrange : state.minPower.val ≤ state.maxPower.val)
    (hsup : targetPattern cfg state.pattern ∈ supportedPatterns)
    (now : ℚ) (deviceStates : Dict String DeviceStatePayload) :
    ∃ targets members, calculateTargets cfg units now state = .ok targets
      ∧ TargetsFor g ⟨state.minPower, state.maxPower, hrange⟩ state.enabled targets
      ∧ calculateMembers cfg units now deviceStates state = .ok members
      ∧ MembersFor g deviceStates targets members := by
  obtain ⟨targets, htargets, hfor⟩ := calculateTargets_ok units hg hid hrange hsup now
  obtain ⟨members, hmembers, hmem⟩ :=
    calculateMembers_of_targets hg hid htargets hfor.keys deviceStates
  exact ⟨targets, members, htargets, hfor, hmembers, hmem⟩

/-! ## Reading a member back -/

/-- Every calculated entry is the view of one member, at its target and its device record. -/
theorem calculateMembers_inv {g : GroupConfig} {state : GroupStatePayload} {now : ℚ}
    {deviceStates : Dict String DeviceStatePayload} {members : Dict String GroupMemberState}
    (hg : g ∈ cfg.groups) (hid : state.groupId = g.id)
    (h : calculateMembers cfg units now deviceStates state = .ok members) {did : String}
    {view : GroupMemberState} (hview : members.get? did = some view) :
    ∃ m ∈ g.members, m.device = did ∧ ∃ targets target device,
      calculateTargets cfg units now state = .ok targets ∧ targets.get? did = some target
      ∧ cfg.deviceConfig did = .ok device
      ∧ view = memberView device.name (deviceStates.get? did) m target := by
  unfold calculateMembers at h
  rw [AppConfig.group?_eq_some_iff.mpr ⟨hg, hid.symm⟩] at h
  obtain ⟨targets, htargets, h⟩ := PyError.bind_eq_ok h
  rcases Dict.collect_inv h hview with hnone | ⟨m, hm, rfl, hstate⟩
  · cases hnone
  · refine ⟨m, hm, rfl, ?_⟩
    unfold memberState at hstate
    split at hstate
    · cases hstate
    · rename_i target htarget
      obtain ⟨device, hdevice, hstate⟩ := PyError.bind_eq_ok hstate
      cases hstate
      exact ⟨targets, target, device, htargets, htarget, hdevice, rfl⟩


theorem memberView_manual (name : String) (m : GroupMember) (target : DeviceTarget)
    {d : DeviceStatePayload} (h : d.controlMode = .manualOverride) :
    (memberView name (some d) m target).controlMode = .manualOverride
      ∧ (memberView name (some d) m target).enabled = d.enabled
      ∧ (memberView name (some d) m target).targetPower = d.power := by
  have hfilter : (some d).filter (fun d : DeviceStatePayload =>
      decide (d.controlMode = .manualOverride)) = some d := by
    simp [Option.filter, h]
  unfold memberView
  dsimp only
  rw [hfilter]
  exact ⟨rfl, rfl, rfl⟩

theorem memberView_group (name : String) (m : GroupMember) (target : DeviceTarget)
    {ds : Option DeviceStatePayload} (h : ∀ d, ds = some d → d.controlMode ≠ .manualOverride) :
    (memberView name ds m target).controlMode = .group
      ∧ (memberView name ds m target).enabled = target.enabled
      ∧ (memberView name ds m target).targetPower = target.power := by
  have hfilter : ds.filter (fun d : DeviceStatePayload =>
      decide (d.controlMode = .manualOverride)) = none := by
    cases ds with
    | none => rfl
    | some d => simp [Option.filter, h d rfl]
  unfold memberView
  dsimp only
  rw [hfilter]
  exact ⟨rfl, rfl, rfl⟩

end JebaoFlow
