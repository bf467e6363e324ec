import JebaoFlow.Proof.Loops

/-!
# What a group command can do

`ApplyOutcome` lists the ways `apply` can go from a state that satisfies
`ServiceInv`, each with the guards that select it and the state it leaves; every
later proof starts from this list instead of unfolding the operation again.
-/

namespace JebaoFlow

open PyFloat

variable {cfg : AppConfig} {units : UnitSource}

/-! ## Outcomes -/

/-- The reading of the clock whose targets an accepted command writes to the devices. -/
def syncReading (command : GroupCommand) : ℕ := if forcesGroupControl command then 1 else 0

/-- The state an accepted group command leaves. -/
structure Accepted (cfg : AppConfig) (units : UnitSource) (clk : Clock) (g : GroupConfig)
    (current : GroupStatePayload) (command : GroupCommand) (result : GroupCommandResult)
    (s s' : ServiceState) : Prop where
  accepted : result.accepted = true
  remembered : s'.results = (remember s result).2.results
  deviceResults : s'.deviceResults = s.deviceResults
  /-- Only this group's record is written, with freshly computed members. -/
  group : ∃ members, s'.states = s.states.set g.id { patched current command with members }
    ∧ calculateMembers cfg units (clk 2) s'.deviceStates (patched current command) = .ok members
  /-- Every member device is synchronised with its due target. -/
  devices : ∃ targets,
    calculateTargets cfg units (clk (syncReading command)) (patched current command) = .ok targets
    ∧ ∀ m ∈ g.members, ∀ before, s.deviceStates.get? m.device = some before →
        ∃ target, targets.get? m.device = some target
          ∧ s'.deviceStates.get? m.device = some (afterSync (patched current command)
              (forcesGroupControl command) target.power before)
  /-- No other device is touched. -/
  frame : ∀ d, d ∉ g.deviceIds → s'.deviceStates.get? d = s.deviceStates.get? d
  published : s'.lastPublishedSeenAt = s.lastPublishedSeenAt

/-- The record of the commanded group afterwards. -/
theorem Accepted.group_self {clk : Clock} {g : GroupConfig} {current : GroupStatePayload}
    {command : GroupCommand} {result : GroupCommandResult} {s s' : ServiceState}
    (h : Accepted cfg units clk g current command result s s') :
    ∃ members, s'.states.get? g.id = some { patched current command with members }
      ∧ calculateMembers cfg units (clk 2) s'.deviceStates (patched current command)
          = .ok members := by
  obtain ⟨members, hstates, hmembers⟩ := h.group
  exact ⟨members, by rw [hstates, Dict.get?_set_self], hmembers⟩

/-- Every other group's record is untouched. -/
theorem Accepted.group_other {clk : Clock} {g : GroupConfig} {current : GroupStatePayload}
    {command : GroupCommand} {result : GroupCommandResult} {s s' : ServiceState}
    (h : Accepted cfg units clk g current command result s s') {gid : String} (hne : g.id ≠ gid) :
    s'.states.get? gid = s.states.get? gid := by
  obtain ⟨members, hstates, _⟩ := h.group
  rw [hstates, Dict.get?_set_ne _ _ hne]

inductive ApplyOutcome (cfg : AppConfig) (units : UnitSource) (clk : Clock) (groupId : String)
    (command : GroupCommand) (s : ServiceState) :
    Except PyError GroupCommandResult → ServiceState → Prop where
  /-- The request id was seen before: the recorded result comes back, nothing changes. -/
  | replayed {result : GroupCommandResult}
      (hold : s.results.get? command.requestId = some result) :
      ApplyOutcome cfg units clk groupId command s (.ok result) s
  | unknown (hnew : s.results.get? command.requestId = none)
      (hgroup : cfg.group? groupId = none) {result : GroupCommandResult}
      (hresult : result.accepted = false) :
      ApplyOutcome cfg units clk groupId command s (.ok result) (remember s result).2
  | rejected {g : GroupConfig} {current : GroupStatePayload} {reason : String}
      (hnew : s.results.get? command.requestId = none)
      (hg : g ∈ cfg.groups) (hid : g.id = groupId) (hcur : s.states.get? groupId = some current)
      (hreject : rejection cfg current command = some reason) {result : GroupCommandResult}
      (hresult : result.accepted = false) :
      ApplyOutcome cfg units clk groupId command s (.ok result) (remember s result).2
  | accepted {g : GroupConfig} {current : GroupStatePayload} {s' : ServiceState}
      (hnew : s.results.get? command.requestId = none)
      (hg : g ∈ cfg.groups) (hid : g.id = groupId) (hcur : s.states.get? groupId = some current)
      (hpass : rejection cfg current command = none)
      {result : GroupCommandResult}
      (hacc : Accepted cfg units clk g current command result s s') :
      ApplyOutcome cfg units clk groupId command s (.ok result) s'

/-- A new request that is accepted was executed. -/
theorem ApplyOutcome.executed {s s' : ServiceState} {clk : Clock} {groupId : String}
    {command : GroupCommand} {result : GroupCommandResult}
    (hout : ApplyOutcome cfg units clk groupId command s (.ok result) s')
    (hnew : s.results.get? command.requestId = none) (haccepted : result.accepted = true) :
    ∃ g ∈ cfg.groups, g.id = groupId ∧ ∃ current, s.states.get? groupId = some current
      ∧ rejection cfg current command = none
      ∧ Accepted cfg units clk g current command result s s' := by
  cases hout with
  | replayed hold => exact absurd (hnew.symm.trans hold) (Option.some_ne_none _).symm
  | unknown _ _ hresult => exact absurd (haccepted.symm.trans hresult) Bool.noConfusion
  | rejected _ _ _ _ _ hresult => exact absurd (haccepted.symm.trans hresult) Bool.noConfusion
  | accepted _ hg hid hcur hpass hacc => exact ⟨_, hg, hid, _, hcur, hpass, hacc⟩

/-! ## What the checks let through -/

theorem patched_fields (current : GroupStatePayload) (command : GroupCommand) :
    (patched current command).groupId = current.groupId
      ∧ (patched current command).members = current.members
      ∧ (patched current command).pattern = command.pattern.getD current.pattern
      ∧ (patched current command).power = command.power.getD current.power
      ∧ (patched current command).minPower = command.minPower.getD current.minPower
      ∧ (patched current command).maxPower = command.maxPower.getD current.maxPower
      ∧ (patched current command).periodSeconds
          = command.periodSeconds.getD current.periodSeconds :=
  ⟨rfl, rfl, rfl, rfl, rfl, rfl, rfl⟩

/-- The enabled flag after a command: its own value, unless it is an emergency stop. -/
theorem patched_enabled (current : GroupStatePayload) (command : GroupCommand) :
    (patched current command).enabled
      = if command.action = some .emergencyStop then false
        else command.enabled.getD current.enabled := by
  unfold patched
  cases ha : command.action with
  | none => rfl
  | some action => cases action <;> rfl

/-- The status after a command, action by action. -/
theorem patched_status (current : GroupStatePayload) (command : GroupCommand) :
    (patched current command).status = match command.action with
      | some .startFeed => .feeding
      | some .emergencyStop => .emergencyStop
      | some .clearEmergency => .stopped
      | some .resumeAllMembers => current.status
      | _ => if command.enabled.getD current.enabled then .running else .stopped := by
  unfold patched
  cases ha : command.action with
  | none => rfl
  | some action => cases action <;> rfl

theorem patched_enabled_iff {current : GroupStatePayload} {command : GroupCommand} :
    (patched current command).enabled = true
      ↔ command.action ≠ some .emergencyStop ∧ command.enabled.getD current.enabled = true := by
  rw [patched_enabled]
  by_cases h : command.action = some .emergencyStop
  · rw [if_pos h]
    exact ⟨fun hc => absurd hc Bool.false_ne_true, fun hc => absurd h hc.1⟩
  · rw [if_neg h]
    exact ⟨fun hc => ⟨h, hc⟩, fun hc => hc.2⟩

theorem forcesGroupControl_eq_true_iff {command : GroupCommand} :
    forcesGroupControl command = true ↔ command.enabled ≠ none
      ∨ command.action = some .startFeed
      ∨ command.action = some .emergencyStop
      ∨ command.action = some .resumeAllMembers := by
  unfold forcesGroupControl
  rw [Bool.or_eq_true, Bool.or_eq_true, Bool.or_eq_true, decide_eq_true_eq, decide_eq_true_eq,
    decide_eq_true_eq, Option.isSome_iff_ne_none, or_assoc, or_assoc]

theorem stop_forces {command : GroupCommand} (h : command.action = some .emergencyStop) :
    forcesGroupControl command = true :=
  forcesGroupControl_eq_true_iff.mpr (Or.inr (Or.inr (Or.inl h)))

/-- What a command that passes every check looks like. -/
structure Admitted (cfg : AppConfig) (current : GroupStatePayload) (command : GroupCommand) :
    Prop where
  mode : cfg.runtime.mode = .control
  pattern : ∀ p, command.pattern = some p → p ∈ supportedPatterns
  lock : current.status = .emergencyStop → command.action = some .clearEmergency
  range : (patched current command).minPower.val ≤ (patched current command).maxPower.val
  power : command.enabled.getD current.enabled = true →
    (patched current command).minPower.val ≤ (patched current command).power.val
      ∧ (patched current command).power.val ≤ (patched current command).maxPower.val

/-- Only an emergency stop leaves an emergency stop. -/
theorem Admitted.stopped_iff {current : GroupStatePayload} {command : GroupCommand}
    (h : Admitted cfg current command) : (patched current command).status = .emergencyStop
      ↔ command.action = some .emergencyStop := by
  rw [patched_status]
  cases ha : command.action with
  | none =>
      dsimp only
      split
      · exact ⟨fun hc => GroupState.noConfusion hc, fun hc => by cases hc⟩
      · exact ⟨fun hc => GroupState.noConfusion hc, fun hc => by cases hc⟩
  | some action =>
      cases action with
      | emergencyStop => exact ⟨fun _ => rfl, fun _ => rfl⟩
      | startFeed => exact ⟨fun hc => GroupState.noConfusion hc, fun hc => by cases hc⟩
      | clearEmergency => exact ⟨fun hc => GroupState.noConfusion hc, fun hc => by cases hc⟩
      | stopFeed =>
          dsimp only
          split
          · exact ⟨fun hc => GroupState.noConfusion hc, fun hc => by cases hc⟩
          · exact ⟨fun hc => GroupState.noConfusion hc, fun hc => by cases hc⟩
      | resumeAllMembers =>
          refine ⟨fun hc => ?_, fun hc => by cases hc⟩
          have hlock := h.lock hc
          rw [ha] at hlock
          cases hlock

theorem rejection_eq_none_iff {current : GroupStatePayload} {command : GroupCommand} :
    rejection cfg current command = none ↔ Admitted cfg current command := by
  obtain ⟨_, _, _, hpower, hmin, hmax, _⟩ := patched_fields current command
  have henabled : (mergeFields current command).enabled
      = command.enabled.getD current.enabled := rfl
  have hmpower : (mergeFields current command).power = (patched current command).power := rfl
  have hmmin : (mergeFields current command).minPower = (patched current command).minPower := rfl
  have hmmax : (mergeFields current command).maxPower = (patched current command).maxPower := rfl
  have hpattern : command.pattern.any (fun p => decide (p ∉ supportedPatterns)) = true
      ↔ ¬ ∀ p, command.pattern = some p → p ∈ supportedPatterns := by
    cases hp : command.pattern with
    | none => simp
    | some p => simp
  unfold rejection
  dsimp only
  rw [henabled, hmpower, hmmin, hmmax]
  constructor
  · intro h
    split at h
    · exact absurd h (by simp)
    split at h
    · exact absurd h (by simp)
    split at h
    · exact absurd h (by simp)
    split at h
    · exact absurd h (by simp)
    split at h
    · exact absurd h (by simp)
    rename_i h1 h2 h3 h4 h5
    refine ⟨?_, ?_, ?_, not_lt.mp h4, ?_⟩
    · cases hm : cfg.runtime.mode with
      | observer => exact absurd hm h1
      | control => rfl
    · exact not_not.mp (fun hn => h2 (hpattern.mpr hn))
    · intro hs
      by_contra hn
      exact h3 ⟨hs, hn⟩
    · intro hen
      by_contra hn
      exact h5 ⟨hen, hn⟩
  · intro h
    rw [if_neg (by rw [h.mode]; exact fun hc => RuntimeMode.noConfusion hc),
      if_neg (fun hc => hpattern.mp hc h.pattern),
      if_neg (fun hc => hc.2 (h.lock hc.1)),
      if_neg (not_lt.mpr h.range),
      if_neg (fun hc => hc.2 (h.power hc.1))]

/-- The record of an accepted command is well formed, apart from its pending members. -/
theorem Admitted.groupInv {g : GroupConfig} {current : GroupStatePayload} {command : GroupCommand}
    (h : Admitted cfg current command) (hinv : GroupInv cfg g current) :
    GroupInv cfg g (patched current command) := by
  refine ⟨hinv.mem, hinv.groupId, h.range, ?_, hinv.keys⟩
  rw [targetPattern_control h.mode]
  have hcur := hinv.supported
  rw [targetPattern_control h.mode] at hcur
  show command.pattern.getD current.pattern ∈ supportedPatterns
  cases hp : command.pattern with
  | none => exact hcur
  | some p => exact h.pattern p hp

/-! ## The inversion -/

theorem GroupInv.withMembers {g : GroupConfig} {state : GroupStatePayload}
    {members : Dict String GroupMemberState} (h : GroupInv cfg g state)
    (hkeys : members.keys = g.deviceIds) : GroupInv cfg g { state with members } :=
  ⟨h.mem, h.groupId, h.range, h.supported, hkeys⟩

/-- A device that is not skipped shows its group's own target. -/
theorem afterSync_view (groupState : GroupStatePayload) (name : String) (m : GroupMember)
    (target : DeviceTarget) (before : DeviceStatePayload) :
    afterSync groupState false (memberView name (some before) m target).targetPower before
      = afterSync groupState false target.power before := by
  by_cases hman : before.controlMode = .manualOverride
  · rw [afterSync_skip hman, afterSync_skip hman]
  · have hgroup : ∀ d, some before = some d → d.controlMode ≠ .manualOverride := by
      intro d hd
      cases hd
      exact hman
    rw [(memberView_group name m target hgroup).2.2]

/--
**An admitted command goes through.** The exception branches of the
three calculations are closed by the record being well formed; what the devices
get is the target of the reading that `syncReading` names, because a device that
is not skipped is not overridden and so shows the group's own target.
-/
theorem commit_ok (units : UnitSource) (clk : Clock) {g : GroupConfig} {current : GroupStatePayload}
    {command : GroupCommand} {s : ServiceState} (hinv : ServiceInv cfg s) (hg : g ∈ cfg.groups)
    (hcur : s.states.get? g.id = some current) (hadm : Admitted cfg current command) :
    ∃ s' result, commit cfg units clk g.id current command s = (.ok result, s')
      ∧ Accepted cfg units clk g current command result s s' := by
  have hpinv := hadm.groupInv (hinv.groupInv hg hcur)
  -- the three calculations, in the order of the clock readings they use
  obtain ⟨targets₀, members₀, htargets₀, _, hmembers₀, hmem₀⟩ :=
    calculateMembers_ok units hg hpinv.groupId hpinv.range hpinv.supported (clk 0)
      s.deviceStates
  have hinv₀ : GroupInv cfg g { patched current command with members := members₀ } :=
    hpinv.withMembers hmem₀.keys
  obtain ⟨targets₁, deviceStates, htargets₁, hsync, hkeep, hwrite⟩ :=
    syncGroupDevices_ok units (clk 1) (forcesGroupControl command) hinv₀
      (s := { s with
        states := s.states.set g.id { patched current command with members := members₀ } })
      (Dict.get?_set_self ..) (fun m hm => hinv.member_present hg hm)
  obtain ⟨_, members₂, _, _, hmembers₂, _⟩ :=
    calculateMembers_ok units hg hpinv.groupId hpinv.range hpinv.supported (clk 2)
      deviceStates
  have hrefresh : refreshGroupMembers cfg units (clk 2) g.id false
      { s with
        states := s.states.set g.id { patched current command with members := members₀ }
        deviceStates := deviceStates } = _ :=
    refreshWith_ok (Dict.get?_set_self ..) hmembers₂
  have hcommit : commit cfg units clk g.id current command s
      = remember
          { s with
            states := (s.states.set g.id { patched current command with members := members₀ }).set
              g.id { patched current command with members := members₂ }
            deviceStates := deviceStates }
          { requestId := command.requestId
            groupId := g.id
            accepted := true
            revision := (patched current command).revision } := by
    unfold commit
    dsimp only
    rw [hmembers₀]
    dsimp only
    rw [hsync]
    dsimp only
    rw [hrefresh]
    rfl
  refine ⟨_, _, hcommit, rfl, rfl, rfl, ⟨members₂, Dict.set_set .., hmembers₂⟩, ?_, hkeep, rfl⟩
  unfold syncReading
  cases hforce : forcesGroupControl command with
  | true =>
      refine ⟨targets₁, htargets₁, fun m hm before hbefore => ?_⟩
      obtain ⟨name, target₀, _, hview⟩ := hmem₀.member m hm
      obtain ⟨target, ht, hw⟩ := hwrite m hm _ before hview hbefore
      rw [hforce] at hw
      exact ⟨target, ht, hw⟩
  | false =>
      refine ⟨targets₀, htargets₀, fun m hm before hbefore => ?_⟩
      obtain ⟨name, target₀, ht₀, hview⟩ := hmem₀.member m hm
      obtain ⟨target, _, hw⟩ := hwrite m hm _ before hview hbefore
      rw [hforce, hbefore] at hw
      exact ⟨target₀, ht₀, hw.trans (congrArg some (afterSync_view ..))⟩

/-- **Every call of `apply` is one of the listed outcomes.** -/
theorem apply_outcome (units : UnitSource) (clk : Clock) (groupId : String)
    (command : GroupCommand) {s : ServiceState} (hinv : ServiceInv cfg s) :
    ApplyOutcome cfg units clk groupId command s (apply cfg units clk groupId command s).1
      (apply cfg units clk groupId command s).2 := by
  unfold apply
  cases hres : s.results.get? command.requestId with
  | some result => exact .replayed hres
  | none =>
      cases hgroup : cfg.group? groupId with
      | none => exact .unknown hres hgroup rfl
      | some g =>
          obtain ⟨hg, hid⟩ := AppConfig.group?_eq_some_iff.mp hgroup
          obtain ⟨current, hcur⟩ := hinv.group_present g hg
          rw [hid] at hcur
          dsimp only
          rw [hcur]
          dsimp only
          cases hrej : rejection cfg current command with
          | some reason => exact .rejected hres hg hid hcur hrej rfl
          | none =>
              dsimp only
              obtain ⟨s', result, hcommit, hacc⟩ :=
                commit_ok units clk hinv hg (hid ▸ hcur) (rejection_eq_none_iff.mp hrej)
              rw [← hid, hcommit]
              exact .accepted hres hg rfl (hid ▸ hcur) hrej hacc

end JebaoFlow
