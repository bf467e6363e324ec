import JebaoFlow.Lib.Cache
import JebaoFlow.Proof.Agreement
import JebaoFlow.Proof.Answers

/-!
# Observation does not influence desired state

What is observed of a device and what is desired of it live in the same record,
and the functions that recompute a group read both. Still, deleting every
observation from a run changes neither an answer nor a desired field, as long as
no group is ever put into emergency stop: an observation can release the stop,
and everything else the commands read is desired state.
-/

namespace JebaoFlow

variable {cfg : AppConfig} {units : UnitSource}

/-! ## What is desired -/

structure DeviceDesired where
  enabled : Bool
  power : Percent
  controlMode : DeviceControlMode
  lastRequestId : Option String

structure GroupDesired where
  enabled : Bool
  pattern : PatternKind
  power : Percent
  minPower : Percent
  maxPower : Percent
  periodSeconds : PeriodSeconds
  transitionSeconds : TransitionSeconds
  lastRequestId : Option String

def DeviceStatePayload.desired (state : DeviceStatePayload) : DeviceDesired where
  enabled := state.enabled
  power := state.power
  controlMode := state.controlMode
  lastRequestId := state.lastRequestId

def GroupStatePayload.desired (state : GroupStatePayload) : GroupDesired where
  enabled := state.enabled
  pattern := state.pattern
  power := state.power
  minPower := state.minPower
  maxPower := state.maxPower
  periodSeconds := state.periodSeconds
  transitionSeconds := state.transitionSeconds
  lastRequestId := state.lastRequestId

/-- The desired fields of every device and group. -/
structure DesiredState where
  devices : String → Option DeviceDesired
  groups : String → Option GroupDesired

def desiredState (s : ServiceState) : DesiredState where
  devices did := (s.deviceStates.get? did).map (·.desired)
  groups gid := (s.states.get? gid).map (·.desired)

/-- What a command shows: its answer, none if it raised, and the desired state behind it. -/
structure CommandView where
  verdict : Option (Bool × Option String)
  after : DesiredState

def commandView (cfg : AppConfig) (units : UnitSource) (s : ServiceState) :
    ServiceOp → Option CommandView
  | .apply groupId command clk =>
      let answer := apply cfg units clk groupId command s
      some ⟨answer.1.toOption.map (fun r => (r.accepted, r.reason)), desiredState answer.2⟩
  | .applyDevice deviceId command clk =>
      let answer := applyDevice cfg units clk deviceId command s
      some ⟨answer.1.toOption.map (fun r => (r.accepted, r.reason)), desiredState answer.2⟩
  | .observe _ _ => none

def isCommand : ServiceOp → Bool
  | .observe _ _ => false
  | _ => true

/-- The operation does not ask for an emergency stop. -/
def AsksNoStop : ServiceOp → Prop
  | .apply _ command _ => command.action ≠ some .emergencyStop
  | _ => True

/-! ## Two states with the same desired half -/

/-- The same desired fields and recorded answers, and no emergency stop on either side. -/
structure Twin (cfg : AppConfig) (s t : ServiceState) : Prop where
  left : ServiceInv cfg s
  right : ServiceInv cfg t
  devices : ∀ did, (s.deviceStates.get? did).map (·.desired)
    = (t.deviceStates.get? did).map (·.desired)
  groups : ∀ gid, (s.states.get? gid).map (·.desired) = (t.states.get? gid).map (·.desired)
  results : Dict.Alike (fun r : GroupCommandResult => (r.accepted, r.reason)) s.results t.results
  deviceResults : Dict.Alike (fun r : DeviceCommandResult => (r.accepted, r.reason))
    s.deviceResults t.deviceResults
  running : ∀ gid, ¬ HasStatus gid .emergencyStop s
  running' : ∀ gid, ¬ HasStatus gid .emergencyStop t

section Records

variable {s t : ServiceState}

theorem Twin.group (h : Twin cfg s t) {g : GroupConfig} (hg : g ∈ cfg.groups) :
    ∃ a b, s.states.get? g.id = some a ∧ t.states.get? g.id = some b ∧ a.desired = b.desired := by
  obtain ⟨a, ha⟩ := h.left.group_present g hg
  obtain ⟨b, hb⟩ := h.right.group_present g hg
  have heq := h.groups g.id
  rw [ha, hb] at heq
  exact ⟨a, b, ha, hb, Option.some.inj heq⟩

theorem Twin.device (h : Twin cfg s t) {d : DeviceConfig} (hd : d ∈ cfg.devices) :
    ∃ a b, s.deviceStates.get? d.id = some a ∧ t.deviceStates.get? d.id = some b
      ∧ a.desired = b.desired := by
  obtain ⟨a, ha⟩ := h.left.device_present d hd
  obtain ⟨b, hb⟩ := h.right.device_present d hd
  have heq := h.devices d.id
  rw [ha, hb] at heq
  exact ⟨a, b, ha, hb, Option.some.inj heq⟩

/-- Twins show the same desired state. -/
theorem Twin.view (h : Twin cfg s t) {v w : Option (Bool × Option String)} (hvw : v = w) :
    some (CommandView.mk v (desiredState s)) = some (CommandView.mk w (desiredState t)) := by
  have hafter : desiredState s = desiredState t := by
    unfold desiredState
    rw [funext h.devices, funext h.groups]
  rw [hvw, hafter]

/-- Records of one group with the same desired fields have the same targets. -/
theorem sameDesired_of_eq {g : GroupConfig} {a b : GroupStatePayload} (ha : GroupInv cfg g a)
    (hb : GroupInv cfg g b) (h : a.desired = b.desired) : SameDesired a b where
  groupId := hb.groupId.trans ha.groupId.symm
  enabled := (congrArg GroupDesired.enabled h).symm
  pattern := (congrArg GroupDesired.pattern h).symm
  power := (congrArg GroupDesired.power h).symm
  minPower := (congrArg GroupDesired.minPower h).symm
  maxPower := (congrArg GroupDesired.maxPower h).symm
  periodSeconds := (congrArg GroupDesired.periodSeconds h).symm

/-- Outside an emergency stop the checks read desired fields only. -/
theorem rejection_eq_of_desired {a b : GroupStatePayload} (command : GroupCommand)
    (h : a.desired = b.desired) (ha : a.status ≠ .emergencyStop) (hb : b.status ≠ .emergencyStop) :
    rejection cfg a command = rejection cfg b command := by
  have henabled : a.enabled = b.enabled := congrArg GroupDesired.enabled h
  have hpower : a.power = b.power := congrArg GroupDesired.power h
  have hmin : a.minPower = b.minPower := congrArg GroupDesired.minPower h
  have hmax : a.maxPower = b.maxPower := congrArg GroupDesired.maxPower h
  unfold rejection mergeFields
  dsimp only
  rw [henabled, hpower, hmin, hmax]
  have hlock : (a.status = .emergencyStop ∧ command.action ≠ some .clearEmergency)
      ↔ (b.status = .emergencyStop ∧ command.action ≠ some .clearEmergency) :=
    ⟨fun hc => absurd hc.1 ha, fun hc => absurd hc.1 hb⟩
  simp only [hlock]

/-- What a command makes of the desired fields depends on the desired fields. -/
theorem patched_desired {a b : GroupStatePayload} (command : GroupCommand)
    (h : a.desired = b.desired) : (patched a command).desired = (patched b command).desired := by
  have henabled : a.enabled = b.enabled := congrArg GroupDesired.enabled h
  have hpattern : a.pattern = b.pattern := congrArg GroupDesired.pattern h
  have hpower : a.power = b.power := congrArg GroupDesired.power h
  have hmin : a.minPower = b.minPower := congrArg GroupDesired.minPower h
  have hmax : a.maxPower = b.maxPower := congrArg GroupDesired.maxPower h
  have hperiod : a.periodSeconds = b.periodSeconds := congrArg GroupDesired.periodSeconds h
  have htransition : a.transitionSeconds = b.transitionSeconds :=
    congrArg GroupDesired.transitionSeconds h
  unfold GroupStatePayload.desired
  rw [patched_enabled, patched_enabled]
  unfold patched mergeFields
  dsimp only
  rw [henabled, hpattern, hpower, hmin, hmax, hperiod, htransition]

/-- So does what a sync makes of a device record. -/
theorem afterSync_desired {a b : GroupStatePayload} {x y : DeviceStatePayload} (force : Bool)
    (power : Percent) (hgroup : a.enabled = b.enabled) (h : x.desired = y.desired) :
    (afterSync a force power x).desired = (afterSync b force power y).desired := by
  have hmode : x.controlMode = y.controlMode := congrArg DeviceDesired.controlMode h
  have hlast : x.lastRequestId = y.lastRequestId := congrArg DeviceDesired.lastRequestId h
  unfold afterSync
  rw [hmode]
  split
  · exact h
  · unfold DeviceStatePayload.desired syncedDevice
    dsimp only
    rw [hgroup, hlast]

end Records

/-! ## Group commands -/

section Apply

variable {s t : ServiceState} {clk : Clock} {g : GroupConfig} {command : GroupCommand}

/-- Executed on both sides, a command leaves the same desired fields. -/
theorem Twin.accepted {a b : GroupStatePayload} {r r' : GroupCommandResult} {s' t' : ServiceState}
    (h : Twin cfg s t) (hstop : command.action ≠ some .emergencyStop)
    (hs : Executes cfg s g a command) (ht : Executes cfg t g b command)
    (hdesired : a.desired = b.desired)
    (hacc : Accepted cfg units clk g a command r s s')
    (hacc' : Accepted cfg units clk g b command r' t t')
    (hid : r.requestId = command.requestId) (hid' : r'.requestId = command.requestId)
    (hverdict : (r.accepted, r.reason) = (r'.accepted, r'.reason)) : Twin cfg s' t' := by
  have hpatched := patched_desired command hdesired
  have hsame : SameDesired (patched a command) (patched b command) :=
    sameDesired_of_eq (hs.groupInv h.left) (ht.groupInv h.right) hpatched
  obtain ⟨members, hstates, _⟩ := hacc.group
  obtain ⟨members', hstates', _⟩ := hacc'.group
  have hnot : ∀ {u u' : ServiceState} {x : GroupStatePayload} {q : GroupCommandResult},
      Executes cfg u g x command → Accepted cfg units clk g x command q u u' →
      (∀ gid, ¬ HasStatus gid .emergencyStop u) → ∀ gid, ¬ HasStatus gid .emergencyStop u' := by
    intro u u' x q hexec hq hrunning gid hstatus
    by_cases heq : g.id = gid
    · subst heq
      obtain ⟨_, hself, _⟩ := hq.group_self
      obtain ⟨record, hrecord, hst⟩ := hstatus
      rw [hself] at hrecord
      cases hrecord
      exact hstop (hexec.admitted.stopped_iff.mp hst)
    · exact hrunning gid ((hq.hasStatus_other heq).mp hstatus)
  refine ⟨h.left.accepted hs.mem hs.record hs.admitted hacc,
    h.right.accepted ht.mem ht.record ht.admitted hacc', fun did => ?_, fun gid => ?_,
    ?_, ?_, hnot hs hacc h.running, hnot ht hacc' h.running'⟩
  · by_cases hmem : did ∈ g.deviceIds
    · obtain ⟨m, hm, rfl⟩ := List.mem_map.mp hmem
      obtain ⟨x, hx⟩ := h.left.member_present hs.mem hm
      obtain ⟨y, hy⟩ := h.right.member_present hs.mem hm
      have hxy := h.devices m.device
      rw [hx, hy] at hxy
      obtain ⟨targets, htargets, hwrite⟩ := hacc.devices
      obtain ⟨targets', htargets', hwrite'⟩ := hacc'.devices
      -- both sides calculate from the same desired fields at the same reading
      rw [hsame.targets_eq (hs.groupInv h.left), htargets] at htargets'
      cases htargets'
      obtain ⟨target, htarget, hafter⟩ := hwrite m hm x hx
      obtain ⟨target', htarget', hafter'⟩ := hwrite' m hm y hy
      rw [htarget] at htarget'
      cases htarget'
      rw [hafter, hafter', Option.map_some, Option.map_some,
        afterSync_desired _ _ hsame.enabled.symm (Option.some.inj hxy)]
    · rw [hacc.frame did hmem, hacc'.frame did hmem]
      exact h.devices did
  · rw [hstates, hstates', Dict.get?_set, Dict.get?_set]
    split
    · exact congrArg some hpatched
    · exact h.groups gid
  · rw [hacc.remembered, hacc'.remembered, remember_results, remember_results, hid, hid']
    exact h.results.record hs.new ht.new hverdict
  · rw [hacc.deviceResults, hacc'.deviceResults]
    exact h.deviceResults

/-- Refused on both sides with the same verdict. -/
theorem Twin.refused {r r' : GroupCommandResult} (h : Twin cfg s t)
    (hs : s.results.get? r.requestId = none) (ht : t.results.get? r.requestId = none)
    (hid : r'.requestId = r.requestId)
    (hverdict : (r.accepted, r.reason) = (r'.accepted, r'.reason)) :
    Twin cfg (remember s r).2 (remember t r').2 where
  left := h.left.congr (remember_states ..) (remember_deviceStates ..) (remember_published ..)
  right := h.right.congr (remember_states ..) (remember_deviceStates ..) (remember_published ..)
  devices := by
    rw [remember_deviceStates, remember_deviceStates]
    exact h.devices
  groups := by
    rw [remember_states, remember_states]
    exact h.groups
  results := by
    rw [remember_results, remember_results, hid]
    exact h.results.record hs ht hverdict
  deviceResults := by
    rw [remember_deviceResults, remember_deviceResults]
    exact h.deviceResults
  running gid hc := h.running gid (hc.congr (remember_states ..).symm)
  running' gid hc := h.running' gid (hc.congr (remember_states ..).symm)

/-- What an executed command answers. -/
theorem commit_verdict {a : GroupStatePayload} {r : GroupCommandResult} {s' : ServiceState}
    (hnew : s.results.get? command.requestId = none)
    (hcommit : commit cfg units clk g.id a command s = (.ok r, s')) (haccepted : r.accepted = true) :
    r.requestId = command.requestId ∧ (r.accepted, r.reason) = (true, none) := by
  have hanswer := commit_answer cfg units clk g.id a command hnew
  rw [hcommit] at hanswer
  cases hanswer with
  | replayed hold =>
      rw [hnew] at hold
      cases hold
  | refused => exact absurd haccepted Bool.false_ne_true
  | executed => exact ⟨rfl, rfl⟩

/-- Admitted on both sides, a command is executed on both. -/
theorem twin_commit {a b : GroupStatePayload} (h : Twin cfg s t)
    (hstop : command.action ≠ some .emergencyStop)
    (hs : s.results.get? command.requestId = none) (ht : t.results.get? command.requestId = none)
    (hg : g ∈ cfg.groups) (ha : s.states.get? g.id = some a) (hb : t.states.get? g.id = some b)
    (hdesired : a.desired = b.desired) (hadm : Admitted cfg a command)
    (hadm' : Admitted cfg b command) :
    ((commit cfg units clk g.id a command s).1.toOption.map (fun r => (r.accepted, r.reason))
      = (commit cfg units clk g.id b command t).1.toOption.map (fun r => (r.accepted, r.reason)))
      ∧ Twin cfg (commit cfg units clk g.id a command s).2
          (commit cfg units clk g.id b command t).2 := by
  obtain ⟨s', r, hcommit, hacc⟩ := commit_ok units clk h.left hg ha hadm
  obtain ⟨t', r', hcommit', hacc'⟩ := commit_ok units clk h.right hg hb hadm'
  obtain ⟨hid, hv⟩ := commit_verdict hs hcommit hacc.accepted
  obtain ⟨hid', hv'⟩ := commit_verdict ht hcommit' hacc'.accepted
  rw [hcommit, hcommit']
  exact ⟨congrArg some (hv.trans hv'.symm), h.accepted hstop ⟨hs, hg, ha, hadm⟩ ⟨ht, hg, hb, hadm'⟩
    hdesired hacc hacc' hid hid' (hv.trans hv'.symm)⟩

theorem twin_apply (h : Twin cfg s t) (groupId : String)
    (hstop : command.action ≠ some .emergencyStop) :
    commandView cfg units s (.apply groupId command clk)
        = commandView cfg units t (.apply groupId command clk)
      ∧ Twin cfg (apply cfg units clk groupId command s).2
          (apply cfg units clk groupId command t).2 := by
  -- the two states behind the call are twins again, so only the verdicts have to agree
  have key : ((apply cfg units clk groupId command s).1.toOption.map
        (fun r => (r.accepted, r.reason))
      = (apply cfg units clk groupId command t).1.toOption.map (fun r => (r.accepted, r.reason)))
      ∧ Twin cfg (apply cfg units clk groupId command s).2
          (apply cfg units clk groupId command t).2 := by
    unfold apply
    rcases h.results.lookup command.requestId with ⟨hs, ht⟩ | ⟨r, r', hs, ht, hverdict⟩
    · rw [hs, ht]
      dsimp only
      cases hgroup : cfg.group? groupId with
      | none => exact ⟨rfl, h.refused hs ht rfl rfl⟩
      | some g =>
          obtain ⟨hg, rfl⟩ := AppConfig.group?_eq_some_iff.mp hgroup
          obtain ⟨a, b, ha, hb, hdesired⟩ := h.group hg
          have hrej : rejection cfg a command = rejection cfg b command :=
            rejection_eq_of_desired command hdesired
              (fun hc => h.running g.id ⟨a, ha, hc⟩) (fun hc => h.running' g.id ⟨b, hb, hc⟩)
          dsimp only
          rw [ha, hb]
          dsimp only
          rw [← hrej]
          cases hreason : rejection cfg a command with
          | some reason => exact ⟨rfl, h.refused hs ht rfl rfl⟩
          | none =>
              exact twin_commit h hstop hs ht hg ha hb hdesired (rejection_eq_none_iff.mp hreason)
                (rejection_eq_none_iff.mp (hrej ▸ hreason))
    · rw [hs, ht]
      exact ⟨congrArg some hverdict, h⟩
  exact ⟨key.2.view key.1, key.2⟩

end Apply

/-! ## Device commands -/

/-- Why a device command is refused while none of the device's groups is locked. -/
def deviceRefusal (cfg : AppConfig) (device : DeviceConfig) (command : DeviceCommand) :
    Option String :=
  if cfg.runtime.mode = .observer then some "observer_mode_read_only"
  else if command.action = some .resumeGroup then
    if "resume_group" ∉ deviceControls cfg device then some "device_is_not_grouped" else none
  else deviceRejection cfg device command

section ApplyDevice

variable {s t : ServiceState} {clk : Clock} {d : DeviceConfig} {command : DeviceCommand}

theorem DeviceAdmitted.of_refusal {current : DeviceStatePayload}
    (hunlocked : Unlocked s current.groupIds) (h : deviceRefusal cfg d command = none) :
    DeviceAdmitted cfg s d current command := by
  unfold deviceRefusal at h
  split at h
  · cases h
  · rename_i hmode
    refine ⟨?_, hunlocked, fun haction => ?_, fun haction => ?_⟩
    · cases hm : cfg.runtime.mode with
      | observer => exact absurd hm hmode
      | control => rfl
    · rw [if_pos haction] at h
      split at h
      · cases h
      · rename_i hcontrol
        exact not_not.mp hcontrol
    · rw [if_neg haction] at h
      exact h

/-- A new command for a known, unlocked device that is refused says why. -/
theorem applyDevice_refused {current : DeviceStatePayload} {reason : String}
    (hinv : ServiceInv cfg s) (hnew : s.deviceResults.get? command.requestId = none)
    (hcur : s.deviceStates.get? d.id = some current) (hd : d ∈ cfg.devices)
    (hunlocked : Unlocked s current.groupIds) (h : deviceRefusal cfg d command = some reason) :
    applyDevice cfg units clk d.id command s = rejectDevice s current command reason := by
  have hdinv := hinv.deviceInv hd hcur
  obtain ⟨locked, hlocked, hiff⟩ := anyEmergencyStop_ok (fun gid hgid => by
    obtain ⟨_, _, _, _, state, hstate, _⟩ := hinv.named_group hdinv hgid
    exact ⟨state, hstate⟩)
  rw [hiff.mpr hunlocked] at hlocked
  unfold applyDevice
  rw [hnew, hcur]
  dsimp only
  unfold deviceRefusal at h
  by_cases hmode : cfg.runtime.mode = .observer
  · rw [if_pos hmode] at h ⊢
    cases h
    rfl
  · rw [if_neg hmode] at h ⊢
    rw [hlocked]
    dsimp only
    rw [AppConfig.deviceConfig_of_mem hd]
    dsimp only
    by_cases haction : command.action = some .resumeGroup
    · rw [if_pos haction] at h ⊢
      split at h
      · rename_i hcontrol
        rw [if_pos hcontrol]
        cases h
        rfl
      · cases h
    · rw [if_neg haction] at h ⊢
      rw [h]

/-- One that is not refused stores the record it asks for. -/
theorem applyDevice_stored {current : DeviceStatePayload} (units : UnitSource) (clk : Clock)
    (hinv : ServiceInv cfg s) (hnew : s.deviceResults.get? command.requestId = none)
    (hcur : s.deviceStates.get? d.id = some current) (hd : d ∈ cfg.devices)
    (hunlocked : Unlocked s current.groupIds) (h : deviceRefusal cfg d command = none) :
    ∃ r s' updated, applyDevice cfg units clk d.id command s = (.ok r, s')
      ∧ r.requestId = command.requestId ∧ (r.accepted, r.reason) = (true, none)
      ∧ Stored cfg units clk d updated r s s'
      ∧ (command.action ≠ some .resumeGroup → updated = patchedDevice current command)
      ∧ (command.action = some .resumeGroup → ∃ g ∈ cfg.groups, ∃ state targets target,
          current.groupIds.head? = some g.id ∧ s.states.get? g.id = some state
          ∧ calculateTargets cfg units (clk 0) state = .ok targets
          ∧ targets.get? d.id = some target
          ∧ updated = resumedDevice current target command) := by
  have hadm := DeviceAdmitted.of_refusal hunlocked h
  have hanswer := applyDevice_answer cfg units clk d.id command s
  have hout := applyDevice_outcome units clk d.id command hinv
  cases hres : applyDevice cfg units clk d.id command s with
  | mk r s' =>
    rw [hres] at hanswer hout
    have hverdict : ∀ {q : DeviceCommandResult}, r = .ok q → q.accepted = true →
        q.requestId = command.requestId ∧ (q.accepted, q.reason) = (true, none) := by
      intro q hq haccepted
      subst hq
      cases hanswer with
      | replayed hold =>
          rw [hnew] at hold
          cases hold
      | refused => exact absurd haccepted Bool.false_ne_true
      | executed => exact ⟨rfl, rfl⟩
    cases hout with
    | replayed hold =>
        rw [hnew] at hold
        cases hold
    | unknown _ hunknown =>
        rw [hcur] at hunknown
        cases hunknown
    | rejected _ hd' hid hcur' hreject =>
        rw [hcur] at hcur'
        cases hcur'
        have heq := AppConfig.device_eq hd' hd hid
        exact absurd (heq ▸ hadm) hreject
    | resumed _ hd' hid hcur' _ haction hg hfirst hstate htargets htarget hst =>
        rw [hcur] at hcur'
        cases hcur'
        have heq := AppConfig.device_eq hd' hd hid
        subst heq
        obtain ⟨hq, hv⟩ := hverdict rfl hst.accepted
        exact ⟨_, s', _, rfl, hq, hv, hst, fun hne => absurd haction hne,
          fun _ => ⟨_, hg, _, _, _, hfirst, hstate, htargets, htarget, rfl⟩⟩
    | patched _ hd' hid hcur' _ haction hst =>
        rw [hcur] at hcur'
        cases hcur'
        have heq := AppConfig.device_eq hd' hd hid
        subst heq
        obtain ⟨hq, hv⟩ := hverdict rfl hst.accepted
        exact ⟨_, s', _, rfl, hq, hv, hst, fun _ => rfl, fun hc => absurd hc haction⟩

/-- Rewriting the members of some groups writes no desired field of any. -/
theorem Refreshed.map_eq {β : Type} {f : GroupStatePayload → β} {gids : List String}
    {write : GroupStatePayload → Dict String GroupMemberState → GroupStatePayload}
    {deviceStates : Dict String DeviceStatePayload} {states states' : Dict String GroupStatePayload}
    (h : Refreshed cfg units clk write gids deviceStates states states')
    (hpresent : ∀ gid ∈ gids, ∃ state, states.get? gid = some state)
    (hf : ∀ state members, f (write state members) = f state) (gid : String) :
    (states'.get? gid).map f = (states.get? gid).map f := by
  by_cases hgid : gid ∈ gids
  · obtain ⟨before, hbefore⟩ := hpresent gid hgid
    obtain ⟨after, hafter, _, members, _, rfl⟩ := h.rewritten gid hgid before hbefore
    rw [hafter, hbefore, Option.map_some, Option.map_some, hf]
  · rw [h.frame gid hgid]

/-- Stored on both sides, the same update leaves the same desired fields. -/
theorem Twin.stored {a b x y : DeviceStatePayload} {r r' : DeviceCommandResult}
    {s' t' : ServiceState} (h : Twin cfg s t) (hs' : ServiceInv cfg s') (ht' : ServiceInv cfg t')
    (hnew : s.deviceResults.get? command.requestId = none)
    (hnew' : t.deviceResults.get? command.requestId = none) (hd : d ∈ cfg.devices)
    (ha : s.deviceStates.get? d.id = some a) (hb : t.deviceStates.get? d.id = some b)
    (hx : x.groupIds = a.groupIds) (hy : y.groupIds = b.groupIds)
    (hdesired : x.desired = y.desired) (hst : Stored cfg units clk d x r s s')
    (hst' : Stored cfg units clk d y r' t t') (hid : r.requestId = command.requestId)
    (hid' : r'.requestId = command.requestId)
    (hverdict : (r.accepted, r.reason) = (r'.accepted, r'.reason)) : Twin cfg s' t' := by
  have hpresent : ∀ {u : ServiceState} {z w : DeviceStatePayload}, ServiceInv cfg u →
      u.deviceStates.get? d.id = some z → w.groupIds = z.groupIds →
      ∀ gid ∈ w.groupIds, ∃ state, u.states.get? gid = some state := by
    intro u z w hu hz hw gid hgid
    obtain ⟨_, _, _, _, state, hstate, _⟩ := hu.named_group (hu.deviceInv hd hz) (hw ▸ hgid)
    exact ⟨state, hstate⟩
  refine ⟨hs', ht', fun did => ?_, fun gid => ?_, ?_, ?_, fun gid hc => ?_, fun gid hc => ?_⟩
  · rw [hst.device, hst'.device, Dict.get?_set, Dict.get?_set]
    split
    · exact congrArg some hdesired
    · exact h.devices did
  · rw [hst.groups.map_eq (hpresent h.left ha hx) (fun _ _ => rfl),
      hst'.groups.map_eq (hpresent h.right hb hy) (fun _ _ => rfl)]
    exact h.groups gid
  · rw [hst.results, hst'.results]
    exact h.results
  · rw [hst.remembered, hst'.remembered, rememberDevice_deviceResults,
      rememberDevice_deviceResults, hid, hid']
    exact h.deviceResults.record hnew hnew' hverdict
  · exact h.running gid ((hst.hasStatus_iff h.left hd ha hx).mp hc)
  · exact h.running' gid ((hst'.hasStatus_iff h.right hd hb hy).mp hc)

theorem Twin.refusedDevice {r r' : DeviceCommandResult} (h : Twin cfg s t)
    (hs : s.deviceResults.get? r.requestId = none) (ht : t.deviceResults.get? r.requestId = none)
    (hid : r'.requestId = r.requestId)
    (hverdict : (r.accepted, r.reason) = (r'.accepted, r'.reason)) :
    Twin cfg (rememberDevice s r).2 (rememberDevice t r').2 where
  left := h.left.congr (rememberDevice_states ..) (rememberDevice_deviceStates ..)
    (rememberDevice_published ..)
  right := h.right.congr (rememberDevice_states ..) (rememberDevice_deviceStates ..)
    (rememberDevice_published ..)
  devices := by
    rw [rememberDevice_deviceStates, rememberDevice_deviceStates]
    exact h.devices
  groups := by
    rw [rememberDevice_states, rememberDevice_states]
    exact h.groups
  results := by
    rw [rememberDevice_results, rememberDevice_results]
    exact h.results
  deviceResults := by
    rw [rememberDevice_deviceResults, rememberDevice_deviceResults, hid]
    exact h.deviceResults.record hs ht hverdict
  running gid hc := h.running gid (hc.congr (rememberDevice_states ..).symm)
  running' gid hc := h.running' gid (hc.congr (rememberDevice_states ..).symm)

/-- What a patch or a resumption makes of the desired fields depends on the desired fields. -/
theorem patchedDevice_desired {a b : DeviceStatePayload} (command : DeviceCommand)
    (hgroups : a.groupIds = b.groupIds) (h : a.desired = b.desired) :
    (patchedDevice a command).desired = (patchedDevice b command).desired := by
  have henabled : a.enabled = b.enabled := congrArg DeviceDesired.enabled h
  have hpower : a.power = b.power := congrArg DeviceDesired.power h
  have hmode : a.controlMode = b.controlMode := congrArg DeviceDesired.controlMode h
  unfold patchedDevice DeviceStatePayload.desired
  dsimp only
  rw [henabled, hpower, hmode, hgroups]

/-- Resumed on both sides, a device takes the same target from its first group. -/
theorem resumedDevice_desired {a b x y : DeviceStatePayload} (h : Twin cfg s t)
    (hgroups : a.groupIds = b.groupIds)
    (hx : ∃ g ∈ cfg.groups, ∃ state targets target, a.groupIds.head? = some g.id
      ∧ s.states.get? g.id = some state ∧ calculateTargets cfg units (clk 0) state = .ok targets
      ∧ targets.get? d.id = some target ∧ x = resumedDevice a target command)
    (hy : ∃ g ∈ cfg.groups, ∃ state targets target, b.groupIds.head? = some g.id
      ∧ t.states.get? g.id = some state ∧ calculateTargets cfg units (clk 0) state = .ok targets
      ∧ targets.get? d.id = some target ∧ y = resumedDevice b target command) :
    x.groupIds = a.groupIds ∧ y.groupIds = b.groupIds ∧ x.desired = y.desired := by
  obtain ⟨g, hg, p, targets, target, hfirst, hp, htargets, htarget, rfl⟩ := hx
  obtain ⟨g', hg', q, targets', target', hfirst', hq, htargets', htarget', rfl⟩ := hy
  rw [← hgroups, hfirst] at hfirst'
  obtain rfl := AppConfig.group_eq hg hg' (Option.some.inj hfirst')
  -- the two records of that group ask for the same
  have hpq := h.groups g.id
  rw [hp, hq] at hpq
  have hsame := sameDesired_of_eq (h.left.groupInv hg hp) (h.right.groupInv hg hq)
    (Option.some.inj hpq)
  rw [hsame.targets_eq (h.left.groupInv hg hp), htargets] at htargets'
  cases htargets'
  rw [htarget] at htarget'
  cases htarget'
  exact ⟨rfl, rfl, rfl⟩

/-- Not refused, a command is stored on both sides. -/
theorem twin_stored {a b : DeviceStatePayload} (h : Twin cfg s t)
    (hs : s.deviceResults.get? command.requestId = none)
    (ht : t.deviceResults.get? command.requestId = none) (hd : d ∈ cfg.devices)
    (ha : s.deviceStates.get? d.id = some a) (hb : t.deviceStates.get? d.id = some b)
    (hdesired : a.desired = b.desired) (hua : Unlocked s a.groupIds) (hub : Unlocked t b.groupIds)
    (hreason : deviceRefusal cfg d command = none) :
    ((applyDevice cfg units clk d.id command s).1.toOption.map (fun r => (r.accepted, r.reason))
      = (applyDevice cfg units clk d.id command t).1.toOption.map
          (fun r => (r.accepted, r.reason)))
      ∧ Twin cfg (applyDevice cfg units clk d.id command s).2
          (applyDevice cfg units clk d.id command t).2 := by
  have hgroups : a.groupIds = b.groupIds :=
    (h.left.deviceInv hd ha).groupIds.trans (h.right.deviceInv hd hb).groupIds.symm
  obtain ⟨r, s', x, hres, hid, hv, hst, hpatch, hresume⟩ :=
    applyDevice_stored units clk h.left hs ha hd hua hreason
  obtain ⟨r', t', y, hres', hid', hv', hst', hpatch', hresume'⟩ :=
    applyDevice_stored units clk h.right ht hb hd hub hreason
  have hupdated : x.groupIds = a.groupIds ∧ y.groupIds = b.groupIds ∧ x.desired = y.desired := by
    by_cases haction : command.action = some .resumeGroup
    · exact resumedDevice_desired h hgroups (hresume haction) (hresume' haction)
    · rw [hpatch haction, hpatch' haction]
      exact ⟨rfl, rfl, patchedDevice_desired command hgroups hdesired⟩
  obtain ⟨hx, hy, hxy⟩ := hupdated
  have hinv : ServiceInv cfg (serviceStep cfg units s (.applyDevice d.id command clk)) :=
    serviceInv_step _ _ h.left
  have hinv' : ServiceInv cfg (serviceStep cfg units t (.applyDevice d.id command clk)) :=
    serviceInv_step _ _ h.right
  rw [serviceStep, hres] at hinv
  rw [serviceStep, hres'] at hinv'
  rw [hres, hres']
  refine ⟨congrArg some (hv.trans hv'.symm), ?_⟩
  exact h.stored hinv hinv' hs ht hd ha hb hx hy hxy hst hst' hid hid' (hv.trans hv'.symm)

theorem twin_applyDevice (h : Twin cfg s t) (deviceId : String) :
    commandView cfg units s (.applyDevice deviceId command clk)
        = commandView cfg units t (.applyDevice deviceId command clk)
      ∧ Twin cfg (applyDevice cfg units clk deviceId command s).2
          (applyDevice cfg units clk deviceId command t).2 := by
  have key : ((applyDevice cfg units clk deviceId command s).1.toOption.map
        (fun r => (r.accepted, r.reason))
      = (applyDevice cfg units clk deviceId command t).1.toOption.map
        (fun r => (r.accepted, r.reason)))
      ∧ Twin cfg (applyDevice cfg units clk deviceId command s).2
          (applyDevice cfg units clk deviceId command t).2 := by
    rcases h.deviceResults.lookup command.requestId with ⟨hs, ht⟩ | ⟨r, r', hs, ht, hverdict⟩
    · cases ha : s.deviceStates.get? deviceId with
      | none =>
          have hb : t.deviceStates.get? deviceId = none := by
            have hdev := h.devices deviceId
            rw [ha] at hdev
            exact Option.map_eq_none_iff.mp hdev.symm
          unfold applyDevice
          rw [hs, ht, ha, hb]
          exact ⟨rfl, h.refusedDevice hs ht rfl rfl⟩
      | some a =>
          obtain ⟨d, rfl, hda⟩ := h.left.device deviceId a ha
          obtain ⟨_, b, ha', hb, hdesired⟩ := h.device hda.mem
          rw [ha] at ha'
          cases ha'
          -- no group is stopped on either side, so none is locked
          have hua : Unlocked s a.groupIds := fun gid _ state hstate hc =>
            h.running gid ⟨state, hstate, hc⟩
          have hub : Unlocked t b.groupIds := fun gid _ state hstate hc =>
            h.running' gid ⟨state, hstate, hc⟩
          cases hreason : deviceRefusal cfg d command with
          | some reason =>
              rw [applyDevice_refused h.left hs ha hda.mem hua hreason,
                applyDevice_refused h.right ht hb hda.mem hub hreason]
              exact ⟨rfl, h.refusedDevice hs ht rfl rfl⟩
          | none => exact twin_stored h hs ht hda.mem ha hb hdesired hua hub hreason
    · unfold applyDevice
      rw [hs, ht]
      exact ⟨congrArg some hverdict, h⟩
  exact ⟨key.2.view key.1, key.2⟩

end ApplyDevice

/-! ## Observations -/

/-- An observation on one side is invisible to the relation. -/
theorem twin_observe {s t : ServiceState} (h : Twin cfg s t) (event : ObserverEvent)
    (clk : Clock) : Twin cfg (serviceStep cfg units s (.observe event clk)) t := by
  have hinv : ServiceInv cfg (serviceStep cfg units s (.observe event clk)) :=
    serviceInv_step _ _ h.left
  have hres := recordObserverEvent_results cfg units clk event s
  have hout := recordObserverEvent_outcome units clk event h.left
  rw [serviceStep] at hinv ⊢
  generalize recordObserverEvent cfg units clk event s = out at hout hinv hres ⊢
  obtain ⟨r, s'⟩ := out
  have hresults : Dict.Alike (fun r : GroupCommandResult => (r.accepted, r.reason)) s'.results
      t.results := hres.results ▸ h.results
  have hdeviceResults : Dict.Alike (fun r : DeviceCommandResult => (r.accepted, r.reason))
      s'.deviceResults t.deviceResults := hres.deviceResults ▸ h.deviceResults
  cases hout with
  | unknown => exact h
  | stale => exact h
  | @merged d current _ hd hid hcur _ hmerged =>
      have hpresent : ∀ gid ∈ current.groupIds, ∃ state, s.states.get? gid = some state := by
        intro gid hgid
        obtain ⟨_, _, _, _, state, hstate, _⟩ :=
          h.left.named_group (h.left.deviceInv hd (hid ▸ hcur)) hgid
        exact ⟨state, hstate⟩
      refine ⟨hinv, h.right, fun did => ?_, fun gid => ?_, hresults, hdeviceResults, fun gid hc => ?_,
        h.running'⟩
      · rw [hmerged.device, Dict.get?_set]
        split
        · rename_i heq
          subst heq
          obtain ⟨_, _, henabled, hpower, hmode, hlast⟩ := mergeEvent_fields current event
          have hold := h.devices event.deviceId
          rw [hcur] at hold
          rw [← hold]
          show some (DeviceDesired.mk _ _ _ _) = some (DeviceDesired.mk _ _ _ _)
          rw [henabled, hpower, hmode, hlast]
        · exact h.devices did
      · rw [← h.groups gid]
        cases hrefresh : refreshes current event with
        | false => rw [hmerged.unrefreshed hrefresh]
        | true => exact (hmerged.refreshed hrefresh).map_eq hpresent (fun _ _ => rfl) gid
      · obtain ⟨after, hafter, hstop⟩ := hc
        cases hrefresh : refreshes current event with
        | false => exact h.running gid ⟨after, hmerged.unrefreshed hrefresh ▸ hafter, hstop⟩
        | true =>
            obtain ⟨before, hbefore, hcase⟩ :=
              (hmerged.refreshed hrefresh).before hpresent hafter
            rcases hcase with ⟨_, rfl⟩ | ⟨_, _, _, _, rfl⟩
            · exact h.running gid ⟨after, hbefore, hstop⟩
            · exact observedStatus_ne_emergencyStop _ hstop

/-! ## Two runs -/

theorem Started.twin {clk : Clock} {s₀ : ServiceState} (h : Started cfg units clk s₀) :
    Twin cfg s₀ s₀ := by
  have hrunning : ∀ gid, ¬ HasStatus gid .emergencyStop s₀ := by
    rintro gid ⟨state, hstate, hstop⟩
    obtain ⟨g, rfl, hg⟩ := h.inv.group gid state hstate
    exact h.not_stopped hg.mem ⟨state, hstate, hstop⟩
  exact ⟨h.inv, h.inv, fun _ => rfl, fun _ => rfl, Dict.Alike.refl _ _, Dict.Alike.refl _ _,
    hrunning, hrunning⟩

/--
**Deleting every observation from a run changes no answer and no desired field.**

The two runs are compared command by command: the accepted flag and the reason of
its result, or that it raised, and the desired fields of every device and group
behind it. A command keeps its clock readings when the observations around it go.
-/
theorem observations_invisible {s₀ : ServiceState} {clk₀ : Clock}
    (hinit : GroupControlService.init cfg units clk₀ = .ok s₀) {ops : List ServiceOp}
    (hops : ∀ op ∈ ops, AsksNoStop op) :
    Run.trace (serviceStep cfg units) (commandView cfg units) s₀ ops
      = Run.trace (serviceStep cfg units) (commandView cfg units) s₀ (ops.filter isCommand) := by
  refine Run.trace_filter (R := Twin cfg) ?_ ?_ hops (init_started hinit).twin
  · intro s t op hop hcommand h
    cases op with
    | apply groupId command clk => exact twin_apply h groupId hop
    | applyDevice deviceId command clk => exact twin_applyDevice h deviceId
    | observe event clk => exact absurd hcommand Bool.false_ne_true
  · intro s t op _ hcommand h
    cases op with
    | apply groupId command clk => exact absurd hcommand.symm Bool.false_ne_true
    | applyDevice deviceId command clk => exact absurd hcommand.symm Bool.false_ne_true
    | observe event clk => exact ⟨rfl, twin_observe h event clk⟩

/-- A poll between an override and a group patch is invisible. -/
theorem observations_invisible_reefTank :
    let override : ServiceOp := .applyDevice "left"
      { requestId := "override-1", enabled := some true } (fun _ => 1)
    let raise : ServiceOp := .apply "flow"
      { requestId := "raise-01", power := some ⟨60, by decide⟩ } (fun _ => 3)
    let poll : ServiceOp := .observe leftPoll (fun _ => 2)
    Run.trace (serviceStep reefTank steadyUnits) (commandView reefTank steadyUnits)
        (startState reefTank steadyUnits (fun _ => 0)) [override, poll, raise]
      = Run.trace (serviceStep reefTank steadyUnits) (commandView reefTank steadyUnits)
        (startState reefTank steadyUnits (fun _ => 0)) [override, raise] := by
  intro override raise poll
  have hinit := @startState_eq reefTank steadyUnits (fun _ => 0) (by decide +kernel)
  have hops : ∀ op ∈ [override, poll, raise], AsksNoStop op := by
    intro op hop
    simp only [List.mem_cons, List.not_mem_nil, or_false] at hop
    rcases hop with rfl | rfl | rfl
    · trivial
    · trivial
    · exact fun h => nomatch h
  exact observations_invisible hinit hops

end JebaoFlow
