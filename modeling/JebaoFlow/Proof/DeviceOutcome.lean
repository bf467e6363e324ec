import JebaoFlow.Proof.Loops

/-!
# What a device command can do

`DeviceOutcome` lists the ways `apply_device` can go from a state that satisfies
`ServiceInv`. The two accepting outcomes write one device record and rewrite the
records of exactly its groups.
-/

namespace JebaoFlow

open PyFloat

variable {cfg : AppConfig} {units : UnitSource}

/-! ## Outcomes -/

/-- The state an accepted device command leaves. -/
structure Stored (cfg : AppConfig) (units : UnitSource) (clk : Clock) (d : DeviceConfig)
    (updated : DeviceStatePayload) (result : DeviceCommandResult) (s s' : ServiceState) :
    Prop where
  accepted : result.accepted = true
  remembered : s'.deviceResults = (rememberDevice s result).2.deviceResults
  results : s'.results = s.results
  device : s'.deviceStates = s.deviceStates.set d.id updated
  groups : Refreshed cfg units clk (refreshedGroup true) updated.groupIds s'.deviceStates
    s.states s'.states
  published : s'.lastPublishedSeenAt = s.lastPublishedSeenAt

/-- No group the record names is in emergency stop. -/
def Unlocked (s : ServiceState) (groupIds : List String) : Prop :=
  ∀ gid ∈ groupIds, ∀ state, s.states.get? gid = some state → state.status ≠ .emergencyStop

/-- What a device command that passes every check looks like. -/
structure DeviceAdmitted (cfg : AppConfig) (s : ServiceState) (d : DeviceConfig)
    (current : DeviceStatePayload) (command : DeviceCommand) : Prop where
  mode : cfg.runtime.mode = .control
  lock : Unlocked s current.groupIds
  resume : command.action = some .resumeGroup → "resume_group" ∈ deviceControls cfg d
  patch : command.action ≠ some .resumeGroup → deviceRejection cfg d command = none

inductive DeviceOutcome (cfg : AppConfig) (units : UnitSource) (clk : Clock) (deviceId : String)
    (command : DeviceCommand) (s : ServiceState) :
    Except PyError DeviceCommandResult → ServiceState → Prop where
  /-- The request id was seen before: the recorded result comes back, nothing changes. -/
  | replayed {result : DeviceCommandResult}
      (hold : s.deviceResults.get? command.requestId = some result) :
      DeviceOutcome cfg units clk deviceId command s (.ok result) s
  | unknown (hnew : s.deviceResults.get? command.requestId = none)
      (hdevice : s.deviceStates.get? deviceId = none) {result : DeviceCommandResult}
      (hresult : result.accepted = false) :
      DeviceOutcome cfg units clk deviceId command s (.ok result) (rememberDevice s result).2
  | rejected {d : DeviceConfig} {current : DeviceStatePayload}
      (hnew : s.deviceResults.get? command.requestId = none)
      (hd : d ∈ cfg.devices) (hid : d.id = deviceId)
      (hcur : s.deviceStates.get? deviceId = some current)
      (hreject : ¬ DeviceAdmitted cfg s d current command) {result : DeviceCommandResult}
      (hresult : result.accepted = false) :
      DeviceOutcome cfg units clk deviceId command s (.ok result) (rememberDevice s result).2
  /-- `RESUME_GROUP`: the device takes the target of the first of its groups. -/
  | resumed {d : DeviceConfig} {current : DeviceStatePayload} {g : GroupConfig}
      {state : GroupStatePayload} {targets : Dict String DeviceTarget} {target : DeviceTarget}
      {result : DeviceCommandResult} {s' : ServiceState}
      (hnew : s.deviceResults.get? command.requestId = none)
      (hd : d ∈ cfg.devices) (hid : d.id = deviceId)
      (hcur : s.deviceStates.get? deviceId = some current)
      (hpass : DeviceAdmitted cfg s d current command)
      (haction : command.action = some .resumeGroup)
      (hg : g ∈ cfg.groups) (hfirst : current.groupIds.head? = some g.id)
      (hstate : s.states.get? g.id = some state)
      (htargets : calculateTargets cfg units (clk 0) state = .ok targets)
      (htarget : targets.get? deviceId = some target)
      (hstored : Stored cfg units clk d (resumedDevice current target command) result s s') :
      DeviceOutcome cfg units clk deviceId command s (.ok result) s'
  | patched {d : DeviceConfig} {current : DeviceStatePayload} {result : DeviceCommandResult}
      {s' : ServiceState}
      (hnew : s.deviceResults.get? command.requestId = none)
      (hd : d ∈ cfg.devices) (hid : d.id = deviceId)
      (hcur : s.deviceStates.get? deviceId = some current)
      (hpass : DeviceAdmitted cfg s d current command)
      (haction : command.action ≠ some .resumeGroup)
      (hstored : Stored cfg units clk d (patchedDevice current command) result s s') :
      DeviceOutcome cfg units clk deviceId command s (.ok result) s'

/-! ## The emergency lock over a device's groups -/

/-- The scan over a device's groups answers, and it answers `False` exactly when none is locked. -/
theorem anyEmergencyStop_ok {s : ServiceState} : ∀ {groupIds : List String},
    (∀ gid ∈ groupIds, ∃ state, s.states.get? gid = some state) →
    ∃ locked, anyEmergencyStop s groupIds = .ok locked ∧ (locked = false ↔ Unlocked s groupIds) := by
  intro groupIds
  induction groupIds with
  | nil =>
      intro _
      exact ⟨false, rfl, fun _ gid hgid => absurd hgid List.not_mem_nil, fun _ => rfl⟩
  | cons gid groupIds ih =>
      intro hpresent
      obtain ⟨state, hstate⟩ := hpresent gid (List.mem_cons_self ..)
      obtain ⟨locked, hrest, hiff⟩ := ih (fun gid' h => hpresent gid' (List.mem_cons_of_mem _ h))
      rw [anyEmergencyStop, hstate]
      dsimp only
      by_cases hstop : state.status = .emergencyStop
      · rw [if_pos hstop]
        refine ⟨true, rfl, fun h => Bool.noConfusion h, fun h => ?_⟩
        exact absurd hstop (h gid (List.mem_cons_self ..) state hstate)
      · rw [if_neg hstop]
        refine ⟨locked, hrest, fun h => ?_, fun h => ?_⟩
        · intro gid' hgid' state' hstate'
          rcases List.mem_cons.mp hgid' with rfl | htl
          · rw [hstate] at hstate'
            cases hstate'
            exact hstop
          · exact hiff.mp h gid' htl state' hstate'
        · exact hiff.mpr (fun gid' h' => h gid' (List.mem_cons_of_mem _ h'))

/-! ## The inversion -/

/-- **Storing an individual record rewrites the records of its groups and returns.** -/
theorem commitDevice_ok (units : UnitSource) (clk : Clock) (command : DeviceCommand)
    (updated : DeviceStatePayload) {d : DeviceConfig} {current : DeviceStatePayload}
    {s : ServiceState}
    (hinv : ServiceInv cfg s) (hd : d ∈ cfg.devices)
    (hcur : s.deviceStates.get? d.id = some current) (hgroups : updated.groupIds = current.groupIds) :
    ∃ s' result, commitDevice cfg units clk d.id updated command s = (.ok result, s')
      ∧ Stored cfg units clk d updated result s s' := by
  have hdinv := hinv.deviceInv hd hcur
  obtain ⟨states, hloop, href⟩ := refreshLoop_ok units clk (refreshedGroup true)
    updated.groupIds 1 { s with deviceStates := s.deviceStates.set d.id updated }
    (hgroups ▸ hdinv.groupIds_nodup)
    (fun gid hgid => by
      obtain ⟨g, _, _, _, state, hstate, hg⟩ := hinv.named_group hdinv (hgroups ▸ hgid)
      exact ⟨g, state, hstate, hg⟩)
  have hcommit : commitDevice cfg units clk d.id updated command s
      = rememberDevice
          { s with
            deviceStates := s.deviceStates.set d.id updated
            states := states }
          { requestId := command.requestId
            deviceId := d.id
            accepted := true
            revision := updated.revision } := by
    unfold commitDevice refreshGroupMembers
    dsimp only
    rw [hloop]
  exact ⟨_, _, hcommit, rfl, rfl, rfl, rfl, href, rfl⟩

/-- `RESUME_GROUP` finds the target of the first group, whose record is well formed. -/
theorem resumeTarget_ok (units : UnitSource) (now : ℚ) {d : DeviceConfig}
    {current : DeviceStatePayload} {s : ServiceState} (hinv : ServiceInv cfg s)
    (hdinv : DeviceInv cfg d current) (hgrouped : cfg.groupsOf d.id ≠ []) :
    ∃ g ∈ cfg.groups, ∃ state targets target, current.groupIds.head? = some g.id
      ∧ s.states.get? g.id = some state
      ∧ calculateTargets cfg units now state = .ok targets
      ∧ targets.get? d.id = some target
      ∧ resumeTarget cfg units now current d.id s = .ok target := by
  have hne : current.groupIds ≠ [] := by
    rw [hdinv.groupIds]
    exact fun h => hgrouped (List.map_eq_nil_iff.mp h)
  cases hids : current.groupIds with
  | nil => exact absurd hids hne
  | cons gid rest =>
      have hmem : gid ∈ current.groupIds := hids ▸ List.mem_cons_self ..
      obtain ⟨g, hg, hid, hdev, state, hstate, hginv⟩ := hinv.named_group hdinv hmem
      obtain ⟨targets, htargets, hfor⟩ := hginv.targets units now
      obtain ⟨m, hm, hdevice⟩ := List.mem_map.mp hdev
      obtain ⟨target, htarget, _⟩ := hfor.member m hm
      rw [hdevice] at htarget
      refine ⟨g, hg, state, targets, target, ?_, hid ▸ hstate, htargets, htarget, ?_⟩
      · rw [List.head?_cons, hid]
      · unfold resumeTarget
        rw [hids]
        dsimp only
        rw [hstate]
        refine (PyError.bind_of_ok htargets).trans ?_
        split
        · rename_i hmissing
          exact absurd (htarget.symm.trans hmissing) (by simp)
        · rename_i hfound
          exact congrArg Except.ok (Option.some.inj (hfound.symm.trans htarget))

/-- Only a device with groups offers `resume_group`. -/
theorem resume_grouped {d : DeviceConfig} (h : "resume_group" ∈ deviceControls cfg d) :
    cfg.groupsOf d.id ≠ [] := by
  intro hnil
  unfold deviceControls at h
  rw [if_neg (not_not.mpr hnil)] at h
  split at h
  · exact absurd h List.not_mem_nil
  · split at h
    · exact absurd h (by decide)
    · exact absurd h (by decide)

/-- **Every call of `apply_device` is one of the listed outcomes.** -/
theorem applyDevice_outcome (units : UnitSource) (clk : Clock) (deviceId : String)
    (command : DeviceCommand) {s : ServiceState} (hinv : ServiceInv cfg s) :
    DeviceOutcome cfg units clk deviceId command s
      (applyDevice cfg units clk deviceId command s).1
      (applyDevice cfg units clk deviceId command s).2 := by
  unfold applyDevice
  cases hres : s.deviceResults.get? command.requestId with
  | some result => exact .replayed hres
  | none =>
      cases hcur : s.deviceStates.get? deviceId with
      | none => exact .unknown hres hcur rfl
      | some current =>
          obtain ⟨d, hid, hdinv⟩ := hinv.device deviceId current hcur
          subst hid
          dsimp only
          by_cases hobs : cfg.runtime.mode = .observer
          · rw [if_pos hobs]
            refine .rejected hres hdinv.mem rfl hcur (fun h => ?_) rfl
            exact RuntimeMode.noConfusion (hobs.symm.trans h.mode)
          rw [if_neg hobs]
          have hmode : cfg.runtime.mode = .control := by
            cases hm : cfg.runtime.mode with
            | observer => exact absurd hm hobs
            | control => rfl
          -- the lock is looked up over the groups the record names, all of them configured
          obtain ⟨locked, hlocked, hunlocked⟩ := anyEmergencyStop_ok (fun gid hgid => by
            obtain ⟨_, _, _, _, state, hstate, _⟩ := hinv.named_group hdinv hgid
            exact ⟨state, hstate⟩)
          rw [hlocked]
          cases locked with
          | true =>
              refine .rejected hres hdinv.mem rfl hcur (fun h => ?_) rfl
              exact Bool.noConfusion (hunlocked.mpr h.lock)
          | false =>
              have hlock := hunlocked.mp rfl
              dsimp only
              rw [AppConfig.deviceConfig_of_mem hdinv.mem]
              dsimp only
              split
              · -- an explicit return to group control
                rename_i hresume
                split
                · rename_i hcontrol
                  exact .rejected hres hdinv.mem rfl hcur (fun h => hcontrol (h.resume hresume)) rfl
                · rename_i hcontrol
                  have hgrouped := resume_grouped (not_not.mp hcontrol)
                  obtain ⟨g, hg, state, targets, target, hfirst, hstate, htargets, htarget, hok⟩ :=
                    resumeTarget_ok units (clk 0) hinv hdinv hgrouped
                  rw [hok]
                  obtain ⟨s', result, hcommit, hstored⟩ := commitDevice_ok units clk command
                    (resumedDevice current target command) hinv hdinv.mem hcur rfl
                  dsimp only
                  rw [hcommit]
                  refine .resumed hres hdinv.mem rfl hcur ⟨hmode, hlock, fun _ => not_not.mp hcontrol,
                    fun h => absurd hresume h⟩ hresume hg hfirst hstate htargets htarget hstored
              · rename_i hresume
                split
                · rename_i reason hrej
                  refine .rejected hres hdinv.mem rfl hcur (fun h => ?_) rfl
                  rw [h.patch hresume] at hrej
                  cases hrej
                · rename_i hrej
                  obtain ⟨s', result, hcommit, hstored⟩ := commitDevice_ok units clk command
                    (patchedDevice current command) hinv hdinv.mem hcur rfl
                  rw [hcommit]
                  exact .patched hres hdinv.mem rfl hcur ⟨hmode, hlock, fun h => absurd h hresume,
                    fun _ => hrej⟩ hresume hstored

end JebaoFlow
