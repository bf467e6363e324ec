import JebaoFlow.Proof.Members

/-!
# What the service's loops do

`_sync_group_devices` walks the members of one group and writes their device
records; the refresh loops walk the groups of one device and rewrite the group
records. On well-formed states neither raises, each touches exactly the records
it names, and what it writes there does not depend on the order of the walk.
-/

namespace JebaoFlow

open PyFloat

variable {cfg : AppConfig} {units : UnitSource}

/-! ## The invariant of the service -/

/-- What every record of a configured device keeps. -/
structure DeviceInv (cfg : AppConfig) (d : DeviceConfig) (state : DeviceStatePayload) : Prop where
  mem : d ∈ cfg.devices
  deviceId : state.deviceId = d.id
  groupIds : state.groupIds = (cfg.groupsOf d.id).map GroupConfig.id
  /-- Standalone is what a device outside every group is. -/
  standalone : state.controlMode = .standalone ↔ state.groupIds = []

/-- Exactly the configured groups and devices have records, and all are well formed. -/
structure ServiceInv (cfg : AppConfig) (s : ServiceState) : Prop where
  group : ∀ gid state, s.states.get? gid = some state → ∃ g, g.id = gid ∧ GroupInv cfg g state
  group_present : ∀ g ∈ cfg.groups, ∃ state, s.states.get? g.id = some state
  device : ∀ did state, s.deviceStates.get? did = some state →
    ∃ d, d.id = did ∧ DeviceInv cfg d state
  device_present : ∀ d ∈ cfg.devices, ∃ state, s.deviceStates.get? d.id = some state
  published : ∀ d ∈ cfg.devices, ∃ seen, s.lastPublishedSeenAt.get? d.id = some seen

theorem ServiceInv.groupInv {s : ServiceState} (h : ServiceInv cfg s) {g : GroupConfig}
    (hg : g ∈ cfg.groups) {state : GroupStatePayload} (hs : s.states.get? g.id = some state) :
    GroupInv cfg g state := by
  obtain ⟨g', hid, hinv⟩ := h.group g.id state hs
  have : g' = g := AppConfig.group_eq hinv.mem hg hid
  exact this ▸ hinv

theorem ServiceInv.deviceInv {s : ServiceState} (h : ServiceInv cfg s) {d : DeviceConfig}
    (hd : d ∈ cfg.devices) {state : DeviceStatePayload}
    (hs : s.deviceStates.get? d.id = some state) : DeviceInv cfg d state := by
  obtain ⟨d', hid, hinv⟩ := h.device d.id state hs
  have : d' = d := AppConfig.device_eq hinv.mem hd hid
  exact this ▸ hinv

/-- A member of a configured group has a device record. -/
theorem ServiceInv.member_present {s : ServiceState} (h : ServiceInv cfg s) {g : GroupConfig}
    (hg : g ∈ cfg.groups) {m : GroupMember} (hm : m ∈ g.members) :
    ∃ state, s.deviceStates.get? m.device = some state := by
  obtain ⟨d, hd, hid, _⟩ := AppConfig.deviceConfig_member hg hm
  exact hid ▸ h.device_present d hd

/-- The groups a device record names are the configured groups it is a member of. -/
theorem DeviceInv.mem_groupIds {d : DeviceConfig} {state : DeviceStatePayload}
    (h : DeviceInv cfg d state) {gid : String} :
    gid ∈ state.groupIds ↔ ∃ g ∈ cfg.groups, g.id = gid ∧ d.id ∈ g.deviceIds := by
  rw [h.groupIds, List.mem_map]
  constructor
  · rintro ⟨g, hg, hid⟩
    exact ⟨g, (AppConfig.mem_groupsOf.mp hg).1, hid, (AppConfig.mem_groupsOf.mp hg).2⟩
  · rintro ⟨g, hg, hid, hd⟩
    exact ⟨g, AppConfig.mem_groupsOf.mpr ⟨hg, hd⟩, hid⟩

theorem DeviceInv.groupIds_nodup {d : DeviceConfig} {state : DeviceStatePayload}
    (h : DeviceInv cfg d state) : state.groupIds.Nodup := by
  rw [h.groupIds]
  have hsub : (cfg.groupsOf d.id).Sublist cfg.groups := List.filter_sublist
  exact cfg.group_ids_unique.sublist (hsub.map GroupConfig.id)

/-- The groups a device record names have records of their own. -/
theorem ServiceInv.named_group {s : ServiceState} (h : ServiceInv cfg s) {d : DeviceConfig}
    {current : DeviceStatePayload} (hd : DeviceInv cfg d current) {gid : String}
    (hgid : gid ∈ current.groupIds) :
    ∃ g ∈ cfg.groups, g.id = gid ∧ d.id ∈ g.deviceIds
      ∧ ∃ state, s.states.get? gid = some state ∧ GroupInv cfg g state := by
  obtain ⟨g, hg, hid, hdev⟩ := hd.mem_groupIds.mp hgid
  obtain ⟨state, hstate⟩ := h.group_present g hg
  exact ⟨g, hg, hid, hdev, state, hid ▸ hstate, h.groupInv hg hstate⟩

/-! ## Writing the devices of a group -/

/-- What the sync makes of one device record: a skipped override, or a rewrite. -/
def afterSync (groupState : GroupStatePayload) (force : Bool) (power : Percent)
    (current : DeviceStatePayload) : DeviceStatePayload :=
  if current.controlMode = .manualOverride ∧ ¬ force then current
  else syncedDevice groupState power current

/-- An override survives a sync that does not force. -/
theorem afterSync_skip {groupState : GroupStatePayload} {power : Percent}
    {current : DeviceStatePayload} (h : current.controlMode = .manualOverride) :
    afterSync groupState false power current = current :=
  if_pos ⟨h, Bool.false_ne_true⟩

theorem afterSync_write {groupState : GroupStatePayload} {force : Bool} {power : Percent}
    {current : DeviceStatePayload} (h : current.controlMode = .manualOverride → force = true) :
    afterSync groupState force power current = syncedDevice groupState power current :=
  if_neg (fun hc => hc.2 (h hc.1))

/-- Either the record is skipped as it is, or it is rewritten. -/
theorem afterSync_cases (groupState : GroupStatePayload) (force : Bool) (power : Percent)
    (current : DeviceStatePayload) :
    ((current.controlMode = .manualOverride ∧ force = false)
        ∧ afterSync groupState force power current = current)
      ∨ ((current.controlMode = .manualOverride → force = true)
        ∧ afterSync groupState force power current = syncedDevice groupState power current) := by
  by_cases h : current.controlMode = .manualOverride ∧ ¬ force
  · exact Or.inl ⟨⟨h.1, Bool.not_eq_true _ ▸ h.2⟩, if_pos h⟩
  · refine Or.inr ⟨fun hman => ?_, if_neg h⟩
    by_contra hforce
    exact h ⟨hman, hforce⟩

theorem syncDevice_ok (groupState : GroupStatePayload) {rawTargets : Dict String DeviceTarget}
    (force : Bool) {member : String × GroupMemberState} {s : ServiceState}
    {current : DeviceStatePayload} {target : DeviceTarget}
    (hcur : s.deviceStates.get? member.1 = some current)
    (htarget : rawTargets.get? member.1 = some target) :
    ∃ deviceStates, syncDevice groupState rawTargets force member s
        = (.ok (), { s with deviceStates := deviceStates })
      ∧ ∀ d, deviceStates.get? d = if member.1 = d
          then some (afterSync groupState force
            (if force then target.power else member.2.targetPower) current)
          else s.deviceStates.get? d := by
  unfold syncDevice afterSync
  rw [hcur]
  dsimp only
  by_cases hskip : current.controlMode = .manualOverride ∧ ¬ force
  · rw [if_pos hskip, if_pos hskip]
    refine ⟨s.deviceStates, rfl, ?_⟩
    intro d
    by_cases hd : member.1 = d
    · rw [if_pos hd, ← hd, hcur]
    · rw [if_neg hd]
  · rw [if_neg hskip, if_neg hskip, htarget]
    cases force with
    | true => exact ⟨_, rfl, fun d => Dict.get?_set _ _ _ _⟩
    | false => exact ⟨_, rfl, fun d => Dict.get?_set _ _ _ _⟩

/--
The walk over a group's members. The induction is on the entries still to visit;
their keys are distinct, so each record is still the original one when its turn
comes.
-/
theorem syncLoop_ok (groupState : GroupStatePayload) (rawTargets : Dict String DeviceTarget)
    (force : Bool) : ∀ (entries : List (String × GroupMemberState)) (i : ℕ) (s : ServiceState),
    (entries.map Prod.fst).Nodup →
    (∀ e ∈ entries, ∃ current, s.deviceStates.get? e.1 = some current) →
    (∀ e ∈ entries, ∃ target, rawTargets.get? e.1 = some target) →
    ∃ deviceStates, forEach (fun _ member s => syncDevice groupState rawTargets force member s)
        i entries s = (.ok (), { s with deviceStates := deviceStates })
      ∧ (∀ d, d ∉ entries.map Prod.fst → deviceStates.get? d = s.deviceStates.get? d)
      ∧ ∀ e ∈ entries, ∀ current target, s.deviceStates.get? e.1 = some current →
          rawTargets.get? e.1 = some target →
          deviceStates.get? e.1 = some (afterSync groupState force
            (if force then target.power else e.2.targetPower) current) := by
  intro entries
  induction entries with
  | nil =>
      intro i s _ _ _
      exact ⟨s.deviceStates, rfl, fun _ _ => rfl, fun e he => absurd he (by simp)⟩
  | cons e es ih =>
      intro i s hnd hcur htar
      rw [List.map_cons, List.nodup_cons] at hnd
      obtain ⟨current, hc⟩ := hcur e (List.mem_cons_self ..)
      obtain ⟨target, ht⟩ := htar e (List.mem_cons_self ..)
      obtain ⟨d₁, hstep, hd₁⟩ := syncDevice_ok groupState force hc ht
      -- the entries still to visit have other keys, so this write leaves their records
      have hother : ∀ e' ∈ es, d₁.get? e'.1 = s.deviceStates.get? e'.1 := by
        intro e' he'
        rw [hd₁, if_neg]
        exact fun he => hnd.1 (he ▸ List.mem_map_of_mem he')
      obtain ⟨d₂, hloop, hkeep, hwrite⟩ := ih (i + 1) { s with deviceStates := d₁ } hnd.2
        (fun e' he' => by
          obtain ⟨c, hc'⟩ := hcur e' (List.mem_cons_of_mem _ he')
          exact ⟨c, (hother e' he').trans hc'⟩)
        (fun e' he' => htar e' (List.mem_cons_of_mem _ he'))
      refine ⟨d₂, ?_, ?_, ?_⟩
      · rw [forEach, hstep]
        exact hloop
      · intro d hd
        rw [List.map_cons, List.mem_cons, not_or] at hd
        rw [hkeep d hd.2, hd₁, if_neg (Ne.symm hd.1)]
      · intro e' he' current' target' hc' ht'
        rcases List.mem_cons.mp he' with heq | htl
        · subst heq
          rw [hkeep e'.1 hnd.1, hd₁, if_pos rfl]
          rw [hc] at hc'
          rw [ht] at ht'
          cases hc'; cases ht'
          rfl
        · exact hwrite e' htl current' target' ((hother e' htl).trans hc') ht'

/--
`_sync_group_devices` on a well-formed group record: the targets of that reading
exist, every member's device record is synchronised, and no other one is touched.
-/
theorem syncGroupDevices_ok (units : UnitSource) (now : ℚ) {g : GroupConfig}
    {state : GroupStatePayload} {s : ServiceState} (force : Bool) (hg : GroupInv cfg g state)
    (hstate : s.states.get? g.id = some state)
    (hpresent : ∀ m ∈ g.members, ∃ current, s.deviceStates.get? m.device = some current) :
    ∃ targets deviceStates, calculateTargets cfg units now state = .ok targets
      ∧ syncGroupDevices cfg units now g.id force s
          = (.ok (), { s with deviceStates := deviceStates })
      ∧ (∀ d, d ∉ g.deviceIds → deviceStates.get? d = s.deviceStates.get? d)
      ∧ ∀ m ∈ g.members, ∀ view before, state.members.get? m.device = some view →
          s.deviceStates.get? m.device = some before →
          ∃ target, targets.get? m.device = some target
            ∧ deviceStates.get? m.device = some (afterSync state force
                (if force then target.power else view.targetPower) before) := by
  obtain ⟨targets, htargets, hfor⟩ := hg.targets units now
  -- every entry of the record belongs to a configured member
  have hentry : ∀ e ∈ state.members.entries, ∃ m ∈ g.members, m.device = e.1 := by
    intro e he
    have hkey : e.1 ∈ state.members.keys := List.mem_map_of_mem he
    rw [hg.keys] at hkey
    exact List.mem_map.mp hkey
  have hcurrent : ∀ e ∈ state.members.entries, ∃ current, s.deviceStates.get? e.1 = some current := by
    intro e he
    obtain ⟨m, hm, hd⟩ := hentry e he
    exact hd ▸ hpresent m hm
  have htarget : ∀ e ∈ state.members.entries, ∃ target, targets.get? e.1 = some target := by
    intro e he
    obtain ⟨m, hm, hd⟩ := hentry e he
    obtain ⟨target, ht, _⟩ := hfor.member m hm
    exact ⟨target, hd ▸ ht⟩
  obtain ⟨deviceStates, hloop, hkeep, hwrite⟩ :=
    syncLoop_ok state targets force state.members.entries 0 s state.members.nodup hcurrent htarget
  refine ⟨targets, deviceStates, htargets, ?_, ?_, ?_⟩
  · unfold syncGroupDevices
    rw [hstate]
    dsimp only
    rw [htargets]
    exact hloop
  · intro d hd
    refine hkeep d (fun hmem => hd ?_)
    rw [← hg.keys]
    exact hmem
  · intro m hm view before hview hbefore
    obtain ⟨target, ht, _⟩ := hfor.member m hm
    exact ⟨target, ht, hwrite _ (Dict.get?_eq_some_iff.mp hview) before target hbefore ht⟩

/-! ## Rewriting the groups of a device -/

/-- `_refresh_group_members` and `_refresh_group_observation`, when the members can be computed. -/
theorem refreshWith_ok {write : GroupStatePayload → Dict String GroupMemberState → GroupStatePayload}
    {now : ℚ} {gid : String} {s : ServiceState} {before : GroupStatePayload}
    {members : Dict String GroupMemberState} (hbefore : s.states.get? gid = some before)
    (hmembers : calculateMembers cfg units now s.deviceStates before = .ok members) :
    refreshWith cfg units write now gid s
      = (.ok (), { s with states := s.states.set gid (write before members) }) := by
  unfold refreshWith
  rw [hbefore]
  dsimp only
  rw [hmembers]

/-- A group record rewritten from members computed at some reading of the clock. -/
def Rewritten (cfg : AppConfig) (units : UnitSource) (clk : Clock)
    (write : GroupStatePayload → Dict String GroupMemberState → GroupStatePayload)
    (deviceStates : Dict String DeviceStatePayload) (before after : GroupStatePayload) : Prop :=
  ∃ i members, calculateMembers cfg units (clk i) deviceStates before = .ok members
    ∧ after = write before members

/-- Exactly the groups in `gids` are rewritten. -/
structure Refreshed (cfg : AppConfig) (units : UnitSource) (clk : Clock)
    (write : GroupStatePayload → Dict String GroupMemberState → GroupStatePayload)
    (gids : List String) (deviceStates : Dict String DeviceStatePayload)
    (states states' : Dict String GroupStatePayload) : Prop where
  frame : ∀ gid, gid ∉ gids → states'.get? gid = states.get? gid
  rewritten : ∀ gid ∈ gids, ∀ before, states.get? gid = some before →
    ∃ after, states'.get? gid = some after
      ∧ Rewritten cfg units clk write deviceStates before after

/--
The walk over a device's groups. The group identifiers are distinct, so each
record is still the original one when its turn comes.
-/
theorem refreshLoop_ok (units : UnitSource) (clk : Clock)
    (write : GroupStatePayload → Dict String GroupMemberState → GroupStatePayload) :
    ∀ (gids : List String) (i : ℕ) (s : ServiceState), gids.Nodup →
    (∀ gid ∈ gids, ∃ g state, s.states.get? gid = some state ∧ GroupInv cfg g state) →
    ∃ states, forEach (fun i gid s => refreshWith cfg units write (clk i) gid s) i gids s
        = (.ok (), { s with states := states })
      ∧ Refreshed cfg units clk write gids s.deviceStates s.states states := by
  intro gids
  induction gids with
  | nil =>
      intro i s _ _
      exact ⟨s.states, rfl, fun _ _ => rfl, fun gid hgid => absurd hgid List.not_mem_nil⟩
  | cons gid gids ih =>
      intro i s hnd hinv
      rw [List.nodup_cons] at hnd
      obtain ⟨g, before, hbefore, hg⟩ := hinv gid (List.mem_cons_self ..)
      obtain ⟨_, members, _, _, hmembers, _⟩ := calculateMembers_ok units hg.mem hg.groupId
        hg.range hg.supported (clk i) s.deviceStates
      have hstep : refreshWith cfg units write (clk i) gid s = _ := refreshWith_ok hbefore hmembers
      -- likewise for the groups still to visit
      have hother : ∀ gid' ∈ gids, (s.states.set gid (write before members)).get? gid'
          = s.states.get? gid' := by
        intro gid' hgid'
        exact Dict.get?_set_ne _ _ (fun he => hnd.1 (he ▸ hgid'))
      obtain ⟨states, hloop, href⟩ := ih (i + 1)
        { s with states := s.states.set gid (write before members) } hnd.2
        (fun gid' hgid' => by
          obtain ⟨g', b', hb', hg'⟩ := hinv gid' (List.mem_cons_of_mem _ hgid')
          exact ⟨g', b', (hother gid' hgid').trans hb', hg'⟩)
      refine ⟨states, ?_, ?_, ?_⟩
      · rw [forEach, hstep]
        exact hloop
      · intro gid' hgid'
        rw [List.mem_cons, not_or] at hgid'
        rw [href.frame gid' hgid'.2, Dict.get?_set_ne _ _ (Ne.symm hgid'.1)]
      · intro gid' hgid' b hb
        rcases List.mem_cons.mp hgid' with heq | htl
        · subst heq
          rw [hbefore] at hb
          cases hb
          refine ⟨write before members, ?_, i, members, hmembers, rfl⟩
          rw [href.frame gid' hnd.1, Dict.get?_set_self]
        · exact href.rewritten gid' htl b ((hother gid' htl).trans hb)

end JebaoFlow
