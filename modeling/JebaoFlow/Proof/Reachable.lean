import JebaoFlow.Proof.GroupOutcome
import JebaoFlow.Proof.DeviceOutcome
import JebaoFlow.Proof.ObserveOutcome

/-!
# The invariant holds along every run

Each operation preserves `ServiceInv`, so every state of every run has exactly
the configured groups and devices, all with well-formed records.
-/

namespace JebaoFlow

open PyFloat

variable {cfg : AppConfig} {units : UnitSource}

/-! ## Records under rewriting -/

/-- The members computed from a well-formed record are those of its due targets. -/
theorem GroupInv.members_of_ok {g : GroupConfig} {state : GroupStatePayload} {now : ℚ}
    {deviceStates : Dict String DeviceStatePayload} {members : Dict String GroupMemberState}
    (h : GroupInv cfg g state)
    (hm : calculateMembers cfg units now deviceStates state = .ok members) :
    ∃ targets, calculateTargets cfg units now state = .ok targets
      ∧ TargetsFor g ⟨state.minPower, state.maxPower, h.range⟩ state.enabled targets
      ∧ MembersFor g deviceStates targets members := by
  obtain ⟨targets, members', htargets, hfor, hmembers, hmem⟩ := calculateMembers_ok units h.mem
    h.groupId h.range h.supported now deviceStates
  rw [hm] at hmembers
  cases hmembers
  exact ⟨targets, htargets, hfor, hmem⟩

/-- The two ways a record is rewritten keep everything but its members and observed fields. -/
theorem Rewritten.groupInv {g : GroupConfig} {clk : Clock} {changed : Bool}
    {deviceStates : Dict String DeviceStatePayload} {before after : GroupStatePayload}
    {write : GroupStatePayload → Dict String GroupMemberState → GroupStatePayload}
    (hw : write = refreshedGroup changed ∨ write = observedGroup changed)
    (h : Rewritten cfg units clk write deviceStates before after) (hinv : GroupInv cfg g before) :
    GroupInv cfg g after := by
  obtain ⟨i, members, hmembers, hafter⟩ := h
  obtain ⟨_, _, _, hmem⟩ := hinv.members_of_ok hmembers
  have hkeep := hinv.withMembers hmem.keys
  rcases hw with rfl | rfl
  · exact hafter ▸ ⟨hkeep.mem, hkeep.groupId, hkeep.range, hkeep.supported, hkeep.keys⟩
  · exact hafter ▸ ⟨hkeep.mem, hkeep.groupId, hkeep.range, hkeep.supported, hkeep.keys⟩

/-- After rewriting some groups, every record comes from one that was there. -/
theorem Refreshed.before {clk : Clock} {gids : List String}
    {write : GroupStatePayload → Dict String GroupMemberState → GroupStatePayload}
    {deviceStates : Dict String DeviceStatePayload} {states states' : Dict String GroupStatePayload}
    (h : Refreshed cfg units clk write gids deviceStates states states')
    (hpresent : ∀ gid ∈ gids, ∃ state, states.get? gid = some state) {gid : String}
    {after : GroupStatePayload} (hafter : states'.get? gid = some after) :
    ∃ before, states.get? gid = some before ∧ ((gid ∉ gids ∧ after = before)
      ∨ (gid ∈ gids ∧ Rewritten cfg units clk write deviceStates before after)) := by
  by_cases hgid : gid ∈ gids
  · obtain ⟨before, hbefore⟩ := hpresent gid hgid
    obtain ⟨after', hafter', hrew⟩ := h.rewritten gid hgid before hbefore
    rw [hafter] at hafter'
    cases hafter'
    exact ⟨before, hbefore, Or.inr ⟨hgid, hrew⟩⟩
  · exact ⟨after, (h.frame gid hgid).symm.trans hafter, Or.inl ⟨hgid, rfl⟩⟩

/-- Every record that was there still has one. -/
theorem Refreshed.present {clk : Clock} {gids : List String}
    {write : GroupStatePayload → Dict String GroupMemberState → GroupStatePayload}
    {deviceStates : Dict String DeviceStatePayload} {states states' : Dict String GroupStatePayload}
    (h : Refreshed cfg units clk write gids deviceStates states states') {gid : String}
    {before : GroupStatePayload} (hbefore : states.get? gid = some before) :
    ∃ after, states'.get? gid = some after := by
  by_cases hgid : gid ∈ gids
  · obtain ⟨after, hafter, _⟩ := h.rewritten gid hgid before hbefore
    exact ⟨after, hafter⟩
  · exact ⟨before, (h.frame gid hgid).trans hbefore⟩

/-! ## Device records under rewriting -/

theorem DeviceInv.synced {d : DeviceConfig} {current : DeviceStatePayload}
    {groupState : GroupStatePayload} {force : Bool} {power : Percent}
    (h : DeviceInv cfg d current) (hgrouped : current.groupIds ≠ []) :
    DeviceInv cfg d (afterSync groupState force power current) := by
  unfold afterSync
  split
  · exact h
  · exact ⟨h.mem, h.deviceId, h.groupIds,
      fun hc => DeviceControlMode.noConfusion hc, fun hc => absurd hc hgrouped⟩

theorem DeviceInv.patched {d : DeviceConfig} {current : DeviceStatePayload}
    (h : DeviceInv cfg d current) (command : DeviceCommand) :
    DeviceInv cfg d (patchedDevice current command) := by
  refine ⟨h.mem, h.deviceId, h.groupIds, ?_⟩
  show (if current.groupIds ≠ [] then _ else current.controlMode) = _ ↔ current.groupIds = []
  by_cases hg : current.groupIds = []
  · rw [if_neg (not_not.mpr hg)]
    exact h.standalone
  · rw [if_pos hg]
    exact ⟨fun hc => DeviceControlMode.noConfusion hc, fun hc => absurd hc hg⟩

theorem DeviceInv.resumed {d : DeviceConfig} {current : DeviceStatePayload} {target : DeviceTarget}
    {command : DeviceCommand} {gid : String} (h : DeviceInv cfg d current)
    (hfirst : current.groupIds.head? = some gid) :
    DeviceInv cfg d (resumedDevice current target command) := by
  refine ⟨h.mem, h.deviceId, h.groupIds, fun hc => DeviceControlMode.noConfusion hc, fun hc => ?_⟩
  have hnil : current.groupIds = [] := hc
  rw [hnil] at hfirst
  cases hfirst

theorem DeviceInv.merged {d : DeviceConfig} {current : DeviceStatePayload} (event : ObserverEvent)
    (h : DeviceInv cfg d current) : DeviceInv cfg d (mergeEvent current event).1 := by
  obtain ⟨hid, hgroups, _, _, hmode, _⟩ := mergeEvent_fields current event
  exact ⟨h.mem, hid.trans h.deviceId, hgroups.trans h.groupIds, by
    rw [hmode, hgroups]; exact h.standalone⟩

/-! ## Preservation -/

theorem ServiceInv.congr {s s' : ServiceState} (h : ServiceInv cfg s) (hs : s'.states = s.states)
    (hd : s'.deviceStates = s.deviceStates) (hp : s'.lastPublishedSeenAt = s.lastPublishedSeenAt) :
    ServiceInv cfg s' :=
  ⟨hs ▸ h.group, hs ▸ h.group_present, hd ▸ h.device, hd ▸ h.device_present, hp ▸ h.published⟩

/-- A state with one device record replaced and some groups rewritten stays well formed. -/
theorem ServiceInv.stored {s s' : ServiceState} {clk : Clock} {d : DeviceConfig}
    {changed : Bool} {gids : List String} {current updated : DeviceStatePayload}
    {write : GroupStatePayload → Dict String GroupMemberState → GroupStatePayload}
    (h : ServiceInv cfg s) (hd : d ∈ cfg.devices) (hcur : s.deviceStates.get? d.id = some current)
    (hupd : DeviceInv cfg d updated) (hgids : gids ⊆ current.groupIds)
    (hw : write = refreshedGroup changed ∨ write = observedGroup changed)
    (hdev : s'.deviceStates = s.deviceStates.set d.id updated)
    (href : Refreshed cfg units clk write gids s'.deviceStates s.states s'.states)
    (hpub : ∀ did seen, s.lastPublishedSeenAt.get? did = some seen →
      ∃ seen', s'.lastPublishedSeenAt.get? did = some seen') : ServiceInv cfg s' where
  group := by
    intro gid state hstate
    have hpresent : ∀ gid ∈ gids, ∃ state, s.states.get? gid = some state := by
      intro gid hgid
      obtain ⟨_, _, _, _, st, hst, _⟩ := h.named_group (h.deviceInv hd hcur) (hgids hgid)
      exact ⟨st, hst⟩
    -- the record was there before, as it is or rewritten
    obtain ⟨before, hbefore, hcase⟩ := href.before hpresent hstate
    obtain ⟨g, hid, hg⟩ := h.group gid before hbefore
    rcases hcase with ⟨_, rfl⟩ | ⟨_, hrew⟩
    · exact ⟨g, hid, hg⟩
    · exact ⟨g, hid, hrew.groupInv hw hg⟩
  group_present := by
    intro g hg
    obtain ⟨state, hstate⟩ := h.group_present g hg
    exact href.present hstate
  device := by
    intro did state hstate
    rw [hdev, Dict.get?_set] at hstate
    split at hstate
    · rename_i hid
      cases hstate
      exact ⟨d, hid, hupd⟩
    · exact h.device did state hstate
  device_present := by
    intro d' hd'
    rw [hdev, Dict.get?_set]
    split
    · exact ⟨updated, rfl⟩
    · exact h.device_present d' hd'
  published := by
    intro d' hd'
    obtain ⟨seen, hseen⟩ := h.published d' hd'
    exact hpub d'.id seen hseen

/-- What an accepted command makes of any one device record. -/
theorem Accepted.device_after {s s' : ServiceState} {clk : Clock} {g : GroupConfig}
    {current : GroupStatePayload} {command : GroupCommand} {result : GroupCommandResult}
    (hacc : Accepted cfg units clk g current command result s s') {did : String}
    {before : DeviceStatePayload} (hbefore : s.deviceStates.get? did = some before) :
    (did ∉ g.deviceIds ∧ s'.deviceStates.get? did = some before)
      ∨ ∃ m ∈ g.members, m.device = did ∧ ∃ targets target,
          calculateTargets cfg units (clk (syncReading command)) (JebaoFlow.patched current command)
            = .ok targets
          ∧ targets.get? did = some target
          ∧ s'.deviceStates.get? did = some (afterSync (JebaoFlow.patched current command)
              (forcesGroupControl command) target.power before) := by
  by_cases hmem : did ∈ g.deviceIds
  · obtain ⟨m, hm, hdev⟩ := List.mem_map.mp hmem
    obtain ⟨targets, htargets, hwrite⟩ := hacc.devices
    subst hdev
    obtain ⟨target, htarget, hafter⟩ := hwrite m hm before hbefore
    exact Or.inr ⟨m, hm, rfl, targets, target, htargets, htarget, hafter⟩
  · exact Or.inl ⟨hmem, (hacc.frame did hmem).trans hbefore⟩

theorem ServiceInv.accepted {s s' : ServiceState} {clk : Clock} {g : GroupConfig}
    {current : GroupStatePayload} {command : GroupCommand} {result : GroupCommandResult}
    (h : ServiceInv cfg s) (hg : g ∈ cfg.groups) (hcur : s.states.get? g.id = some current)
    (hadm : Admitted cfg current command)
    (hacc : Accepted cfg units clk g current command result s s') : ServiceInv cfg s' := by
  have hpinv := hadm.groupInv (h.groupInv hg hcur)
  obtain ⟨members, hstates, hmembers⟩ := hacc.group
  obtain ⟨_, _, _, hmem⟩ := hpinv.members_of_ok hmembers
  have hafter : ∀ d ∈ cfg.devices, ∃ state, s'.deviceStates.get? d.id = some state
      ∧ DeviceInv cfg d state := by
    intro d hd
    obtain ⟨before, hbefore⟩ := h.device_present d hd
    have hdinv := h.deviceInv hd hbefore
    rcases hacc.device_after hbefore with ⟨_, hsame⟩ | ⟨m, hm, hid, _, _, _, _, hsync⟩
    · exact ⟨before, hsame, hdinv⟩
    · refine ⟨_, hsync, hdinv.synced ?_⟩
      -- a synchronised device is grouped, so its new control mode is not standalone's
      have hgid : g.id ∈ before.groupIds :=
        hdinv.mem_groupIds.mpr ⟨g, hg, rfl, hid ▸ List.mem_map_of_mem hm⟩
      exact fun hnil => absurd (hnil ▸ hgid) List.not_mem_nil
  refine ⟨?_, ?_, ?_, fun d hd => ?_, ?_⟩
  · intro gid state hstate
    rw [hstates, Dict.get?_set] at hstate
    split at hstate
    · rename_i hid
      cases hstate
      exact ⟨g, hid, hpinv.withMembers hmem.keys⟩
    · exact h.group gid state hstate
  · intro g' hg'
    rw [hstates, Dict.get?_set]
    split
    · exact ⟨_, rfl⟩
    · exact h.group_present g' hg'
  · intro did state hstate
    by_cases hknown : did ∈ cfg.devices.map DeviceConfig.id
    · obtain ⟨d, hd, hid⟩ := List.mem_map.mp hknown
      obtain ⟨state', hstate', hdinv⟩ := hafter d hd
      rw [hid, hstate] at hstate'
      cases hstate'
      exact ⟨d, hid, hdinv⟩
    -- no unknown device is a member, so its record would be an old one
    · have hnot : did ∉ g.deviceIds := by
        intro hmem
        obtain ⟨m, hm, hid⟩ := List.mem_map.mp hmem
        exact hknown (hid ▸ cfg.members_known g hg m hm)
      rw [hacc.frame did hnot] at hstate
      exact h.device did state hstate
  · obtain ⟨state, hstate, _⟩ := hafter d hd
    exact ⟨state, hstate⟩
  · rw [hacc.published]
    exact h.published

theorem ApplyOutcome.serviceInv {s s' : ServiceState} {clk : Clock} {groupId : String}
    {command : GroupCommand} {r : Except PyError GroupCommandResult} (h : ServiceInv cfg s)
    (hout : ApplyOutcome cfg units clk groupId command s r s') : ServiceInv cfg s' := by
  cases hout with
  | replayed => exact h
  | unknown => exact h.congr (remember_states ..) (remember_deviceStates ..) (remember_published ..)
  | rejected => exact h.congr (remember_states ..) (remember_deviceStates ..) (remember_published ..)
  | accepted _ hg hid hcur hpass hacc =>
      subst hid
      exact h.accepted hg hcur (rejection_eq_none_iff.mp hpass) hacc

theorem DeviceOutcome.serviceInv {s s' : ServiceState} {clk : Clock} {deviceId : String}
    {command : DeviceCommand} {r : Except PyError DeviceCommandResult} (h : ServiceInv cfg s)
    (hout : DeviceOutcome cfg units clk deviceId command s r s') : ServiceInv cfg s' := by
  cases hout with
  | replayed => exact h
  | unknown =>
      exact h.congr (rememberDevice_states ..) (rememberDevice_deviceStates ..)
        (rememberDevice_published ..)
  | rejected =>
      exact h.congr (rememberDevice_states ..) (rememberDevice_deviceStates ..)
        (rememberDevice_published ..)
  | resumed _ hd hid hcur _ _ _ hfirst _ _ _ hst =>
      subst hid
      exact h.stored hd hcur ((h.deviceInv hd hcur).resumed hfirst) (List.Subset.refl _)
        (Or.inl rfl) hst.device hst.groups (fun _ seen hseen => ⟨seen, hst.published ▸ hseen⟩)
  | patched _ hd hid hcur _ _ hst =>
      subst hid
      exact h.stored hd hcur ((h.deviceInv hd hcur).patched _) (List.Subset.refl _) (Or.inl rfl)
        hst.device hst.groups (fun _ seen hseen => ⟨seen, hst.published ▸ hseen⟩)

theorem ObserveOutcome.serviceInv {s s' : ServiceState} {clk : Clock} {event : ObserverEvent}
    {r : Except PyError Unit} (h : ServiceInv cfg s)
    (hout : ObserveOutcome cfg units clk event s r s') : ServiceInv cfg s' := by
  cases hout with
  | unknown => exact h
  | stale => exact h
  | merged hd hid hcur _ hmerged =>
      rw [← hid] at hcur
      have hdinv := (h.deviceInv hd hcur).merged event
      have hdevice := hid ▸ hmerged.device
      cases hrefresh : refreshes _ event with
      | true =>
          exact h.stored hd hcur hdinv (List.Subset.refl _) (Or.inr rfl) hdevice
            (hmerged.refreshed hrefresh) hmerged.published
      | false =>
          have hsame : Refreshed cfg units clk (observedGroup false) [] s'.deviceStates s.states
              s'.states := by
            rw [hmerged.unrefreshed hrefresh]
            exact ⟨fun _ _ => rfl, fun gid hgid => absurd hgid List.not_mem_nil⟩
          exact h.stored hd hcur hdinv (List.nil_subset _) (Or.inr rfl) hdevice hsame
            hmerged.published

/-! ## Where a group record comes from -/

/-- Two records with the same desired fields: everything a command can set but the status. -/
structure SameDesired (a b : GroupStatePayload) : Prop where
  groupId : b.groupId = a.groupId
  enabled : b.enabled = a.enabled
  pattern : b.pattern = a.pattern
  power : b.power = a.power
  minPower : b.minPower = a.minPower
  maxPower : b.maxPower = a.maxPower
  periodSeconds : b.periodSeconds = a.periodSeconds

theorem SameDesired.refl (a : GroupStatePayload) : SameDesired a a :=
  ⟨rfl, rfl, rfl, rfl, rfl, rfl, rfl⟩

theorem ApplyOutcome.group_before {s s' : ServiceState} {clk : Clock} {groupId gid : String}
    {command : GroupCommand} {r : Except PyError GroupCommandResult} {after : GroupStatePayload}
    (hout : ApplyOutcome cfg units clk groupId command s r s')
    (hafter : s'.states.get? gid = some after) :
    ∃ before, s.states.get? gid = some before ∧ (after = before
      ∨ (groupId = gid ∧ Admitted cfg before command ∧ SameDesired (patched before command) after
        ∧ after.status = (patched before command).status)) := by
  cases hout with
  | replayed => exact ⟨after, hafter, Or.inl rfl⟩
  | unknown => exact ⟨after, (remember_states ..) ▸ hafter, Or.inl rfl⟩
  | rejected => exact ⟨after, (remember_states ..) ▸ hafter, Or.inl rfl⟩
  | @accepted g current _ _ _ hid hcur hpass _ hacc =>
      by_cases heq : groupId = gid
      · subst heq
        obtain ⟨members, hself, _⟩ := hacc.group_self
        rw [hid, hafter] at hself
        cases hself
        refine ⟨current, hcur, Or.inr ⟨rfl, rejection_eq_none_iff.mp hpass, ?_, rfl⟩⟩
        exact ⟨rfl, rfl, rfl, rfl, rfl, rfl, rfl⟩
      · exact ⟨after, (hacc.group_other (hid ▸ heq)).symm.trans hafter, Or.inl rfl⟩

theorem DeviceOutcome.group_before {s s' : ServiceState} {clk : Clock} {deviceId gid : String}
    {command : DeviceCommand} {r : Except PyError DeviceCommandResult} {after : GroupStatePayload}
    (h : ServiceInv cfg s) (hout : DeviceOutcome cfg units clk deviceId command s r s')
    (hafter : s'.states.get? gid = some after) :
    ∃ before, s.states.get? gid = some before ∧ SameDesired before after
      ∧ after.status = before.status := by
  have key : ∀ {d updated result} current, d ∈ cfg.devices →
      s.deviceStates.get? d.id = some current →
      Stored cfg units clk d updated result s s' → updated.groupIds = current.groupIds →
      ∃ before, s.states.get? gid = some before ∧ SameDesired before after
        ∧ after.status = before.status := by
    intro d updated result current hd hcur hst hgroups
    obtain ⟨before, hbefore, hcase⟩ := hst.groups.before (fun gid hgid => by
      obtain ⟨_, _, _, _, st, hst, _⟩ := h.named_group (h.deviceInv hd hcur) (hgroups ▸ hgid)
      exact ⟨st, hst⟩) hafter
    refine ⟨before, hbefore, ?_⟩
    rcases hcase with ⟨_, rfl⟩ | ⟨_, _, _, _, rfl⟩
    · exact ⟨SameDesired.refl _, rfl⟩
    · exact ⟨⟨rfl, rfl, rfl, rfl, rfl, rfl, rfl⟩, rfl⟩
  cases hout with
  | replayed => exact ⟨after, hafter, SameDesired.refl _, rfl⟩
  | unknown => exact ⟨after, (rememberDevice_states ..) ▸ hafter, SameDesired.refl _, rfl⟩
  | rejected => exact ⟨after, (rememberDevice_states ..) ▸ hafter, SameDesired.refl _, rfl⟩
  | @resumed _ current _ _ _ _ _ _ _ hd hid hcur _ _ _ _ _ _ _ hst =>
      exact key current hd (hid ▸ hcur) hst rfl
  | @patched _ current _ _ _ hd hid hcur _ _ hst =>
      exact key current hd (hid ▸ hcur) hst rfl

theorem ObserveOutcome.group_before {s s' : ServiceState} {clk : Clock} {gid : String}
    {event : ObserverEvent} {r : Except PyError Unit} {after : GroupStatePayload}
    (h : ServiceInv cfg s) (hout : ObserveOutcome cfg units clk event s r s')
    (hafter : s'.states.get? gid = some after) :
    ∃ before, s.states.get? gid = some before ∧ SameDesired before after := by
  cases hout with
  | unknown => exact ⟨after, hafter, SameDesired.refl _⟩
  | stale => exact ⟨after, hafter, SameDesired.refl _⟩
  | @merged d current _ hd hid hcur _ hmerged =>
      cases hrefresh : refreshes current event with
      | false => exact ⟨after, hmerged.unrefreshed hrefresh ▸ hafter, SameDesired.refl _⟩
      | true =>
          obtain ⟨before, hbefore, hcase⟩ := (hmerged.refreshed hrefresh).before
            (fun gid hgid => by
              obtain ⟨_, _, _, _, st, hst, _⟩ :=
                h.named_group (h.deviceInv hd (hid ▸ hcur)) hgid
              exact ⟨st, hst⟩) hafter
          refine ⟨before, hbefore, ?_⟩
          rcases hcase with ⟨_, rfl⟩ | ⟨_, _, _, _, rfl⟩
          · exact SameDesired.refl _
          · exact ⟨rfl, rfl, rfl, rfl, rfl, rfl, rfl⟩

/-! ## Every step -/

/-- **Every call of the service preserves its invariant.** -/
theorem serviceInv_step (s : ServiceState) (op : ServiceOp) (h : ServiceInv cfg s) :
    ServiceInv cfg (serviceStep cfg units s op) := by
  cases op with
  | apply groupId command clk => exact (apply_outcome units clk groupId command h).serviceInv h
  | applyDevice deviceId command clk =>
      exact (applyDevice_outcome units clk deviceId command h).serviceInv h
  | observe event clk => exact (recordObserverEvent_outcome units clk event h).serviceInv h

/--
**A fact about desired fields that the admitted command of a call preserves is
preserved by the call**: device commands and observations copy the desired fields.
-/
theorem desired_step_of {Q : GroupStatePayload → Prop}
    (hcongr : ∀ a b, SameDesired a b → Q a → Q b) {op : ServiceOp}
    (hcommand : ∀ groupId command clk, op = .apply groupId command clk → ∀ current,
      Admitted cfg current command → Q current → Q (patched current command))
    {s : ServiceState} (hinv : ServiceInv cfg s)
    (h : ∀ gid state, s.states.get? gid = some state → Q state) :
    ∀ gid state, (serviceStep cfg units s op).states.get? gid = some state → Q state := by
  intro gid after hafter
  cases op with
  | apply groupId command clk =>
      obtain ⟨before, hbefore, rfl | ⟨_, hadm, hsame, _⟩⟩ :=
        (apply_outcome units clk groupId command hinv).group_before hafter
      · exact h gid after hbefore
      · exact hcongr _ _ hsame (hcommand _ _ _ rfl _ hadm (h gid before hbefore))
  | applyDevice deviceId command clk =>
      obtain ⟨before, hbefore, hsame, _⟩ :=
        (applyDevice_outcome units clk deviceId command hinv).group_before hinv hafter
      exact hcongr _ _ hsame (h gid before hbefore)
  | observe event clk =>
      obtain ⟨before, hbefore, hsame⟩ :=
        (recordObserverEvent_outcome units clk event hinv).group_before hinv hafter
      exact hcongr _ _ hsame (h gid before hbefore)

/-- What every admitted command preserves, every call preserves. -/
theorem desired_step {Q : GroupStatePayload → Prop}
    (hcongr : ∀ a b, SameDesired a b → Q a → Q b)
    (hcommand : ∀ current command, Admitted cfg current command → Q current →
      Q (patched current command))
    (s : ServiceState) (op : ServiceOp) (hinv : ServiceInv cfg s)
    (h : ∀ gid state, s.states.get? gid = some state → Q state) :
    ∀ gid state, (serviceStep cfg units s op).states.get? gid = some state → Q state :=
  desired_step_of hcongr (fun _ command _ _ current => hcommand current command) hinv h

end JebaoFlow
