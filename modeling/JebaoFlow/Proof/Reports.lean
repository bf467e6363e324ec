import JebaoFlow.Proof.Marks

/-!
# What a group reports in observer mode

No command is executed in observer mode, so a group record is what the
configuration and the readings of its devices make it, but for one field: the power
an entry asks for is calculated anew with every refresh and follows the clock. An
observation therefore marks a group, or leaves its report the same.
-/

namespace JebaoFlow

variable {cfg : AppConfig} {units : UnitSource}

/-- Equal in everything but `last_seen_at` and the power that is due at the moment. -/
structure SameEntry (a b : GroupMemberState) : Prop where
  fields :
    { a with lastSeenAt := none, targetPower := ⟨0, by decide⟩, observedAttributes := Dict.empty }
      = { b with lastSeenAt := none, targetPower := ⟨0, by decide⟩, observedAttributes := Dict.empty }
  attributes : SameAttributes a.observedAttributes b.observedAttributes

/-- Equal in everything but the `last_seen_at` of the group and its entries, and their targets. -/
structure SameReport (a b : GroupStatePayload) : Prop where
  fields : { a with lastSeenAt := none, members := Dict.empty }
    = { b with lastSeenAt := none, members := Dict.empty }
  keys : a.members.keys = b.members.keys
  entries : ∀ did va vb, a.members.get? did = some va → b.members.get? did = some vb →
    SameEntry va vb

theorem SameReport.refl (a : GroupStatePayload) : SameReport a a where
  fields := rfl
  keys := rfl
  entries did va vb hva hvb := by
    rw [hva] at hvb
    cases hvb
    exact ⟨rfl, Or.inl rfl⟩

theorem SameReport.trans {a b c : GroupStatePayload} (hab : SameReport a b)
    (hbc : SameReport b c) : SameReport a c where
  fields := hab.fields.trans hbc.fields
  keys := hab.keys.trans hbc.keys
  entries did va vc hva hvc := by
    have hkey : did ∈ b.members.keys := by
      rw [← hab.keys, Dict.mem_keys_iff, hva]
      rfl
    obtain ⟨vb, hvb⟩ := Option.isSome_iff_exists.mp (Dict.mem_keys_iff.mp hkey)
    have hfirst := hab.entries did va vb hva hvb
    have hsecond := hbc.entries did vb vc hvb hvc
    exact ⟨hfirst.fields.trans hsecond.fields, hfirst.attributes.trans hsecond.attributes⟩

/-! ## What the configuration fixes -/

/-- The part of an entry that no reading and no clock enters. -/
def GroupMemberState.labels (view : GroupMemberState) :
    (String × GroupMemberRole × PyFloat × PyFloat) × DeviceControlMode × Bool :=
  ((view.name, view.role, view.gain, view.phase), (view.controlMode, view.enabled))

/-- The entries carry the labels of their memberships and the output of the group. -/
def Labelled (cfg : AppConfig) (g : GroupConfig) (record : GroupStatePayload) : Prop :=
  ∀ m ∈ g.members, ∀ view, record.members.get? m.device = some view →
    ∃ device, cfg.deviceConfig m.device = .ok device
      ∧ view.labels = ((device.name, m.role, m.gain, m.phase), (.group, record.enabled && m.enabled))

/-- No device is overridden, and every group is labelled. -/
structure ObserverInv (cfg : AppConfig) (s : ServiceState) : Prop where
  grouped : ∀ did device, s.deviceStates.get? did = some device →
    device.controlMode ≠ .manualOverride
  labelled : ∀ g ∈ cfg.groups, ∀ record, s.states.get? g.id = some record → Labelled cfg g record

section Labels

variable {s s' : ServiceState} {g : GroupConfig} {record after : GroupStatePayload} {t : ℚ}

theorem labelled_of_calculated (hginv : GroupInv cfg g record)
    (hgrouped : ∀ did device, s.deviceStates.get? did = some device →
      device.controlMode ≠ .manualOverride)
    (hmembers : calculateMembers cfg units t s.deviceStates record = .ok after.members)
    (henabled : after.enabled = record.enabled) : Labelled cfg g after := by
  intro m hm view hview
  obtain ⟨m', hm', hsame, targets, target, device, htargets, htarget, hdevice, rfl⟩ :=
    calculateMembers_inv hginv.mem hginv.groupId hmembers hview
  obtain rfl := List.inj_on_of_nodup_map g.members_unique hm' hm hsame
  obtain ⟨targets', htargets', hfor⟩ := hginv.targets units t
  rw [htargets] at htargets'
  cases htargets'
  obtain ⟨target', htarget', hdue⟩ := hfor.member m' hm'
  rw [htarget] at htarget'
  cases htarget'
  obtain ⟨hmode, hon, _⟩ := memberView_group device.name m' target
    (fun d hd => hgrouped m'.device d hd)
  refine ⟨device, hdevice, ?_⟩
  unfold GroupMemberState.labels
  rw [hmode, hon, hdue.enabled_eq, henabled]
  rfl

/-- Entries with the same labels and the same readings report the same. -/
theorem sameEntry_of {a b : GroupMemberState} (hlabels : a.labels = b.labels)
    (hcore : a.observation.core = b.observation.core)
    (hattributes : SameAttributes a.observedAttributes b.observedAttributes) : SameEntry a b := by
  unfold GroupMemberState.labels at hlabels
  unfold Observation.core GroupMemberState.observation at hcore
  simp only [Prod.mk.injEq] at hlabels
  dsimp only at hcore
  rw [Observation.mk.injEq] at hcore
  obtain ⟨⟨hname, hrole, hgain, hphase⟩, hmode, henabled⟩ := hlabels
  obtain ⟨hactual, hactualPower, hactualMode, hfrequency, honline, herror, _, hchanged,
    hconfiguration, _⟩ := hcore
  refine ⟨?_, hattributes⟩
  rw [hname, hrole, hgain, hphase, hmode, henabled, hactual, hactualPower, hactualMode,
    hfrequency, honline, herror, hchanged, hconfiguration]

/-- **Recomputing a group without a change reports the same.** -/
theorem Labelled.refresh (hmode : cfg.runtime.mode = .observer) (hinv' : ServiceInv cfg s')
    (hginv : GroupInv cfg g record) (hcurrent : UpToDate cfg s g record)
    (hlabelled : Labelled cfg g record) (hgrouped : ∀ did device,
      s'.deviceStates.get? did = some device → device.controlMode ≠ .manualOverride)
    (hsame : SameDevices g s s') {members' : Dict String GroupMemberState}
    (hmembers' : calculateMembers cfg units t s'.deviceStates record = .ok members') :
    SameReport record (observedGroup false record members') := by
  obtain ⟨_, _, _, hfor'⟩ := hginv.members_of_ok hmembers'
  refine ⟨observedGroup_kept hinv' hginv.mem hcurrent (hcurrent.status hmode) hsame hfor',
    hcurrent.members.trans hfor'.keys.symm, fun did view view' hview hview' => ?_⟩
  replace hview' : members'.get? did = some view' := hview'
  obtain ⟨hdid, hcore, hattributes⟩ := hcurrent.view_kept hsame hfor' hview hview'
  obtain ⟨m, hm, rfl⟩ := List.mem_map.mp hdid
  obtain ⟨device, hdevice, hlabels⟩ := hlabelled m hm view hview
  have hafter : Labelled cfg g (observedGroup false record members') :=
    labelled_of_calculated hginv hgrouped hmembers' rfl
  obtain ⟨device', hdevice', hlabels'⟩ := hafter m hm view' hview'
  rw [hdevice] at hdevice'
  cases hdevice'
  exact sameEntry_of (hlabels.trans hlabels'.symm) hcore hattributes

end Labels

/-! ## One step -/

section Step

variable {s s' : ServiceState}

theorem ObserverInv.congr (h : ObserverInv cfg s) (hstates : s'.states = s.states)
    (hdevices : s'.deviceStates = s.deviceStates) : ObserverInv cfg s' :=
  ⟨hdevices ▸ h.grouped, hstates ▸ h.labelled⟩

/-- An observation overrides no device. -/
theorem Merged.grouped {event : ObserverEvent} {clk : Clock} {current : DeviceStatePayload}
    (h : ObserverInv cfg s) (hcur : s.deviceStates.get? event.deviceId = some current)
    (hmerged : Merged cfg units clk event current s s') : ∀ did device,
      s'.deviceStates.get? did = some device → device.controlMode ≠ .manualOverride := by
  intro did device hdevice
  rw [hmerged.device, Dict.get?_set] at hdevice
  split at hdevice
  · cases hdevice
    obtain ⟨_, _, _, _, hmode, _⟩ := mergeEvent_fields current event
    rw [hmode]
    exact h.grouped _ _ hcur
  · exact h.grouped did device hdevice

/-- Nothing is executed in observer mode. -/
theorem Changed.observed_or_idle {op : ServiceOp} (hmode : cfg.runtime.mode = .observer)
    (h : Changed cfg units s op s') :
    (s'.states = s.states ∧ s'.deviceStates = s.deviceStates) ∨ ∃ event clk d current,
      op = .observe event clk ∧ d ∈ cfg.devices ∧ d.id = event.deviceId
        ∧ s.deviceStates.get? event.deviceId = some current
        ∧ Merged cfg units clk event current s s' := by
  cases h with
  | idle hstates hdevices _ => exact Or.inl ⟨hstates, hdevices⟩
  | commanded hexec =>
      rw [hexec.admitted.mode] at hmode
      cases hmode
  | resumed hexec =>
      rw [hexec.admitted.mode] at hmode
      cases hmode
  | overridden hexec =>
      rw [hexec.admitted.mode] at hmode
      cases hmode
  | observed hd hid hcur hmerged => exact Or.inr ⟨_, _, _, _, rfl, hd, hid, hcur, hmerged⟩

/-- So only an observation rewrites the record of a group. -/
theorem Changed.states_kept {op : ServiceOp} (hmode : cfg.runtime.mode = .observer)
    (hop : ∀ event clk, op ≠ .observe event clk) (h : Changed cfg units s op s') :
    s'.states = s.states := by
  rcases h.observed_or_idle hmode with ⟨hstates, _⟩ | ⟨event, clk, _, _, hobserve, _⟩
  · exact hstates
  · exact absurd hobserve (hop event clk)

theorem observerInv_step (hmode : cfg.runtime.mode = .observer) (op : ServiceOp)
    (hinv : ServiceInv cfg s) (h : ObserverInv cfg s) :
    ObserverInv cfg (serviceStep cfg units s op) := by
  rcases (changed_step units hinv op).observed_or_idle hmode with ⟨hstates, hdevices⟩ |
    ⟨event, clk, d, current, _, hd, hid, hcur, hmerged⟩
  · exact h.congr hstates hdevices
  · have hgrouped := hmerged.grouped h hcur
    refine ⟨hgrouped, fun g hg record hrecord => ?_⟩
    cases hrefresh : refreshes current event with
    | false =>
        rw [hmerged.unrefreshed hrefresh] at hrecord
        exact h.labelled g hg record hrecord
    | true =>
        have href := hmerged.refreshed hrefresh
        by_cases hgid : g.id ∈ current.groupIds
        · obtain ⟨before, hbefore⟩ := hinv.group_present g hg
          obtain ⟨after, hafter, i, members, hmembers, rfl⟩ :=
            href.rewritten g.id hgid before hbefore
          rw [hafter] at hrecord
          cases hrecord
          exact labelled_of_calculated (hinv.groupInv hg hbefore) hgrouped hmembers rfl
        · rw [href.frame g.id hgid] at hrecord
          exact h.labelled g hg record hrecord

end Step

theorem init_observer {clk : Clock} {s : ServiceState} (h : Started cfg units clk s) :
    ObserverInv cfg s := by
  have hgrouped : ∀ did device, s.deviceStates.get? did = some device →
      device.controlMode ≠ .manualOverride := by
    intro did device hdevice
    obtain ⟨d, rfl, hd⟩ := h.inv.device did device hdevice
    exact h.not_manual hd.mem hdevice
  refine ⟨hgrouped, fun g hg record hrecord => ?_⟩
  obtain ⟨_, i, hmembers⟩ := h.group g hg record hrecord
  exact labelled_of_calculated (h.inv.groupInv hg hrecord) hgrouped hmembers rfl

/-! ## What an observation leaves unmarked -/

section Observed

variable {s : ServiceState} (clk : Clock) (event : ObserverEvent)

/-- **An observation marks a device or keeps its content.** -/
theorem observe_device (units : UnitSource) (hinv : ServiceInv cfg s) (hpoll : ReadByPoll s)
    {did : String} {a : DeviceStatePayload} (ha : s.deviceStates.get? did = some a) :
    did ∈ (recordObserverEvent cfg units clk event s).2.dirtyDevices
      ∨ ∃ b, (recordObserverEvent cfg units clk event s).2.deviceStates.get? did = some b
        ∧ SameDevice a b := by
  have hout := recordObserverEvent_outcome units clk event hinv
  obtain ⟨_, hmarks⟩ := recordObserverEvent_marks units clk event hinv
  generalize recordObserverEvent cfg units clk event s = out at hout hmarks
  obtain ⟨r, s'⟩ := out
  cases hout with
  | unknown => exact Or.inr ⟨a, ha, SameDevice.refl a⟩
  | stale => exact Or.inr ⟨a, ha, SameDevice.refl a⟩
  | @merged d current _ hd hid hcur hfresh hmerged =>
      cases hchanged : (mergeEvent current event).2 with
      | false => exact Or.inr (hmerged.device_kept hpoll hcur hchanged ha)
      | true =>
          by_cases heq : event.deviceId = did
          · exact Or.inl (heq ▸ (hmarks current hcur hfresh hchanged).1)
          · refine Or.inr ⟨a, ?_, SameDevice.refl a⟩
            exact (congrArg (fun ds => ds.get? did) hmerged.device).trans
              ((Dict.get?_set_ne _ _ heq).trans ha)

/-- **In observer mode, it marks a group or keeps its report.** -/
theorem observe_group (units : UnitSource) (hmode : cfg.runtime.mode = .observer)
    (hinv : ServiceInv cfg s) (hpoll : ReadByPoll s) (hderived : DerivedInv cfg s)
    (hobserver : ObserverInv cfg s) {g : GroupConfig} (hg : g ∈ cfg.groups)
    {a : GroupStatePayload} (ha : s.states.get? g.id = some a) :
    g.id ∈ (recordObserverEvent cfg units clk event s).2.dirtyGroups
      ∨ ∃ b, (recordObserverEvent cfg units clk event s).2.states.get? g.id = some b
        ∧ SameReport a b := by
  have hinv' : ServiceInv cfg (recordObserverEvent cfg units clk event s).2 :=
    @serviceInv_step cfg units s (.observe event clk) hinv
  have hout := recordObserverEvent_outcome units clk event hinv
  obtain ⟨_, hmarks⟩ := recordObserverEvent_marks units clk event hinv
  generalize recordObserverEvent cfg units clk event s = out at hout hmarks hinv'
  obtain ⟨r, s'⟩ := out
  cases hout with
  | unknown => exact Or.inr ⟨a, ha, SameReport.refl a⟩
  | stale => exact Or.inr ⟨a, ha, SameReport.refl a⟩
  | @merged d current _ hd hid hcur hfresh hmerged =>
      cases hrefresh : refreshes current event with
      | false => exact Or.inr ⟨a, hmerged.unrefreshed hrefresh ▸ ha, SameReport.refl a⟩
      | true =>
          have href := hmerged.refreshed hrefresh
          by_cases hgid : g.id ∈ current.groupIds
          · cases hchanged : (mergeEvent current event).2 with
            | true => exact Or.inl ((hmarks current hcur hfresh hchanged).2 g.id hgid)
            | false =>
                right
                obtain ⟨after, hafter, i, members, hmembers, rfl⟩ := href.rewritten g.id hgid a ha
                refine ⟨_, hafter, ?_⟩
                rw [hchanged]
                exact (hobserver.labelled g hg a ha).refresh hmode hinv' (hinv.groupInv hg ha)
                  (hderived g hg a ha) (hmerged.grouped hobserver hcur)
                  (hmerged.sameDevices hinv hpoll hcur hchanged hg) hmembers
          · exact Or.inr ⟨a, (href.frame g.id hgid).trans ha, SameReport.refl a⟩

end Observed

end JebaoFlow
