import JebaoFlow.Proof.Agreement
import JebaoFlow.Proof.DerivedData

/-!
# Revisions identify content

Subscribers compare revisions to tell whether a snapshot is news. A command bumps
the revision of what it writes and an observation that changes anything bumps the
device and its groups. A read that counts as no change still recomputes the groups
of its device under their old revisions. With the clock held at one reading that
is harmless exactly when the groups were settled: their status is the health of
their devices, and their entries are the ones the recomputation gives.
-/

namespace JebaoFlow

variable {cfg : AppConfig} {units : UnitSource} {t : ℚ}

/-! ## The same content -/

/-- One dictionary object, or two that the host calls equal. -/
def SameAttributes (a b : Dict String Scalar) : Prop := a = b ∨ Scalar.eqDict a b = true

/-- The schedules are equal, their device clocks aside. -/
def SameSchedule (a b : Option DeviceSchedule) : Prop :=
  scheduleConfiguration a = scheduleConfiguration b
    ∨ scheduleConfigurationEq (scheduleConfiguration a) (scheduleConfiguration b) = true

/-- Equal in everything but `last_seen_at` and the device clock of the schedule. -/
structure SameDevice (a b : DeviceStatePayload) : Prop where
  fields : { a with lastSeenAt := none, schedule := none, observedAttributes := Dict.empty }
    = { b with lastSeenAt := none, schedule := none, observedAttributes := Dict.empty }
  schedule : SameSchedule a.schedule b.schedule
  attributes : SameAttributes a.observedAttributes b.observedAttributes

/-- Equal in everything but `last_seen_at`. -/
structure SameView (a b : GroupMemberState) : Prop where
  fields : { a with lastSeenAt := none, observedAttributes := Dict.empty }
    = { b with lastSeenAt := none, observedAttributes := Dict.empty }
  attributes : SameAttributes a.observedAttributes b.observedAttributes

/-- Equal in everything but the `last_seen_at` of the group and its entries. -/
structure SameGroup (a b : GroupStatePayload) : Prop where
  fields : { a with lastSeenAt := none, members := Dict.empty }
    = { b with lastSeenAt := none, members := Dict.empty }
  keys : a.members.keys = b.members.keys
  views : ∀ did va vb, a.members.get? did = some va → b.members.get? did = some vb → SameView va vb

/-- Revisions have not decreased, and where one has not moved neither has the content. -/
structure Evolves (s s' : ServiceState) : Prop where
  group : ∀ gid a, s.states.get? gid = some a → ∃ b, s'.states.get? gid = some b
    ∧ a.revision ≤ b.revision ∧ (a.revision = b.revision → SameGroup a b)
  device : ∀ did a, s.deviceStates.get? did = some a → ∃ b, s'.deviceStates.get? did = some b
    ∧ a.revision ≤ b.revision ∧ (a.revision = b.revision → SameDevice a b)

/-- What an entry asks of its device, under the labels of its membership. -/
def GroupMemberState.asked (view : GroupMemberState) :
    (String × GroupMemberRole × PyFloat × PyFloat) × DeviceControlMode × Bool × Percent :=
  ((view.name, view.role, view.gain, view.phase),
    (view.controlMode, view.enabled, view.targetPower))

/-- A reading without its freshness and the dictionary that is compared by value. -/
def Observation.core (reading : Observation) : Observation :=
  { reading with lastSeenAt := none, observedAttributes := Dict.empty }

/-- The status is the health of the devices, and the entries ask for what is due now. -/
structure Settled (cfg : AppConfig) (units : UnitSource) (t : ℚ) (s : ServiceState)
    (g : GroupConfig) (record : GroupStatePayload) : Prop where
  status : record.status = health (observations s g)
  asked : ∀ members, calculateMembers cfg units t s.deviceStates record = .ok members →
    ∀ did a b, record.members.get? did = some a → members.get? did = some b → a.asked = b.asked

/-- A fresh read that counts as no change, of a device in a group that is not settled. -/
def Unsettles (cfg : AppConfig) (units : UnitSource) (t : ℚ) (s : ServiceState) : ServiceOp → Prop
  | .observe event _ => ∃ current state, s.deviceStates.get? event.deviceId = some current
      ∧ event.state = some state ∧ isStale current state = false
      ∧ (mergeRead current state).2 = false
      ∧ ∃ g ∈ cfg.groups, event.deviceId ∈ g.deviceIds ∧ ∃ record,
        s.states.get? g.id = some record ∧ ¬ Settled cfg units t s g record
  | _ => False

/-! ## Sameness is an order -/

theorem SameAttributes.trans {a b c : Dict String Scalar} (hab : SameAttributes a b)
    (hbc : SameAttributes b c) : SameAttributes a c := by
  rcases hab with rfl | hab
  · exact hbc
  · rcases hbc with rfl | hbc
    · exact Or.inr hab
    · exact Or.inr (Scalar.eqDict_trans hab hbc)

theorem scheduleConfigurationEq_trans {a b c : Option DeviceSchedule}
    (hab : scheduleConfigurationEq a b = true) (hbc : scheduleConfigurationEq b c = true) :
    scheduleConfigurationEq a c = true := by
  unfold scheduleConfigurationEq at *
  cases a with
  | none => cases b <;> cases c <;> simp_all
  | some a =>
      cases b with
      | none => cases hab
      | some b =>
          cases c with
          | none => cases hbc
          | some c =>
              simp only [Bool.and_eq_true, beq_iff_eq] at *
              obtain ⟨⟨⟨henabled, htime⟩, hentries⟩, hslots⟩ := hab
              obtain ⟨⟨⟨henabled', htime'⟩, hentries'⟩, hslots'⟩ := hbc
              exact ⟨⟨⟨henabled.trans henabled', htime.trans htime'⟩,
                ScheduleEntry.eqList_trans hentries hentries'⟩, hslots.trans hslots'⟩

theorem SameSchedule.trans {a b c : Option DeviceSchedule} (hab : SameSchedule a b)
    (hbc : SameSchedule b c) : SameSchedule a c := by
  unfold SameSchedule at *
  rcases hab with heq | hab
  · rwa [heq]
  · rcases hbc with heq | hbc
    · rw [← heq]
      exact Or.inr hab
    · exact Or.inr (scheduleConfigurationEq_trans hab hbc)

theorem SameDevice.refl (a : DeviceStatePayload) : SameDevice a a := ⟨rfl, Or.inl rfl, Or.inl rfl⟩

theorem SameDevice.trans {a b c : DeviceStatePayload} (hab : SameDevice a b)
    (hbc : SameDevice b c) : SameDevice a c :=
  ⟨hab.fields.trans hbc.fields, hab.schedule.trans hbc.schedule,
    hab.attributes.trans hbc.attributes⟩

theorem SameView.refl (a : GroupMemberState) : SameView a a := ⟨rfl, Or.inl rfl⟩

theorem SameView.trans {a b c : GroupMemberState} (hab : SameView a b) (hbc : SameView b c) :
    SameView a c :=
  ⟨hab.fields.trans hbc.fields, hab.attributes.trans hbc.attributes⟩

theorem SameGroup.refl (a : GroupStatePayload) : SameGroup a a where
  fields := rfl
  keys := rfl
  views did va vb hva hvb := by
    rw [hva] at hvb
    cases hvb
    exact SameView.refl va

theorem SameGroup.trans {a b c : GroupStatePayload} (hab : SameGroup a b) (hbc : SameGroup b c) :
    SameGroup a c where
  fields := hab.fields.trans hbc.fields
  keys := hab.keys.trans hbc.keys
  views did va vc hva hvc := by
    have hkey : did ∈ b.members.keys := by
      rw [← hab.keys, Dict.mem_keys_iff, hva]
      rfl
    obtain ⟨vb, hvb⟩ := Option.isSome_iff_exists.mp (Dict.mem_keys_iff.mp hkey)
    exact (hab.views did va vb hva hvb).trans (hbc.views did vb vc hvb hvc)

theorem Evolves.trans (s s' s'' : ServiceState) (h : Evolves s s') (h' : Evolves s' s'') :
    Evolves s s'' where
  group gid a ha := by
    obtain ⟨b, hb, hle, hsame⟩ := h.group gid a ha
    obtain ⟨c, hc, hle', hsame'⟩ := h'.group gid b hb
    refine ⟨c, hc, hle.trans hle', fun heq => ?_⟩
    exact (hsame (by omega)).trans (hsame' (by omega))
  device did a ha := by
    obtain ⟨b, hb, hle, hsame⟩ := h.device did a ha
    obtain ⟨c, hc, hle', hsame'⟩ := h'.device did b hb
    refine ⟨c, hc, hle.trans hle', fun heq => ?_⟩
    exact (hsame (by omega)).trans (hsame' (by omega))

/-! ## Reads that count as no change -/

section Reads

variable {current : DeviceStatePayload}

theorem mergeEvent_revision (current : DeviceStatePayload) (event : ObserverEvent) :
    (mergeEvent current event).1.revision
      = if (mergeEvent current event).2 then current.revision + 1 else current.revision := by
  unfold mergeEvent
  cases event.state with
  | none => rfl
  | some state => rfl

/-- A report that counts as no change leaves the record as it is. -/
theorem mergeReport_unchanged {event : ObserverEvent} (h : (mergeReport current event).2 = false) :
    (mergeReport current event).1 = current := by
  unfold mergeReport at h ⊢
  dsimp only at h ⊢
  rw [decide_eq_false_iff_not, Ne, Classical.not_not, Prod.mk.injEq, Prod.mk.injEq] at h
  obtain ⟨honline, herror, hstatus⟩ := h
  simp only [← honline, ← herror, ← hstatus]
  simp

/-- A read that counts as no change refreshes the record, and nothing else. -/
theorem mergeRead_unchanged {state : DeviceState}
    (hsource : current.lastSeenAt.isSome → current.observationSource = some .lanPoll)
    (h : (mergeRead current state).2 = false) : SameDevice current (mergeRead current state).1 := by
  unfold mergeRead at h ⊢
  dsimp only at h ⊢
  simp only [Bool.or_eq_false_iff, Bool.not_eq_false', Bool.and_eq_false_iff] at h
  obtain ⟨⟨⟨hseen, hoperation⟩, hconfiguration⟩, hhealth⟩ := h
  have hpolled := hsource hseen
  replace hoperation := hoperation.resolve_left (by simp [hseen])
  obtain ⟨hattributes, hschedule⟩ := hconfiguration.resolve_left (by simp [hseen])
  refine ⟨?_, Or.inr hschedule, Or.inr hattributes⟩
  simp only [hseen, hoperation, hattributes, hschedule, hhealth, Bool.not_true, Bool.and_false,
    Bool.or_false, Bool.false_eq_true, if_false]
  simp only [decide_eq_false_iff_not, ne_eq, Classical.not_not, Prod.mk.injEq] at hoperation hhealth
  obtain ⟨henabled, hpower, hmode, hfrequency⟩ := hoperation
  obtain ⟨honline, herror, hstatus⟩ := hhealth
  rw [henabled, hpower, hmode, hfrequency, honline, herror, hstatus, hpolled]

end Reads

/-! ## A settled group under such a read -/

section Refresh

variable {s s' : ServiceState} {g : GroupConfig} {record : GroupStatePayload}

/-- Freshness counts for no field of a summary but its own. -/
theorem summarize_core (readings : List Observation) :
    { summarize (readings.map Observation.core) with lastSeenAt := none }
      = { summarize readings with lastSeenAt := none } := by
  unfold summarize
  simp only [List.any_map, List.countP_map, List.length_map, List.filterMap_map]
  rfl

/-- Nor for the health. -/
theorem health_core (readings : List Observation) :
    health (readings.map Observation.core) = health readings := by
  unfold health
  simp only [List.any_map, List.all_map, ne_eq, List.map_eq_nil_iff]
  rfl

/-- The same content of every device of the group. -/
def SameDevices (g : GroupConfig) (s s' : ServiceState) : Prop :=
  ∀ did ∈ g.deviceIds, ∃ a b, s.deviceStates.get? did = some a ∧ s'.deviceStates.get? did = some b
    ∧ SameDevice a b

theorem SameDevice.core {a b : DeviceStatePayload} (h : SameDevice a b) :
    a.observation.core = b.observation.core :=
  congrArg (fun d => d.observation.core) h.fields

theorem SameDevices.core (h : SameDevices g s s') :
    (observations s' g).map Observation.core = (observations s g).map Observation.core := by
  unfold observations
  rw [List.map_filterMap, List.map_filterMap]
  refine List.filterMap_congr fun did hdid => ?_
  obtain ⟨a, b, ha, hb, hsame⟩ := h did hdid
  rw [ha, hb]
  exact congrArg some hsame.core.symm

theorem SameDevices.health (h : SameDevices g s s') :
    health (observations s' g) = health (observations s g) := by
  rw [← health_core, h.core, health_core]

theorem SameDevices.summary (h : SameDevices g s s') :
    { summarize (observations s' g) with lastSeenAt := none }
      = { summarize (observations s g) with lastSeenAt := none } := by
  rw [← summarize_core, h.core, summarize_core]

/-- The desired half is part of the content. -/
theorem SameDevice.desired {a b : DeviceStatePayload} (h : SameDevice a b) :
    a.controlMode = b.controlMode ∧ a.enabled = b.enabled ∧ a.power = b.power := by
  have hfields := congrArg (fun d : DeviceStatePayload => (d.controlMode, d.enabled, d.power)) h.fields
  simpa only [Prod.mk.injEq] using hfields

/-- Entries that ask for the same and show the same show the same content. -/
theorem sameView_of {a b : GroupMemberState} (hasked : a.asked = b.asked)
    (hcore : a.observation.core = b.observation.core)
    (hattributes : SameAttributes a.observedAttributes b.observedAttributes) : SameView a b := by
  unfold GroupMemberState.asked at hasked
  unfold Observation.core GroupMemberState.observation at hcore
  simp only [Prod.mk.injEq] at hasked
  dsimp only at hcore
  rw [Observation.mk.injEq] at hcore
  obtain ⟨⟨hname, hrole, hgain, hphase⟩, hmode, henabled, hpower⟩ := hasked
  obtain ⟨hactual, hactualPower, hactualMode, hfrequency, honline, herror, _, hchanged,
    hconfiguration, _⟩ := hcore
  refine ⟨?_, hattributes⟩
  rw [hname, hrole, hgain, hphase, hmode, henabled, hpower, hactual, hactualPower, hactualMode,
    hfrequency, honline, herror, hchanged, hconfiguration]

/-- What is due now does not depend on what was read. -/
theorem calculateMembers_asked (hg : g ∈ cfg.groups) (hid : record.groupId = g.id)
    (h : SameDevices g s s') {members members' : Dict String GroupMemberState}
    (hmembers : calculateMembers cfg units t s.deviceStates record = .ok members)
    (hmembers' : calculateMembers cfg units t s'.deviceStates record = .ok members') {did : String}
    {view view' : GroupMemberState} (hview : members.get? did = some view)
    (hview' : members'.get? did = some view') : view.asked = view'.asked := by
  obtain ⟨m, hm, rfl, targets, target, device, htargets, htarget, hdevice, rfl⟩ :=
    calculateMembers_inv hg hid hmembers hview
  obtain ⟨m', hm', hsame, targets', target', device', htargets', htarget', hdevice', rfl⟩ :=
    calculateMembers_inv hg hid hmembers' hview'
  have heq := List.inj_on_of_nodup_map g.members_unique hm' hm hsame
  rw [htargets] at htargets'
  cases htargets'
  rw [htarget] at htarget'
  cases htarget'
  rw [hdevice] at hdevice'
  cases hdevice'
  obtain ⟨a, b, ha, hb, hab⟩ := h m.device (List.mem_map_of_mem hm)
  obtain ⟨hmode, henabled, hpower⟩ := hab.desired
  rw [heq, ha, hb]
  unfold GroupMemberState.asked memberView
  cases hb : b.controlMode <;> simp [Option.filter, hmode, henabled, hpower, hb]

/-- A group that shows the health of its devices keeps its own fields when it is recomputed. -/
theorem observedGroup_kept (hinv' : ServiceInv cfg s') (hg : g ∈ cfg.groups)
    (hcurrent : UpToDate cfg s g record) (hstatus : record.status = health (observations s g))
    (hsame : SameDevices g s s') {targets : Dict String DeviceTarget}
    {members' : Dict String GroupMemberState}
    (hfor' : MembersFor g s'.deviceStates targets members') :
    { record with lastSeenAt := none, members := Dict.empty }
      = { observedGroup false record members' with lastSeenAt := none, members := Dict.empty } := by
  have hlist := hfor'.observations hinv' hg
  have hstatus' : (observedGroup false record members').status = record.status := by
    rw [observedGroup_status, hlist, hsame.health, hstatus]
  have hsummary : { (observedGroup false record members').summary with lastSeenAt := none }
      = { record.summary with lastSeenAt := none } := by
    rw [observedGroup_summary, hlist, hcurrent.summary, hsame.summary]
  unfold observedGroup GroupStatePayload.summary at hsummary
  unfold observedGroup at hstatus' ⊢
  dsimp only at hstatus' hsummary ⊢
  rw [Summary.mk.injEq] at hsummary
  obtain ⟨hactual, honline, hcount, _, hchanged, hconfiguration⟩ := hsummary
  rw [hstatus', hactual, honline, hcount, hchanged, hconfiguration]
  rfl

/-- The entries keep what they show of their devices. -/
theorem UpToDate.view_kept (hcurrent : UpToDate cfg s g record) (hsame : SameDevices g s s')
    {targets : Dict String DeviceTarget} {members' : Dict String GroupMemberState}
    (hfor' : MembersFor g s'.deviceStates targets members') {did : String}
    {view view' : GroupMemberState} (hview : record.members.get? did = some view)
    (hview' : members'.get? did = some view') :
    did ∈ g.deviceIds ∧ view.observation.core = view'.observation.core
      ∧ SameAttributes view.observedAttributes view'.observedAttributes := by
  have hdid : did ∈ g.deviceIds := by
    rw [← hcurrent.members, Dict.mem_keys_iff, hview]
    rfl
  obtain ⟨a, b, ha, hb, hab⟩ := hsame did hdid
  obtain ⟨shown, device, hshown, hdevice, hreading⟩ := hcurrent.member did hdid
  rw [hview] at hshown
  cases hshown
  rw [ha] at hdevice
  cases hdevice
  obtain ⟨due', hdue', hreading'⟩ := hfor'.observation hdid hb
  rw [hview'] at hdue'
  cases hdue'
  refine ⟨hdid, by rw [hreading, hreading', hab.core], ?_⟩
  have hshown : view.observedAttributes = a.observedAttributes :=
    congrArg Observation.observedAttributes hreading
  have hshown' : view'.observedAttributes = b.observedAttributes :=
    congrArg Observation.observedAttributes hreading'
  rw [hshown, hshown']
  exact hab.attributes

/-- **Recomputing a settled group changes its freshness only.** -/
theorem Settled.refresh (hinv : ServiceInv cfg s) (hinv' : ServiceInv cfg s')
    (hderived : DerivedInv cfg s) (hg : g ∈ cfg.groups) (hrecord : s.states.get? g.id = some record)
    (hsettled : Settled cfg units t s g record) (hsame : SameDevices g s s')
    {members' : Dict String GroupMemberState}
    (hmembers' : calculateMembers cfg units t s'.deviceStates record = .ok members') :
    SameGroup record (observedGroup false record members') := by
  have hginv := hinv.groupInv hg hrecord
  have hcurrent := hderived g hg record hrecord
  obtain ⟨_, _, _, hfor'⟩ := hginv.members_of_ok hmembers'
  refine ⟨observedGroup_kept hinv' hg hcurrent hsettled.status hsame hfor',
    hcurrent.members.trans hfor'.keys.symm, fun did view view' hview hview' => ?_⟩
  replace hview' : members'.get? did = some view' := hview'
  obtain ⟨hdid, hcore, hattributes⟩ := hcurrent.view_kept hsame hfor' hview hview'
  -- the entry before, the entry due before the read, and the entry due after it
  obtain ⟨a, _, ha, _⟩ := hsame did hdid
  obtain ⟨_, members, _, _, hmembers, hfor⟩ := calculateMembers_ok units hginv.mem hginv.groupId
    hginv.range hginv.supported t s.deviceStates
  obtain ⟨due, hdue, _⟩ := hfor.observation hdid ha
  have hasked : view.asked = due.asked := hsettled.asked members hmembers did view due hview hdue
  have hasked' : due.asked = view'.asked :=
    calculateMembers_asked hg hginv.groupId hsame hmembers hmembers' hdue hview'
  exact sameView_of (hasked.trans hasked') hcore hattributes

/-- Conversely, a group that keeps its content was settled. -/
theorem settled_of_refresh (hinv : ServiceInv cfg s) (hinv' : ServiceInv cfg s')
    (hg : g ∈ cfg.groups) (hrecord : s.states.get? g.id = some record) (hsame : SameDevices g s s')
    {members' : Dict String GroupMemberState}
    (hmembers' : calculateMembers cfg units t s'.deviceStates record = .ok members')
    (h : SameGroup record (observedGroup false record members')) :
    Settled cfg units t s g record := by
  have hginv := hinv.groupInv hg hrecord
  obtain ⟨_, _, _, hfor'⟩ := hginv.members_of_ok hmembers'
  have hlist := hfor'.observations hinv' hg
  refine ⟨?_, fun members hmembers did view due hview hdue => ?_⟩
  · have hstatus : record.status = (observedGroup false record members').status :=
      congrArg (fun r => r.status) h.fields
    rw [hstatus, observedGroup_status, hlist, hsame.health]
  · have hkey : did ∈ members'.keys := by
      rw [show members'.keys = record.members.keys from h.keys.symm, Dict.mem_keys_iff, hview]
      rfl
    obtain ⟨view', hview'⟩ := Option.isSome_iff_exists.mp (Dict.mem_keys_iff.mp hkey)
    have hkept : view.asked = view'.asked :=
      congrArg (fun v => v.asked) (h.views did view view' hview hview').fields
    exact hkept.trans
      (calculateMembers_asked hg hginv.groupId hsame hmembers hmembers' hdue hview').symm

end Refresh

/-! ## One step -/

section Step

variable {s s' : ServiceState}

/-- Whatever was read of a device was read by polling it. -/
def ReadByPoll (s : ServiceState) : Prop := ∀ did device, s.deviceStates.get? did = some device →
  device.lastSeenAt.isSome → device.observationSource = some .lanPoll

theorem readByPoll_step (s : ServiceState) (op : ServiceOp) (hinv : ServiceInv cfg s)
    (h : ReadByPoll s) : ReadByPoll (serviceStep cfg units s op) := by
  have hinv' : ServiceInv cfg (serviceStep cfg units s op) := serviceInv_step s op hinv
  have hchanged := changed_step units hinv op
  have hcommand : (∀ event clk, op ≠ .observe event clk) → ReadByPoll (serviceStep cfg units s op) := by
    intro hop did after hafter
    obtain ⟨before, hbefore⟩ := hinv'.device_before hinv hafter
    obtain ⟨after', hafter', hwritten⟩ := hchanged.device_written hinv hop hbefore
    rw [hafter] at hafter'
    cases hafter'
    rcases hwritten with rfl | ⟨_, _, _, _, _, rfl⟩
    · exact h did after hbefore
    · exact h did before hbefore
  cases op with
  | apply => exact hcommand (fun _ _ hc => ServiceOp.noConfusion hc)
  | applyDevice => exact hcommand (fun _ _ hc => ServiceOp.noConfusion hc)
  | observe event clk =>
      intro did after hafter
      generalize serviceStep cfg units s (.observe event clk) = s' at hchanged hafter
      cases hchanged with
      | idle _ hdevices _ => exact h did after (hdevices ▸ hafter)
      | observed _ _ hcur hmerged =>
          rw [hmerged.device, Dict.get?_set] at hafter
          split at hafter
          · cases hafter
            unfold mergeEvent
            cases event.state with
            | none =>
                have hold := h event.deviceId _ hcur
                exact hold
            | some state => exact fun _ => rfl
          · exact h did after hafter

theorem evolves_of_kept (hstates : s'.states = s.states) (hdevices : s'.deviceStates = s.deviceStates) :
    Evolves s s' where
  group _ a ha := ⟨a, hstates ▸ ha, le_refl _, fun _ => SameGroup.refl a⟩
  device _ a ha := ⟨a, hdevices ▸ ha, le_refl _, fun _ => SameDevice.refl a⟩

/-- A command bumps the revision of everything it writes. -/
theorem evolves_command {op : ServiceOp} (hinv : ServiceInv cfg s) (h : Changed cfg units s op s')
    (hop : ∀ event clk, op ≠ .observe event clk) : Evolves s s' where
  group gid a ha := by
    obtain ⟨b, hb, rfl | hrevision⟩ := h.group_written hop ha
    · exact ⟨b, hb, le_refl _, fun _ => SameGroup.refl b⟩
    · exact ⟨b, hb, by omega, fun heq => by omega⟩
  device did a ha := by
    obtain ⟨b, hb, rfl | ⟨_, _, _, _, _, rfl⟩⟩ := h.device_written hinv hop ha
    · exact ⟨b, hb, le_refl _, fun _ => SameDevice.refl b⟩
    · exact ⟨_, hb, Nat.le_succ _, fun heq => absurd heq (Nat.succ_ne_self _).symm⟩

section Observed

variable {event : ObserverEvent} {clk : Clock} {d : DeviceConfig} {current : DeviceStatePayload}

/-- An event that counts as no change keeps the content of the device record. -/
theorem mergeEvent_unchanged (hpoll : current.lastSeenAt.isSome →
    current.observationSource = some .lanPoll) (h : (mergeEvent current event).2 = false) :
    SameDevice current (mergeEvent current event).1 := by
  unfold mergeEvent at h ⊢
  cases hstate : event.state with
  | none =>
      rw [hstate] at h
      dsimp only at h ⊢
      rw [mergeReport_unchanged h]
      exact SameDevice.refl current
  | some state =>
      rw [hstate] at h
      exact mergeRead_unchanged hpoll h

/-- Under an event that counts as no change, every device keeps its content. -/
theorem Merged.device_kept (hpoll : ReadByPoll s)
    (hcur : s.deviceStates.get? event.deviceId = some current)
    (hmerged : Merged cfg units clk event current s s') (h : (mergeEvent current event).2 = false)
    {did : String} {a : DeviceStatePayload} (ha : s.deviceStates.get? did = some a) :
    ∃ b, s'.deviceStates.get? did = some b ∧ SameDevice a b := by
  rw [hmerged.device, Dict.get?_set]
  split
  · rename_i heq
    rw [← heq, hcur] at ha
    cases ha
    exact ⟨_, rfl, mergeEvent_unchanged (hpoll _ _ hcur) h⟩
  · exact ⟨a, ha, SameDevice.refl a⟩

theorem Merged.sameDevices {g : GroupConfig} (hinv : ServiceInv cfg s) (hpoll : ReadByPoll s)
    (hcur : s.deviceStates.get? event.deviceId = some current)
    (hmerged : Merged cfg units clk event current s s') (h : (mergeEvent current event).2 = false)
    (hg : g ∈ cfg.groups) : SameDevices g s s' := by
  intro did hdid
  obtain ⟨m, hm, rfl⟩ := List.mem_map.mp hdid
  obtain ⟨a, ha⟩ := hinv.member_present hg hm
  obtain ⟨b, hb, hab⟩ := hmerged.device_kept hpoll hcur h ha
  exact ⟨a, b, ha, hb, hab⟩

/-- The revision of a device record counts the changes of its content. -/
theorem Merged.device_evolves (hpoll : ReadByPoll s)
    (hcur : s.deviceStates.get? event.deviceId = some current)
    (hmerged : Merged cfg units clk event current s s') {did : String} {a : DeviceStatePayload}
    (ha : s.deviceStates.get? did = some a) :
    ∃ b, s'.deviceStates.get? did = some b ∧ a.revision ≤ b.revision
      ∧ (a.revision = b.revision → SameDevice a b) := by
  have hrevision := mergeEvent_revision current event
  rw [hmerged.device, Dict.get?_set]
  split
  · rename_i heq
    rw [← heq, hcur] at ha
    cases ha
    refine ⟨_, rfl, ?_⟩
    cases hchanged : (mergeEvent current event).2 with
    | true =>
        rw [hchanged, if_pos rfl] at hrevision
        exact ⟨by omega, fun heq => by omega⟩
    | false =>
        rw [hchanged, if_neg Bool.false_ne_true] at hrevision
        exact ⟨by omega, fun _ => mergeEvent_unchanged (hpoll _ _ hcur) hchanged⟩
  · exact ⟨a, ha, le_refl _, fun _ => SameDevice.refl a⟩

/-- Unless the event unsettles it, so does the revision of a group record. -/
theorem Merged.group_evolves (hinv : ServiceInv cfg s) (hinv' : ServiceInv cfg s')
    (hderived : DerivedInv cfg s) (hpoll : ReadByPoll s) (hat : ∀ i, clk i = t)
    (hd : d ∈ cfg.devices) (hid : d.id = event.deviceId)
    (hcur : s.deviceStates.get? event.deviceId = some current) (hfresh : Fresh current event)
    (hmerged : Merged cfg units clk event current s s')
    (hsettles : ¬ Unsettles cfg units t s (.observe event clk)) {gid : String}
    {a : GroupStatePayload} (ha : s.states.get? gid = some a) :
    ∃ b, s'.states.get? gid = some b ∧ a.revision ≤ b.revision
      ∧ (a.revision = b.revision → SameGroup a b) := by
  cases hrefresh : refreshes current event with
  | false => exact ⟨a, hmerged.unrefreshed hrefresh ▸ ha, le_refl _, fun _ => SameGroup.refl a⟩
  | true =>
      have href := hmerged.refreshed hrefresh
      by_cases hgid : gid ∈ current.groupIds
      · obtain ⟨after, hafter, i, members, hmembers, rfl⟩ := href.rewritten gid hgid a ha
        refine ⟨_, hafter, ?_⟩
        cases hchanged : (mergeEvent current event).2 with
        | true => exact ⟨Nat.le_succ _, fun heq => absurd heq (Nat.succ_ne_self _).symm⟩
        | false =>
            refine ⟨le_refl _, fun _ => ?_⟩
            obtain ⟨g, hg, rfl, hmem⟩ :=
              (hinv.deviceInv hd (hid ▸ hcur)).mem_groupIds.mp hgid
            -- a refresh without a change is one by a read
            obtain ⟨state, hstate⟩ : ∃ state, event.state = some state := by
              unfold refreshes at hrefresh
              rw [hchanged, Bool.or_false] at hrefresh
              exact Option.isSome_iff_exists.mp hrefresh
            have hread : (mergeRead current state).2 = false := by
              unfold mergeEvent at hchanged
              rw [hstate] at hchanged
              exact hchanged
            have hsettled : Settled cfg units t s g a := by
              by_contra hnot
              exact hsettles ⟨current, state, hcur, hstate, hfresh state hstate, hread, g, hg,
                hid ▸ hmem, a, ha, hnot⟩
            have hsame := hmerged.sameDevices hinv hpoll hcur hchanged hg
            rw [hat i] at hmembers
            exact hsettled.refresh hinv hinv' hderived hg ha hsame hmembers
      · exact ⟨a, (href.frame gid hgid).trans ha, le_refl _, fun _ => SameGroup.refl a⟩

/-- An unsettling event changes a record without its revision. -/
theorem Merged.unsettled (hinv : ServiceInv cfg s) (hinv' : ServiceInv cfg s')
    (hpoll : ReadByPoll s) (hat : ∀ i, clk i = t) (hd : d ∈ cfg.devices) (hid : d.id = event.deviceId)
    (hcur : s.deviceStates.get? event.deviceId = some current)
    (hmerged : Merged cfg units clk event current s s')
    (h : Unsettles cfg units t s (.observe event clk)) : ¬ Evolves s s' := by
  intro hevolves
  obtain ⟨current', state, hcur', hstate, _, hread, g, hg, hmem, record, hrecord, hnot⟩ := h
  rw [hcur] at hcur'
  cases hcur'
  have hchanged : (mergeEvent current event).2 = false := by
    unfold mergeEvent
    rw [hstate]
    exact hread
  have hrefresh : refreshes current event = true := by
    unfold refreshes
    rw [hstate]
    rfl
  have hgid : g.id ∈ current.groupIds :=
    (hinv.deviceInv hd (hid ▸ hcur)).mem_groupIds.mpr ⟨g, hg, rfl, hid ▸ hmem⟩
  obtain ⟨after, hafter, i, members, hmembers, rfl⟩ :=
    (hmerged.refreshed hrefresh).rewritten g.id hgid record hrecord
  rw [hchanged] at hafter
  rw [hat i] at hmembers
  obtain ⟨b, hb, _, hkept⟩ := hevolves.group g.id record hrecord
  rw [hafter] at hb
  cases hb
  have hsame := hmerged.sameDevices hinv hpoll hcur hchanged hg
  exact hnot (settled_of_refresh hinv hinv' hg hrecord hsame hmembers (hkept rfl))

/-- A merged event evolves the service exactly when it does not unsettle it. -/
theorem evolves_observed_iff (hinv : ServiceInv cfg s) (hinv' : ServiceInv cfg s')
    (hderived : DerivedInv cfg s) (hpoll : ReadByPoll s) (hat : ∀ i, clk i = t)
    (hd : d ∈ cfg.devices) (hid : d.id = event.deviceId)
    (hcur : s.deviceStates.get? event.deviceId = some current) (hfresh : Fresh current event)
    (hmerged : Merged cfg units clk event current s s') :
    Evolves s s' ↔ ¬ Unsettles cfg units t s (.observe event clk) := by
  constructor
  · intro hevolves hunsettles
    exact hmerged.unsettled hinv hinv' hpoll hat hd hid hcur hunsettles hevolves
  · intro hsettles
    refine ⟨fun gid a ha => ?_, fun did a ha => hmerged.device_evolves hpoll hcur ha⟩
    exact hmerged.group_evolves hinv hinv' hderived hpoll hat hd hid hcur hfresh hsettles ha

end Observed

/-- **A step evolves the service exactly when it does not unsettle it.** -/
theorem evolves_step_iff (op : ServiceOp) (hat : AtTime t op) (hinv : ServiceInv cfg s)
    (hderived : DerivedInv cfg s) (hpoll : ReadByPoll s) :
    Evolves s (serviceStep cfg units s op) ↔ ¬ Unsettles cfg units t s op := by
  have hinv' : ServiceInv cfg (serviceStep cfg units s op) := serviceInv_step s op hinv
  cases op with
  | apply groupId command clk =>
      exact ⟨fun _ h => h, fun _ => evolves_command hinv (changed_step units hinv _)
        (fun _ _ hc => ServiceOp.noConfusion hc)⟩
  | applyDevice deviceId command clk =>
      exact ⟨fun _ h => h, fun _ => evolves_command hinv (changed_step units hinv _)
        (fun _ _ hc => ServiceOp.noConfusion hc)⟩
  | observe event clk =>
      have hout := recordObserverEvent_outcome units clk event hinv
      rw [serviceStep] at hinv' ⊢
      generalize recordObserverEvent cfg units clk event s = out at hout hinv' ⊢
      obtain ⟨r, s'⟩ := out
      cases hout with
      | unknown hnone =>
          refine ⟨fun _ ⟨_, _, hcur, _⟩ => ?_, fun _ => evolves_of_kept rfl rfl⟩
          rw [hnone] at hcur
          cases hcur
      | stale hcur hstale =>
          refine ⟨fun _ ⟨_, _, hcur', hstate, hfresh, _⟩ => ?_, fun _ => evolves_of_kept rfl rfl⟩
          rw [hcur] at hcur'
          cases hcur'
          refine hstale (fun state' hstate' => ?_)
          rw [hstate] at hstate'
          cases hstate'
          exact hfresh
      | merged hd hid hcur hfresh hmerged =>
          exact evolves_observed_iff hinv hinv' hderived hpoll hat hd hid hcur hfresh hmerged

end Step

/-! ## Runs -/

theorem init_readByPoll {clk : Clock} {s : ServiceState} (h : Started cfg units clk s) :
    ReadByPoll s := by
  intro did device hdevice hseen
  obtain ⟨d, rfl, hd⟩ := h.inv.device did device hdevice
  obtain ⟨hunseen, _⟩ := h.unseen d hd.mem device hdevice
  rw [hunseen] at hseen
  cases hseen

/--
**Revisions identify content exactly as long as no read unsettles a group.**

The clock is held at one reading. Of any two states the service goes through, the
later one has every device and group at a revision that is not lower, and at the
same revision with the same content, precisely when no step of the run is a fresh
read that counts as no change and finds a group of its device unsettled.
-/
theorem revisions_identify_iff {s₀ : ServiceState}
    (hinit : GroupControlService.init cfg units (fun _ => t) = .ok s₀) {ops : List ServiceOp}
    (hops : ∀ op ∈ ops, AtTime t op) :
    (Run.states (serviceStep cfg units) s₀ ops).Pairwise Evolves
      ↔ Run.Each (serviceStep cfg units) (fun s op => ¬ Unsettles cfg units t s op) s₀ ops := by
  let Inv : ServiceState → Prop := fun s => ServiceInv cfg s ∧ DerivedInv cfg s ∧ ReadByPoll s
  have hstart := init_started hinit
  have hstep : ∀ s op, Inv s → Inv (serviceStep cfg units s op) := fun s op h =>
    ⟨serviceInv_step s op h.1, derivedInv_step s op h.1 h.2.1, readByPoll_step s op h.1 h.2.2⟩
  have hfresh : Inv s₀ := ⟨hstart.inv, init_derived hinit, init_readByPoll hstart⟩
  rw [Run.pairwise_states_iff Evolves.trans]
  exact Run.each_iff_of_mem hops hstep
    (fun s op hat h => evolves_step_iff op hat h.1 h.2.1 h.2.2) hfresh

/-- A first read and a stop, under one revision each. -/
theorem revisions_identify_iff_reefTank :
    (Run.states (serviceStep reefTank steadyUnits) (startState reefTank steadyUnits (fun _ => 0))
      [.observe leftPoll (fun _ => 0), .apply "flow" plainStop (fun _ => 0)]).Pairwise Evolves := by
  have hinit := @startState_eq reefTank steadyUnits (fun _ => 0) (by decide +kernel)
  have hchanges : ((startState reefTank steadyUnits (fun _ => 0)).deviceStates.get? "left").all
      (fun current => (mergeEvent current leftPoll).2) = true := by decide +kernel
  refine (revisions_identify_iff hinit ?_).mpr ⟨?_, fun h => h, trivial⟩
  · intro op hop
    simp only [List.mem_cons, List.not_mem_nil, or_false] at hop
    rcases hop with rfl | rfl
    · exact fun _ => rfl
    · exact fun _ => rfl
  · rintro ⟨current, state, hcur, ⟨rfl⟩, _, hsame, _⟩
    have hleft : (startState reefTank steadyUnits (fun _ => 0)).deviceStates.get? "left"
        = some current := hcur
    rw [hleft] at hchanges
    have hchanged : (mergeEvent current leftPoll).2 = false := hsame
    rw [Option.all_some, hchanged] at hchanges
    cases hchanges

/-- The same read of the left pump, a second later. -/
def leftPollAgain : ObserverEvent where
  deviceId := "left"
  status := .online
  occurredAt := 6
  state := some { enabled := true, power := 50, observedAt := 6 }

/--
**A repeated poll changes the status of a group under its old revision.** The left
pump runs on its own, so the group command between the two polls does not touch it.
-/
theorem revision_reused_reefTank :
    let start := startState reefTank steadyUnits (fun _ => 0)
    let override : ServiceOp := .applyDevice "left"
      { requestId := "override-1", enabled := some true } (fun _ => 0)
    let poll : ServiceOp := .observe leftPoll (fun _ => 0)
    let raise : ServiceOp := .apply "flow"
      { requestId := "raise-01", power := some ⟨60, by decide⟩ } (fun _ => 0)
    let again : ServiceOp := .observe leftPollAgain (fun _ => 0)
    GroupControlService.init reefTank steadyUnits (fun _ => 0) = .ok start
      ∧ (∀ op ∈ [override, poll, raise, again], AtTime 0 op)
      ∧ ((Run.exec (serviceStep reefTank steadyUnits) start [override, poll, raise]).states.get?
          "flow").map (fun record => (record.revision, record.status)) = some (3, .running)
      ∧ ((Run.exec (serviceStep reefTank steadyUnits) start
          [override, poll, raise, again]).states.get? "flow").map
            (fun record => (record.revision, record.status)) = some (3, .degraded)
      ∧ ¬ (Run.states (serviceStep reefTank steadyUnits) start
          [override, poll, raise, again]).Pairwise Evolves := by
  intro start override poll raise again
  have hinit := @startState_eq reefTank steadyUnits (fun _ => 0) (by decide +kernel)
  have hbefore : ((Run.exec (serviceStep reefTank steadyUnits) start
      [override, poll, raise]).states.get? "flow").map
        (fun record => (record.revision, record.status)) = some (3, .running) := by decide +kernel
  have hafter : ((Run.exec (serviceStep reefTank steadyUnits) start
      [override, poll, raise, again]).states.get? "flow").map
        (fun record => (record.revision, record.status)) = some (3, .degraded) := by decide +kernel
  refine ⟨hinit, ?_, hbefore, hafter, fun h => ?_⟩
  · intro op hop
    simp only [List.mem_cons, List.not_mem_nil, or_false] at hop
    rcases hop with rfl | rfl | rfl | rfl
    all_goals exact fun _ => rfl
  · obtain ⟨_, _, _, hlast, _⟩ := (Run.pairwise_states_iff Evolves.trans).mp h
    obtain ⟨a, ha, hshown⟩ := Option.map_eq_some_iff.mp hbefore
    obtain ⟨b, hb, _, hkept⟩ := hlast.group "flow" a ha
    obtain ⟨b', hb', hshown'⟩ := Option.map_eq_some_iff.mp hafter
    obtain rfl : b = b' := Option.some.inj (hb.symm.trans hb')
    rw [Prod.mk.injEq] at hshown hshown'
    have hstatus : a.status = b.status :=
      congrArg (fun r => r.status) (hkept (hshown.1.trans hshown'.1.symm)).fields
    rw [hshown.2, hshown'.2] at hstatus
    cases hstatus

end JebaoFlow
