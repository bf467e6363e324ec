import JebaoFlow.Proof.Changes

/-!
# Derived group data is never stale

A group record carries what was last read of each of its devices and a summary of
those readings. Both are copies: the device records are the originals, and the
copies are renewed on some paths only. A stale read, an unchanged status report
and every command skip the summary, a group command renews the entries of one
group. Each skip leaves the copies exact, because it leaves the originals alone.
-/

namespace JebaoFlow

variable {cfg : AppConfig} {units : UnitSource}

/-! ## What is copied -/

/-- What was last read of a device. -/
structure Observation where
  actualEnabled : Option Bool := none
  actualPower : Option Percent := none
  actualMode : Option String := none
  actualFrequency : Option Percent := none
  online : Option Bool := none
  error : Option String := none
  lastSeenAt : Option Datetime := none
  lastChangedAt : Option Datetime := none
  lastConfigurationChangedAt : Option Datetime := none
  observedAttributes : Dict String Scalar := Dict.empty

def DeviceStatePayload.observation (device : DeviceStatePayload) : Observation where
  actualEnabled := device.actualEnabled
  actualPower := device.actualPower
  actualMode := device.actualMode
  actualFrequency := device.actualFrequency
  online := device.online
  error := device.error
  lastSeenAt := device.lastSeenAt
  lastChangedAt := device.lastChangedAt
  lastConfigurationChangedAt := device.lastConfigurationChangedAt
  observedAttributes := device.observedAttributes

def GroupMemberState.observation (view : GroupMemberState) : Observation where
  actualEnabled := view.actualEnabled
  actualPower := view.actualPower
  actualMode := view.actualMode
  actualFrequency := view.actualFrequency
  online := view.online
  error := view.error
  lastSeenAt := view.lastSeenAt
  lastChangedAt := view.lastChangedAt
  lastConfigurationChangedAt := view.lastConfigurationChangedAt
  observedAttributes := view.observedAttributes

/-- What a group shows of its devices taken together. -/
structure Summary where
  actualEnabled : Option Bool
  onlineMemberCount : ℕ
  memberCount : ℕ
  lastSeenAt : Option Datetime
  lastChangedAt : Option Datetime
  lastConfigurationChangedAt : Option Datetime

def GroupStatePayload.summary (record : GroupStatePayload) : Summary where
  actualEnabled := record.actualEnabled
  onlineMemberCount := record.onlineMemberCount
  memberCount := record.memberCount
  lastSeenAt := record.lastSeenAt
  lastChangedAt := record.lastChangedAt
  lastConfigurationChangedAt := record.lastConfigurationChangedAt

/-! ## Recomputing from the originals -/

/-- The summary of some readings. -/
def summarize (readings : List Observation) : Summary where
  actualEnabled :=
    if readings.any (·.online = some true) then
      some (readings.any (fun o => o.online = some true ∧ o.actualEnabled = some true))
    else none
  onlineMemberCount := readings.countP (·.online = some true)
  memberCount := readings.length
  lastSeenAt := (readings.filterMap (·.lastSeenAt)).max?
  lastChangedAt := (readings.filterMap (·.lastChangedAt)).max?
  lastConfigurationChangedAt := (readings.filterMap (·.lastConfigurationChangedAt)).max?

/-- The health of some devices: an error anywhere shows, and so does a device that is missing. -/
def health (readings : List Observation) : GroupState :=
  if readings.any (truthy ·.error) then
    if readings.all (truthy ·.error) then .error else .degraded
  else if readings ≠ [] ∧ readings.all (·.online = some true) then
    if readings.any (·.actualEnabled = some true) then .running else .stopped
  else if readings.any (·.online = some true) then .degraded
  else if readings.any (·.online.isSome) then .error
  else .starting

/-- The readings of a group's devices, in the order of its members. -/
def observations (s : ServiceState) (g : GroupConfig) : List Observation :=
  g.deviceIds.filterMap (fun did => (s.deviceStates.get? did).map (·.observation))

/-- The record shows of its devices what their own records show, one by one and as a whole. -/
structure UpToDate (cfg : AppConfig) (s : ServiceState) (g : GroupConfig)
    (record : GroupStatePayload) : Prop where
  members : record.members.keys = g.deviceIds
  member : ∀ did ∈ g.deviceIds, ∃ view device, record.members.get? did = some view
    ∧ s.deviceStates.get? did = some device ∧ view.observation = device.observation
  summary : record.summary = summarize (observations s g)
  status : cfg.runtime.mode = .observer → record.status = health (observations s g)

/-- Every group record is up to date. -/
def DerivedInv (cfg : AppConfig) (s : ServiceState) : Prop :=
  ∀ g ∈ cfg.groups, ∀ record, s.states.get? g.id = some record → UpToDate cfg s g record

/-! ## The source's recomputation -/

theorem observedGroup_summary (changed : Bool) (record : GroupStatePayload)
    (members : Dict String GroupMemberState) :
    (observedGroup changed record members).summary
      = summarize (members.entries.map (fun e => e.2.observation)) := by
  have hvalues : members.entries.map (fun e => e.2.observation)
      = (members.entries.map Prod.snd).map (·.observation) := by
    rw [List.map_map]; rfl
  rw [hvalues]
  unfold GroupStatePayload.summary observedGroup summarize
  generalize members.entries.map Prod.snd = values
  dsimp only
  congr 1
  · simp [List.any_filter, GroupMemberState.observation, Function.comp_def]
  · rw [List.countP_map, List.countP_eq_length_filter]
    rfl
  · rw [List.length_map]
  all_goals
    rw [List.filterMap_map]
    rfl

theorem observedStatus_health (values : List GroupMemberState) :
    observedStatus values = health (values.map (·.observation)) := by
  have hall : ∀ p : GroupMemberState → Bool,
      (values.filter p).length = values.length ↔ values.all p = true := by
    intro p
    rw [List.length_filter_eq_length_iff, List.all_eq_true]
  have hany : ∀ p : GroupMemberState → Bool, values.filter p ≠ [] ↔ values.any p = true := by
    intro p
    rw [Ne, List.filter_eq_nil_iff, List.any_eq_true]
    simp
  -- among devices that are all online, one that runs is one that is online and runs
  have hrunning : values.all (fun m => decide (m.online = some true)) = true →
      values.any (fun m => decide (m.online = some true) && decide (m.actualEnabled = some true))
        = values.any (fun m => decide (m.actualEnabled = some true)) := by
    intro honline
    rw [List.all_eq_true] at honline
    rw [Bool.eq_iff_iff, List.any_eq_true, List.any_eq_true]
    exact exists_congr fun m => and_congr_right fun hm => by rw [honline m hm, Bool.true_and]
  unfold observedStatus health
  simp only [hall, hany, List.any_map, List.all_map, List.any_filter, Function.comp_def,
    GroupMemberState.observation, ne_eq, List.map_eq_nil_iff]
  -- both ask for errors first, then whether all devices are online
  by_cases herror : (values.any fun m => truthy m.error) = true
  · simp [herror]
  · rw [Bool.not_eq_true] at herror
    by_cases honline : (values.all fun m => decide (m.online = some true)) = true
    · simp only [herror, honline, hrunning honline, Bool.false_eq_true, false_and, true_and,
        and_true, if_false]
    · rw [Bool.not_eq_true] at honline
      simp only [herror, honline, Bool.false_eq_true, false_and, and_false, if_false]

theorem observedGroup_status (changed : Bool) (record : GroupStatePayload)
    (members : Dict String GroupMemberState) :
    (observedGroup changed record members).status
      = health (members.entries.map (fun e => e.2.observation)) := by
  show observedStatus _ = _
  rw [observedStatus_health, List.map_map]
  rfl

/-! ## Copies and originals -/

/-- The members calculated from the device records carry their readings. -/
theorem MembersFor.observation {g : GroupConfig} {deviceStates : Dict String DeviceStatePayload}
    {targets : Dict String DeviceTarget} {members : Dict String GroupMemberState}
    (h : MembersFor g deviceStates targets members) {did : String} (hdid : did ∈ g.deviceIds)
    {device : DeviceStatePayload} (hdevice : deviceStates.get? did = some device) :
    ∃ view, members.get? did = some view ∧ view.observation = device.observation := by
  obtain ⟨m, hm, rfl⟩ := List.mem_map.mp hdid
  obtain ⟨name, target, _, hview⟩ := h.member m hm
  rw [hdevice] at hview
  exact ⟨_, hview, rfl⟩

section Copies

variable {s s' : ServiceState} {g : GroupConfig} {record : GroupStatePayload}

/-- Calculated members list the readings in the order of the configuration. -/
theorem MembersFor.observations (hinv : ServiceInv cfg s) (hg : g ∈ cfg.groups)
    {targets : Dict String DeviceTarget} {members : Dict String GroupMemberState}
    (h : MembersFor g s.deviceStates targets members) :
    members.entries.map (fun e => e.2.observation) = JebaoFlow.observations s g := by
  rw [Dict.map_values, h.keys]
  refine List.filterMap_congr fun did hdid => ?_
  obtain ⟨m, hm, rfl⟩ := List.mem_map.mp hdid
  obtain ⟨device, hdevice⟩ := hinv.member_present hg hm
  obtain ⟨view, hview, heq⟩ := h.observation (List.mem_map_of_mem hm) hdevice
  rw [hview, hdevice, Option.map_some, Option.map_some, heq]

/-- The readings of a device are the same before and after. -/
def SameReading (s s' : ServiceState) (did : String) : Prop :=
  (s'.deviceStates.get? did).map (·.observation) = (s.deviceStates.get? did).map (·.observation)

theorem observations_congr (h : ∀ did ∈ g.deviceIds, SameReading s s' did) :
    observations s' g = observations s g :=
  List.filterMap_congr h

theorem SameReading.device {did : String} {device : DeviceStatePayload}
    (h : SameReading s s' did) (hdevice : s.deviceStates.get? did = some device) :
    ∃ device', s'.deviceStates.get? did = some device'
      ∧ device'.observation = device.observation := by
  unfold SameReading at h
  rw [hdevice, Option.map_some, Option.map_eq_some_iff] at h
  exact h

/-- A record nothing touches stays up to date while the readings stay. -/
theorem UpToDate.congr (h : UpToDate cfg s g record)
    (hsame : ∀ did ∈ g.deviceIds, SameReading s s' did) : UpToDate cfg s' g record where
  members := h.members
  member did hdid := by
    obtain ⟨view, device, hview, hdevice, heq⟩ := h.member did hdid
    obtain ⟨device', hdevice', heq'⟩ := (hsame did hdid).device hdevice
    exact ⟨view, device', hview, hdevice', heq.trans heq'.symm⟩
  summary := by rw [observations_congr hsame]; exact h.summary
  status hmode := by rw [observations_congr hsame]; exact h.status hmode

/-- Renewing the entries of a record brings nothing else out of date. -/
theorem UpToDate.renew {after : GroupStatePayload} (h : UpToDate cfg s g record)
    (hsame : ∀ did ∈ g.deviceIds, SameReading s s' did) {targets : Dict String DeviceTarget}
    (hmembers : MembersFor g s'.deviceStates targets after.members)
    (hsummary : after.summary = record.summary)
    (hstatus : cfg.runtime.mode = .observer → after.status = record.status) :
    UpToDate cfg s' g after where
  members := hmembers.keys
  member did hdid := by
    obtain ⟨_, device, _, hdevice, _⟩ := h.member did hdid
    obtain ⟨device', hdevice', _⟩ := (hsame did hdid).device hdevice
    obtain ⟨view, hview, heq⟩ := hmembers.observation hdid hdevice'
    exact ⟨view, device', hview, hdevice', heq⟩
  summary := by rw [observations_congr hsame, hsummary]; exact h.summary
  status hmode := by rw [observations_congr hsame, hstatus hmode]; exact h.status hmode

end Copies

/-! ## Commands read nothing -/

section Commands

variable {s s' : ServiceState} {clk : Clock} {g : GroupConfig} {d : DeviceConfig}

theorem afterSync_observation (groupState : GroupStatePayload) (force : Bool) (power : Percent)
    (device : DeviceStatePayload) :
    (afterSync groupState force power device).observation = device.observation := by
  rcases afterSync_cases groupState force power device with ⟨_, heq⟩ | ⟨_, heq⟩ <;> rw [heq]
  rfl

theorem Accepted.sameReading {current : GroupStatePayload} {command : GroupCommand}
    {result : GroupCommandResult} (hinv : ServiceInv cfg s) (hg : g ∈ cfg.groups)
    (hacc : Accepted cfg units clk g current command result s s') (did : String) :
    SameReading s s' did := by
  unfold SameReading
  by_cases hdid : did ∈ g.deviceIds
  · obtain ⟨m, hm, rfl⟩ := List.mem_map.mp hdid
    obtain ⟨before, hbefore⟩ := hinv.member_present hg hm
    obtain ⟨_, _, hwrite⟩ := hacc.devices
    obtain ⟨_, _, hafter⟩ := hwrite m hm before hbefore
    rw [hafter, hbefore, Option.map_some, Option.map_some, afterSync_observation]
  · rw [hacc.frame did hdid]

theorem sameReading_set {current updated : DeviceStatePayload} {key : String}
    (hcur : s.deviceStates.get? key = some current)
    (hset : s'.deviceStates = s.deviceStates.set key updated)
    (hsame : updated.observation = current.observation) (did : String) : SameReading s s' did := by
  unfold SameReading
  rw [hset, Dict.get?_set]
  split
  · rename_i heq
    rw [← heq, hcur, Option.map_some, Option.map_some, hsame]
  · rfl

/-- A group command renews the entries of its own group, and nothing is out of date anywhere. -/
theorem derivedInv_commanded {current : GroupStatePayload} {command : GroupCommand}
    {result : GroupCommandResult} (hinv : ServiceInv cfg s) (h : DerivedInv cfg s)
    (hexec : Executes cfg s g current command)
    (hacc : Accepted cfg units clk g current command result s s') : DerivedInv cfg s' := by
  have hsame := hacc.sameReading hinv hexec.mem
  intro k hk record hrecord
  by_cases heq : g.id = k.id
  · obtain rfl := AppConfig.group_eq hexec.mem hk heq
    obtain ⟨members, hself, hmembers⟩ := hacc.group_self
    rw [hself] at hrecord
    cases hrecord
    obtain ⟨_, _, _, hfor⟩ := (hexec.groupInv hinv).members_of_ok hmembers
    exact (h g hk current hexec.record).renew (fun did _ => hsame did) hfor rfl
      (fun hmode => by rw [hexec.admitted.mode] at hmode; cases hmode)
  -- another group keeps its entries, and the devices the readings they copy
  · rw [hacc.group_other heq] at hrecord
    exact (h k hk record hrecord).congr (fun did _ => hsame did)

/-- A device command renews the entries of the device's groups. -/
theorem derivedInv_stored {current updated : DeviceStatePayload} {command : DeviceCommand}
    {result : DeviceCommandResult} (hinv : ServiceInv cfg s) (h : DerivedInv cfg s)
    (hexec : DeviceExecutes cfg s d current command)
    (hst : Stored cfg units clk d updated result s s')
    (hsame : updated.observation = current.observation) : DerivedInv cfg s' := by
  have hreading := sameReading_set hexec.record hst.device hsame
  intro k hk record hrecord
  by_cases hgid : k.id ∈ updated.groupIds
  · obtain ⟨before, hbefore⟩ := hinv.group_present k hk
    obtain ⟨after, hafter, _, members, hmembers, rfl⟩ :=
      hst.groups.rewritten k.id hgid before hbefore
    rw [hafter] at hrecord
    cases hrecord
    obtain ⟨_, _, _, hfor⟩ := (hinv.groupInv hk hbefore).members_of_ok hmembers
    exact (h k hk before hbefore).renew (fun did _ => hreading did) hfor rfl (fun _ => rfl)
  · rw [hst.groups.frame k.id hgid] at hrecord
    exact (h k hk record hrecord).congr (fun did _ => hreading did)

end Commands

/-! ## Observations renew what they touch -/

section Observations

variable {s s' : ServiceState} {clk : Clock} {event : ObserverEvent} {d : DeviceConfig}
  {current : DeviceStatePayload}

/-- An event that refreshes no group reads what is already recorded. -/
theorem mergeEvent_observation (h : refreshes current event = false) :
    (mergeEvent current event).1.observation = current.observation := by
  unfold refreshes at h
  rw [Bool.or_eq_false_iff] at h
  obtain ⟨hstate, hchanged⟩ := h
  rw [Option.isSome_eq_false_iff, Option.isNone_iff_eq_none] at hstate
  unfold mergeEvent at hchanged ⊢
  rw [hstate] at hchanged ⊢
  unfold mergeReport at hchanged ⊢
  dsimp only at hchanged ⊢
  rw [decide_eq_false_iff_not, Ne, Classical.not_not, Prod.mk.injEq, Prod.mk.injEq] at hchanged
  obtain ⟨honline, herror, _⟩ := hchanged
  unfold DeviceStatePayload.observation
  dsimp only
  rw [← honline, ← herror]

theorem derivedInv_observed (hinv : ServiceInv cfg s) (hinv' : ServiceInv cfg s')
    (h : DerivedInv cfg s) (hd : d ∈ cfg.devices) (hid : d.id = event.deviceId)
    (hcur : s.deviceStates.get? event.deviceId = some current)
    (hmerged : Merged cfg units clk event current s s') : DerivedInv cfg s' := by
  have hdevice := hinv.deviceInv hd (hid ▸ hcur)
  intro k hk record hrecord
  cases hrefresh : refreshes current event with
  | false =>
      -- no group is refreshed, and the event tells nothing new of the device
      rw [hmerged.unrefreshed hrefresh] at hrecord
      have hreading := sameReading_set hcur hmerged.device (mergeEvent_observation hrefresh)
      exact (h k hk record hrecord).congr (fun did _ => hreading did)
  | true =>
      have href := hmerged.refreshed hrefresh
      by_cases hgid : k.id ∈ current.groupIds
      · obtain ⟨before, hbefore⟩ := hinv.group_present k hk
        obtain ⟨after, hafter, _, members, hmembers, rfl⟩ :=
          href.rewritten k.id hgid before hbefore
        rw [hafter] at hrecord
        cases hrecord
        obtain ⟨_, _, _, hfor⟩ := (hinv.groupInv hk hbefore).members_of_ok hmembers
        -- the refresh recomputes the record from the device records it finds
        have hlist := hfor.observations hinv' hk
        refine ⟨hfor.keys, fun did hdid => ?_, ?_, fun _ => ?_⟩
        · obtain ⟨m, hm, rfl⟩ := List.mem_map.mp hdid
          obtain ⟨device, hpresent⟩ := hinv'.member_present hk hm
          obtain ⟨view, hview, heq⟩ := hfor.observation hdid hpresent
          exact ⟨view, device, hview, hpresent, heq⟩
        · rw [observedGroup_summary, hlist]
        · rw [observedGroup_status, hlist]
      · -- a group the device is not in shows none of its readings
        have hreading : ∀ did ∈ k.deviceIds, SameReading s s' did := by
          intro did hdid
          have hne : event.deviceId ≠ did := by
            rintro rfl
            exact hgid (hdevice.mem_groupIds.mpr ⟨k, hk, rfl, hid ▸ hdid⟩)
          unfold SameReading
          rw [hmerged.device, Dict.get?_set_ne _ _ hne]
        rw [href.frame k.id hgid] at hrecord
        exact (h k hk record hrecord).congr hreading

end Observations

/-! ## Start -/

/-- The summary a group starts with. -/
def GroupConfig.blankSummary (g : GroupConfig) : Summary :=
  ⟨none, 0, g.members.length, none, none, none⟩

theorem initialState_summary {now : ℚ} {g : GroupConfig} {record : GroupStatePayload}
    (h : initialState cfg units now g = .ok record) : record.summary = g.blankSummary := by
  unfold initialState at h
  obtain ⟨_, _, h⟩ := PyError.bind_eq_ok h
  obtain ⟨payload, hpayload, h⟩ := PyError.bind_eq_ok h
  obtain ⟨_, _, h⟩ := PyError.bind_eq_ok h
  cases h
  unfold initialPayload at hpayload
  split at hpayload
  · split at hpayload
    · cases hpayload
      rfl
    · cases hpayload
  · cases hpayload

theorem initialDeviceState_observation {states : Dict String GroupStatePayload} {d : DeviceConfig}
    {device : DeviceStatePayload} (h : initialDeviceState cfg states d = .ok device) :
    device.observation = {} := by
  unfold initialDeviceState at h
  obtain ⟨_, _, h⟩ := PyError.bind_eq_ok h
  cases h
  rfl

/-- Nothing read of any device summarises to nothing read. -/
theorem summarize_blank (n : ℕ) :
    summarize (List.replicate n {}) = ⟨none, 0, n, none, none, none⟩ := by
  have hnone : ∀ {β : Type} (f : Observation → Option β), f {} = none →
      (List.replicate n ({} : Observation)).filterMap f = [] := by
    intro β f hf
    simp [hf]
  unfold summarize
  rw [hnone _ rfl, hnone _ rfl, hnone _ rfl]
  simp [List.countP_replicate]

theorem health_blank (n : ℕ) : health (List.replicate n {}) = .starting := by
  cases n with
  | zero => rfl
  | succ n => simp [health, truthy, List.any_replicate, List.all_replicate]

theorem init_derived {clk : Clock} {s : ServiceState}
    (h : GroupControlService.init cfg units clk = .ok s) : DerivedInv cfg s := by
  have hstart := init_started h
  obtain ⟨hsummary, hreading⟩ := init_records
    (P := fun g record => record.summary = g.blankSummary)
    (Q := fun _ device => device.observation = {}) h
    (fun _ _ _ _ hrecord => initialState_summary hrecord) (fun _ _ _ hrecord => hrecord)
    (fun _ _ _ _ hdevice => initialDeviceState_observation hdevice)
  intro g hg record hrecord
  obtain ⟨hconf, _, hmembers⟩ := hstart.group g hg record hrecord
  obtain ⟨_, _, _, hfor⟩ := (hstart.inv.groupInv hg hrecord).members_of_ok hmembers
  have hmember : ∀ did ∈ g.deviceIds, ∃ device, s.deviceStates.get? did = some device
      ∧ device.observation = {} := by
    intro did hdid
    obtain ⟨m, hm, rfl⟩ := List.mem_map.mp hdid
    obtain ⟨d, hd, hid, _⟩ := AppConfig.deviceConfig_member hg hm
    obtain ⟨device, hdevice⟩ := hstart.inv.member_present hg hm
    exact ⟨device, hdevice, hreading d hd device (hid ▸ hdevice)⟩
  -- no device has been read yet
  have hblank : observations s g = List.replicate g.members.length {} := by
    have hall : observations s g = g.deviceIds.map (fun _ => ({} : Observation)) := by
      unfold observations
      rw [← List.filterMap_eq_map]
      refine List.filterMap_congr fun did hdid => ?_
      obtain ⟨device, hdevice, heq⟩ := hmember did hdid
      rw [hdevice, Option.map_some, heq]
      rfl
    rw [hall, List.map_const', GroupConfig.deviceIds, List.length_map]
  refine ⟨hfor.keys, fun did hdid => ?_, ?_, fun hmode => ?_⟩
  · obtain ⟨device, hdevice, _⟩ := hmember did hdid
    obtain ⟨view, hview, heq⟩ := hfor.observation hdid hdevice
    exact ⟨view, device, hview, hdevice, heq⟩
  · rw [hblank, summarize_blank, hsummary g hg record hrecord]
    rfl
  · rw [hblank, health_blank, hconf.status, if_pos hmode]

/-! ## Runs -/

theorem derivedInv_step (s : ServiceState) (op : ServiceOp) (hinv : ServiceInv cfg s)
    (h : DerivedInv cfg s) : DerivedInv cfg (serviceStep cfg units s op) := by
  have hinv' : ServiceInv cfg (serviceStep cfg units s op) := serviceInv_step s op hinv
  have hchanged := changed_step units hinv op
  generalize serviceStep cfg units s op = s' at hchanged hinv'
  cases hchanged with
  | idle hstates hdevices _ =>
      intro k hk record hrecord
      rw [hstates] at hrecord
      refine (h k hk record hrecord).congr (fun did _ => ?_)
      unfold SameReading
      rw [hdevices]
  | commanded hexec hacc => exact derivedInv_commanded hinv h hexec hacc
  | resumed hexec _ _ _ _ _ _ hst => exact derivedInv_stored hinv h hexec hst rfl
  | overridden hexec _ hst => exact derivedInv_stored hinv h hexec hst rfl
  | observed hd hid hcur hmerged => exact derivedInv_observed hinv hinv' h hd hid hcur hmerged

theorem reachable_derived {s : ServiceState} (hs : Reachable cfg units s) : DerivedInv cfg s :=
  hs.induct_init (fun _ _ h => init_derived h) derivedInv_step

/--
**Every group record is up to date in every reachable state.**

Each of its entries carries the reading of its device's current record, the summary
is the one recomputed from those records, and in observer mode so is the status.
-/
theorem derived_data_current {s : ServiceState} (hs : Reachable cfg units s) {g : GroupConfig}
    (hg : g ∈ cfg.groups) :
    ∃ record, s.states.get? g.id = some record ∧ UpToDate cfg s g record := by
  have hderived := reachable_derived hs
  obtain ⟨record, hrecord⟩ := (reachable_inv hs).group_present g hg
  exact ⟨record, hrecord, hderived g hg record hrecord⟩

/-- A poll of one of two pumps, in a group that shows it. -/
theorem derived_data_current_reefTank :
    ∃ record, (Run.exec (serviceStep reefTank steadyUnits)
        (startState reefTank steadyUnits (fun _ => 0)) [.observe leftPoll (fun _ => 1)]).states.get?
          "flow" = some record
      ∧ UpToDate reefTank (Run.exec (serviceStep reefTank steadyUnits)
          (startState reefTank steadyUnits (fun _ => 0)) [.observe leftPoll (fun _ => 1)])
          reefFlow record := by
  have hstart : starts reefTank steadyUnits (fun _ => 0) = true := by decide +kernel
  exact derived_data_current (reachable_startState hstart _) (List.mem_singleton.mpr rfl)

end JebaoFlow
