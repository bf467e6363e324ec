import JebaoFlow.Proof.EndToEnd
import JebaoFlow.Proof.Versions

/-!
# The dashboard never goes back

While the daemon runs, what it publishes of a record goes up, and what the entry shows goes up
with it: over lost sessions, retained messages that arrive anew and reloads of the entry. Only
a restart starts the revisions again.
-/

namespace JebaoFlow

open HomeAssistant Run

variable {site : Site} {ν : Type} {L : Ledger ν} {kind : TopicKind} {id topic : String}
  {write : ν → Json}

/-- States of groups and devices. -/
def TopicKind.IsState : TopicKind → Prop
  | .groupState | .deviceState => True
  | _ => False

theorem TopicKind.IsState.isRetained (h : kind.IsState) : kind.IsRetained := by
  cases kind <;> trivial

/-- A ledger is about what is published under a topic. -/
structure Ledger.About (L : Ledger ν) (site : Site) (kind : TopicKind) (id topic : String)
    (write : ν → Json) : Prop where
  state : kind.IsState
  build : kind.build site.topics id = .ok topic
  sent : ∀ t, Genuine site.topics t → t.topic = topic → ∃ v, L.sent t = some v
    ∧ t.payload.wire site.stamps site.daemon site.cfg = .json (write v)

/-- The order of the ledger, between payloads. -/
def Ledger.Below (L : Ledger ν) (write : ν → Json) (p q : WirePayload) : Prop :=
  p = q ∨ ∃ a b, p = .json (write a) ∧ q = .json (write b) ∧ L.below a b

theorem Ledger.Below.refl (p : WirePayload) : L.Below write p p := Or.inl rfl

/-- What goes up in the ledger goes up under the topic. -/
theorem Ledger.Climbs.log (habout : L.About site kind id topic write) {a : MqttAdapter}
    (hgenuine : ∀ t ∈ a.published, Genuine site.topics t) (h : L.Climbs a) :
    Broker.Climbs (L.Below write) topic (a.published.map site.note) := by
  obtain ⟨v, _, hascent⟩ := h.present
  have hpairs := List.pairwise_filterMap.mp hascent.published_pairwise
  unfold Broker.Climbs
  rw [on_log, List.pairwise_map, List.pairwise_filter]
  refine hpairs.imp_of_mem fun {t t'} ht ht' hbelow htopic htopic' => ?_
  obtain ⟨v, hv, hwire⟩ := habout.sent t (hgenuine t ht) (of_decide_eq_true htopic)
  obtain ⟨v', hv', hwire'⟩ := habout.sent t' (hgenuine t' ht') (of_decide_eq_true htopic')
  exact Or.inr ⟨v, v', hwire, hwire', hbelow v hv v' hv'⟩

/-- A state that is shown is in the log. -/
theorem Backed.sourced (hkind : kind.IsState) (hbuild : kind.build site.topics id = .ok topic)
    {published : List Transmission} {home : Home site} (h : Backed site published home.state.1) :
    Broker.Sourced (Shows site kind id) topic (published.map site.note) home := by
  have hattested : ∀ {items : Object}, Attested site published kind id items →
      ∃ note ∈ Broker.on topic (published.map site.note), note.payload = .json (.dict items) := by
    rintro items ⟨t, ht, _, _, htopic, hwire⟩
    refine ⟨site.note t, Broker.mem_on.mpr ⟨List.mem_map_of_mem ht, ?_⟩, hwire⟩
    exact Except.ok.inj (htopic.symm.trans hbuild)
  intro payload hshows
  cases kind with
  | groupState =>
      obtain ⟨items, hitems, rfl⟩ := Option.map_eq_some_iff.mp hshows
      exact hattested (h.group id items hitems)
  | deviceState =>
      obtain ⟨items, hitems, rfl⟩ := Option.map_eq_some_iff.mp hshows
      exact hattested (h.device id items hitems)
  | _ => cases hkind

/-- A new entry shows no state. -/
theorem fresh_shows_none (hkind : kind.IsState) (payload : WirePayload) :
    ¬ Shows site kind id site.fresh payload := by
  intro hshows
  have hnone : shown kind id site.fresh.1 = none := by
    cases kind <;> first | rfl | cases hkind
  exact nomatch hnone.symm.trans hshows

/-! ## Runs without a restart -/

def Deployment.Event.IsRestart : Deployment.Event → Prop
  | .restart _ => True
  | _ => False

instance : DecidablePred Deployment.Event.IsRestart := fun event => by
  cases event <;> unfold Deployment.Event.IsRestart <;> infer_instance

structure Forward (L : Ledger ν) (kind : TopicKind) (id topic : String) (write : ν → Json)
    (d : Deployment site) : Prop where
  inv : d.Inv
  climbs : L.Climbs d.adapter
  ascending : Broker.Ascending (Shows site kind id) (L.Below write) topic d.home

section Steps

variable {d : Deployment site}

/-- The log after the adapter has moved on, and that it still climbs. -/
theorem Forward.log (habout : L.About site kind id topic write) {adapter : MqttAdapter}
    {severed : Bool} {sent : List Transmission}
    (hsent : adapter.published = d.adapter.published ++ sent) (hinv : (d.advance adapter severed).Inv)
    (hclimbs : L.Climbs adapter) :
    Broker.Climbs (L.Below write) topic
      (d.adapter.published.map site.note ++ sent.map site.note) := by
  rw [← List.map_append, ← hsent]
  exact hclimbs.log habout hinv.daemon.honest.published

/-- The daemon takes a step, or its will is announced. -/
theorem Forward.sends (hL : L.Lawful site.cfg site.topics) (h : Forward L kind id topic write d)
    {event : Deployment.Event} (hevent : event = .will ∨ ∃ step, event = .daemon step) :
    d.step event = d ∨ ∃ adapter severed sent,
      adapter.published = d.adapter.published ++ sent ∧ L.Climbs adapter
        ∧ d.step event = d.advance adapter severed := by
  rcases hevent with rfl | ⟨step, rfl⟩
  · have hclimbs : L.Climbs { d.adapter with
        published := d.adapter.published ++ [offlineNote site.topics] } :=
      h.climbs.announce hL rfl (fun b hb => ⟨b, hb⟩) (fun hgreet => hgreet)
    exact Or.inr ⟨_, true, [offlineNote site.topics], rfl, hclimbs, rfl⟩
  · rcases d.step_daemon step with heq | ⟨_, _, sent, rfl, rfl, hsent, _, heq⟩
    · exact Or.inl heq
    · exact Or.inr ⟨_, _, sent, hsent,
        h.climbs.move hL h.inv.daemon.honest (moves d.adapter step), heq⟩

/-- **A step without a restart leaves what is shown below everything under way.** -/
theorem Forward.step (hL : L.Lawful site.cfg site.topics) (habout : L.About site kind id topic write)
    (event : Deployment.Event) (hnot : ¬ event.IsRestart) (h : Forward L kind id topic write d) :
    Forward L kind id topic write (d.step event) := by
  have hinv := Deployment.inv_step d event h.inv
  have hgenuine := genuine_notes h.inv.daemon.honest.published
  have hsourced := h.inv.home.backed.sourced habout.state habout.build
  have hsends : (event = .will ∨ ∃ step, event = .daemon step) →
      Forward L kind id topic write (d.step event) := by
    intro hevent
    rcases h.sends hL hevent with heq | ⟨adapter, severed, sent, hsent, hclimbs, heq⟩
    · rw [heq]
      exact h
    · rw [heq] at hinv ⊢
      refine ⟨hinv, hclimbs, ?_⟩
      rw [Deployment.advance_home hsent]
      exact h.ascending.notify (Forward.log habout hsent hinv hclimbs) h.inv.home.within hsourced
  cases event with
  | daemon step => exact hsends (Or.inr ⟨step, rfl⟩)
  | will => exact hsends (Or.inl rfl)
  | restart => exact absurd trivial hnot
  | subscribe =>
      exact ⟨hinv, h.climbs, Broker.ascending_subscribe Ledger.Below.refl
        (retained_notes habout.state.isRetained habout.build hgenuine)
        (h.climbs.log habout h.inv.daemon.honest.published) hsourced⟩
  | lose => exact ⟨hinv, h.climbs, Broker.ascending_lose⟩
  | deliver other =>
      exact ⟨hinv, h.climbs, h.ascending.deliver (handles habout.state.isRetained habout.build)
        Shows.functional hgenuine h.inv.home.within⟩
  | reload => exact ⟨hinv, h.climbs, Broker.ascending_fresh⟩

/-- What was shown once. -/
structure Since (L : Ledger ν) (kind : TopicKind) (id topic : String) (write : ν → Json)
    (seen : WirePayload) (d : Deployment site) : Prop where
  forward : Forward L kind id topic write d
  logged : ∃ note ∈ Broker.on topic d.log, note.payload = seen
  above : Broker.Above (Shows site kind id) (L.Below write) topic seen d.home

/-- **Nothing older than what was shown once comes up again.** -/
theorem Since.step (hL : L.Lawful site.cfg site.topics) (habout : L.About site kind id topic write)
    {seen : WirePayload} (event : Deployment.Event) (hnot : ¬ event.IsRestart)
    (h : Since L kind id topic write seen d) : Since L kind id topic write seen (d.step event) := by
  obtain ⟨hforward, hlogged, habove⟩ := h
  have hnext := hforward.step hL habout event hnot
  have hgenuine := genuine_notes hforward.inv.daemon.honest.published
  have hsends : (event = .will ∨ ∃ step, event = .daemon step) →
      Since L kind id topic write seen (d.step event) := by
    intro hevent
    rcases hforward.sends hL hevent with heq | ⟨adapter, severed, sent, hsent, hclimbs, heq⟩
    · rw [heq]
      exact ⟨hforward, hlogged, habove⟩
    · rw [heq] at hnext ⊢
      refine ⟨hnext, ?_, ?_⟩
      · obtain ⟨note, hnote, hpayload⟩ := hlogged
        refine ⟨note, ?_, hpayload⟩
        show note ∈ Broker.on topic (adapter.published.map site.note)
        rw [hsent, List.map_append, Broker.on_append]
        exact List.mem_append_left _ hnote
      · rw [Deployment.advance_home hsent]
        exact habove.notify (Forward.log habout hsent hnext.inv hclimbs) hlogged
  cases event with
  | daemon step => exact hsends (Or.inr ⟨step, rfl⟩)
  | will => exact hsends (Or.inl rfl)
  | restart => exact absurd trivial hnot
  | subscribe =>
      exact ⟨hnext, hlogged, habove.subscribe Ledger.Below.refl
        (retained_notes habout.state.isRetained habout.build hgenuine)
        (hforward.climbs.log habout hforward.inv.daemon.honest.published) hlogged⟩
  | lose => exact ⟨hnext, hlogged, habove.lose⟩
  | deliver other =>
      exact ⟨hnext, hlogged, habove.deliver (handles habout.state.isRetained habout.build)
        Shows.functional hgenuine hforward.inv.home.within⟩
  | reload => exact ⟨hnext, hlogged, Broker.above_fresh (fresh_shows_none habout.state)⟩

end Steps

/-! ## Runs -/

/-- What is shown at one time is below what is shown at any later one. -/
theorem shown_versions (hL : L.Lawful site.cfg site.topics) (habout : L.About site kind id topic write)
    {clk : Clock} {service : ServiceState}
    (hinit : GroupControlService.init site.cfg site.units clk = .ok service)
    (hpresent : ∃ v, L.current service = some v) {before after : List Deployment.Event}
    (hbefore : ∀ e ∈ before, ¬ e.IsRestart) (hafter : ∀ e ∈ after, ¬ e.IsRestart)
    {p q : WirePayload} :
    let d := exec Deployment.step (Deployment.start service : Deployment site) before
    Shows site kind id d.home.state p →
      Shows site kind id (exec Deployment.step d after).home.state q →
        ∃ a b, p = .json (write a) ∧ q = .json (write b) ∧ L.below a b := by
  intro d hp hq
  obtain ⟨v, hv⟩ := hpresent
  have hstart : Forward L kind id topic write (Deployment.start service : Deployment site) :=
    ⟨Deployment.inv_start hinit, Ledger.climbs_start hv, Broker.ascending_fresh⟩
  have hforward : Forward L kind id topic write d :=
    (always_of_each (C := fun _ e => ¬ e.IsRestart) (fun _ e hnot h => h.step hL habout e hnot)
      (fun _ h => h) (each_of_forall hbefore) hstart).last
  have hlogged := hforward.inv.home.backed.sourced habout.state habout.build p hp
  have hsince : Since L kind id topic write p d :=
    ⟨hforward, hlogged, hforward.ascending.above Ledger.Below.refl Shows.functional hp⟩
  have hlater : Since L kind id topic write p (exec Deployment.step d after) :=
    (always_of_each (C := fun _ e => ¬ e.IsRestart) (fun _ e hnot h => h.step hL habout e hnot)
      (fun _ h => h) (each_of_forall hafter) hsince).last
  rcases hlater.above.shown q hq with rfl | hbelow
  · obtain ⟨note, hnote, rfl⟩ := hlogged
    obtain ⟨hmem, htopic⟩ := Broker.mem_on.mp hnote
    obtain ⟨t, ht, rfl⟩ := genuine_notes hforward.inv.daemon.honest.published note hmem
    obtain ⟨a, _, hwire⟩ := habout.sent t ht htopic
    exact ⟨a, a, hwire, hwire, hL.refl a⟩
  · exact hbelow

theorem deviceLedger_about {did : String} (htopic : site.topics.deviceState did = .ok topic) :
    (deviceLedger did).About site .deviceState did topic (DeviceStatePayload.json site.stamps) where
  state := trivial
  build := htopic
  sent t ht hsame := by
    obtain ⟨hkind, hsubject⟩ := @Genuine.kind_eq _ .deviceState did t ht (hsame.symm ▸ htopic)
    obtain ⟨_, payload, _⟩ := t
    cases payload with
    | availability | systemConfig => cases hkind
    | message body =>
        cases body with
        | deviceState state =>
            exact ⟨state, @filter_named _ DeviceStatePayload.deviceId _ _ (hsubject rfl), rfl⟩
        | _ => cases hkind

theorem groupLedger_about {gid : String} (htopic : site.topics.groupState gid = .ok topic) :
    (groupLedger gid).About site .groupState gid topic (GroupStatePayload.json site.stamps) where
  state := trivial
  build := htopic
  sent t ht hsame := by
    obtain ⟨hkind, hsubject⟩ := @Genuine.kind_eq _ .groupState gid t ht (hsame.symm ▸ htopic)
    obtain ⟨_, payload, _⟩ := t
    cases payload with
    | availability | systemConfig => cases hkind
    | message body =>
        cases body with
        | groupState state =>
            exact ⟨state, @filter_named _ GroupStatePayload.groupId _ _ (hsubject rfl), rfl⟩
        | _ => cases hkind

/--
**What the dashboard shows never goes back.**

Take any run without a restart of the daemon, and any two moments of it. Of every device the
later record that is shown has no lower revision, and under the same revision the same content,
`last_seen_at` and the schedule's device clock aside; of every group it has no lower revision.
Sessions may be lost and the entry reloaded in between.
-/
theorem shown_never_falls_back {clk : Clock} {service : ServiceState}
    (hinit : GroupControlService.init site.cfg site.units clk = .ok service)
    (before after : List Deployment.Event) (hbefore : ∀ e ∈ before, ¬ e.IsRestart)
    (hafter : ∀ e ∈ after, ¬ e.IsRestart) :
    let d := exec Deployment.step (Deployment.start service : Deployment site) before
    let later := exec Deployment.step d after
    (∀ device ∈ site.cfg.devices, ∀ items items',
        d.home.state.1.deviceStates.get? device.id = some items →
        later.home.state.1.deviceStates.get? device.id = some items' →
          ∃ a b : DeviceStatePayload, items = Object.of (a.json site.stamps)
            ∧ items' = Object.of (b.json site.stamps) ∧ DeviceRises a b)
      ∧ ∀ group ∈ site.cfg.groups, ∀ items items',
        d.home.state.1.groupStates.get? group.id = some items →
        later.home.state.1.groupStates.get? group.id = some items' →
          ∃ a b : GroupStatePayload, items = Object.of (a.json site.stamps)
            ∧ items' = Object.of (b.json site.stamps) ∧ a.revision ≤ b.revision := by
  intro d later
  have hbacked := (Deployment.inv_exec hinit before : d.Inv).home.backed
  have hsound := init_sound hinit
  refine ⟨fun device hdevice items items' hitems hitems' => ?_,
    fun group hgroup items items' hitems hitems' => ?_⟩
  · obtain ⟨_, _, _, _, htopic, _⟩ := hbacked.device device.id items hitems
    obtain ⟨a, b, ha, hb, hrises⟩ := shown_versions (deviceLedger_lawful _ _ device.id)
      (deviceLedger_about htopic) hinit (hsound.inv.device_present device hdevice) hbefore hafter
      (congrArg (Option.map fun items => WirePayload.json (.dict items)) hitems)
      (congrArg (Option.map fun items => WirePayload.json (.dict items)) hitems')
    exact ⟨a, b, Json.dict.inj (WirePayload.json.inj ha), Json.dict.inj (WirePayload.json.inj hb),
      hrises⟩
  · obtain ⟨_, _, _, _, htopic, _⟩ := hbacked.group group.id items hitems
    obtain ⟨a, b, ha, hb, hrises⟩ := shown_versions (groupLedger_lawful _ _ group.id)
      (groupLedger_about htopic) hinit (hsound.inv.group_present group hgroup) hbefore hafter
      (congrArg (Option.map fun items => WirePayload.json (.dict items)) hitems)
      (congrArg (Option.map fun items => WirePayload.json (.dict items)) hitems')
    exact ⟨a, b, Json.dict.inj (WirePayload.json.inj ha), Json.dict.inj (WirePayload.json.inj hb),
      hrises⟩

/-- The entry is reloaded while the daemon goes on, and takes what is retained. -/
def reloadedRun : List Deployment.Event :=
  [.daemon (.observe leftPollAgain (fun _ => 1)), .reload, .daemon .wake, .daemon .publish,
    .subscribe, .deliver "flow/devices/left/state"]

theorem shown_never_falls_back_reloaded : ∃ a b : DeviceStatePayload,
    (tankAfter watchedTank ["flow/devices/left/state"]).home.state.1.deviceStates.get? "left"
        = some (Object.of (a.json (tankSite watchedTank).stamps))
      ∧ (exec Deployment.step (tankAfter watchedTank ["flow/devices/left/state"])
          reloadedRun).home.state.1.deviceStates.get? "left"
        = some (Object.of (b.json (tankSite watchedTank).stamps))
      ∧ DeviceRises a b := by
  have hinit := @startState_eq watchedTank steadyUnits (fun _ => 0) (by decide +kernel)
  obtain ⟨items, hitems⟩ := Option.isSome_iff_exists.mp (by decide +kernel :
    ((tankAfter watchedTank ["flow/devices/left/state"]).home.state.1.deviceStates.get?
      "left").isSome = true)
  obtain ⟨items', hitems'⟩ := Option.isSome_iff_exists.mp (by decide +kernel :
    ((exec Deployment.step (tankAfter watchedTank ["flow/devices/left/state"])
      reloadedRun).home.state.1.deviceStates.get? "left").isSome = true)
  obtain ⟨a, b, rfl, rfl, hrises⟩ := (@shown_never_falls_back (tankSite watchedTank) _ _ hinit
    (tankRun ["flow/devices/left/state"]) reloadedRun (by decide) (by decide)).1 leftPump
    (List.mem_cons_self ..) items items' hitems hitems'
  exact ⟨a, b, hitems, hitems', hrises⟩

end JebaoFlow
