import JebaoFlow.Proof.Announced

/-!
# Runs of the whole deployment

The daemon keeps its part of an invariant and the entry its own; they meet in the log of
the broker. Nothing about the order in which the steps are taken is assumed.
-/

namespace JebaoFlow

open Run

variable {site : Site} {d : Deployment site}

/-! ## The entry -/

abbrev Home (site : Site) := Broker.Subscriber String WirePayload site.Entry

structure HomeInv (site : Site) (published : List Transmission) (home : Home site) : Prop where
  within : Broker.Within (published.map site.note) home
  follows : ∀ kind id topic, kind.IsRetained → kind.build site.topics id = .ok topic →
    Broker.Follows (Shows site kind id) topic (published.map site.note) home
  backed : Backed site published home.state.1

section Home

variable {published sent : List Transmission} {home : Home site}

theorem genuine_notes (h : ∀ t ∈ published, Genuine site.topics t) :
    ∀ note ∈ published.map site.note, GenuineNote site note := by
  intro note hnote
  obtain ⟨t, ht, rfl⟩ := List.mem_map.mp hnote
  exact ⟨t, h t ht, rfl⟩

theorem HomeInv.notify (h : HomeInv site published home) :
    HomeInv site (published ++ sent) (home.notify (sent.map site.note)) where
  within := by
    rw [List.map_append]
    exact Broker.within_notify h.within
  follows kind id topic hkind htopic := by
    rw [List.map_append]
    exact (h.follows kind id topic hkind htopic).notify
  backed := h.backed.append

theorem HomeInv.subscribe (hgenuine : ∀ t ∈ published, Genuine site.topics t)
    (h : HomeInv site published home) :
    HomeInv site published (home.subscribe (published.map site.note)) where
  within := Broker.within_subscribe
  follows _ _ _ hkind htopic :=
    Broker.follows_subscribe (retained_notes hkind htopic (genuine_notes hgenuine))
  backed := h.backed

theorem HomeInv.lose (h : HomeInv site published home) : HomeInv site published home.lose where
  within := Broker.within_lose
  follows _ _ _ _ _ := Broker.follows_lose
  backed := h.backed

theorem HomeInv.deliver {other : String} (hgenuine : ∀ t ∈ published, Genuine site.topics t)
    (h : HomeInv site published home) :
    HomeInv site published (home.deliver site.receive other) where
  within := Broker.within_deliver h.within
  follows kind id topic hkind htopic := (h.follows kind id topic hkind htopic).deliver
    (handles hkind htopic) (genuine_notes hgenuine) h.within
  backed := by
    refine Broker.state_deliver (P := fun entry => Backed site published entry.1) h.within ?_ h.backed
    intro note hnote entry hbacked
    obtain ⟨t, ht, rfl⟩ := List.mem_map.mp hnote
    rw [receive_note entry (hgenuine t ht)]
    exact hbacked.absorb ht (hgenuine t ht)

theorem homeInv_fresh : HomeInv site published { state := site.fresh } where
  within _ hinbox := by cases hinbox
  follows _ _ _ _ _ _ hinbox := by cases hinbox
  backed := backed_fresh

end Home

/-! ## The daemon -/

structure DaemonInv (site : Site) (adapter : MqttAdapter) (severed : Bool) : Prop where
  honest : Honest site.cfg site.topics adapter
  tracked : severed = false →
    Tracked site.cfg site.topics adapter.service adapter.published adapter.link
  announced : severed = false → Announced site.topics adapter
  gone : severed = true → lastPayload adapter.published site.topics.availability
    = some (.availability "offline")

section Daemon

variable {adapter : MqttAdapter} {severed : Bool}

/-- A connection that was given up is over when the daemon greets again. -/
theorem stillSevered_cases {before after : Link} {severed : Bool}
    (h : Deployment.stillSevered before after severed = false) :
    severed = false ∨ before = .disconnected := by
  unfold Deployment.stillSevered at h
  split at h
  · exact Or.inr rfl
  · exact Or.inl h

theorem stillSevered_of_true {before after : Link} {severed : Bool}
    (h : Deployment.stillSevered before after severed = true) : severed = true := by
  unfold Deployment.stillSevered at h
  split at h
  · cases h
  · exact h

/-- **Every step of the daemon keeps its part.** -/
theorem DaemonInv.step (event : MqttAdapter.Event) (h : DaemonInv site adapter severed)
    (hquiet : severed = true → (MqttAdapter.step site.topics site.cfg site.units site.validator
      adapter event).published = adapter.published) :
    DaemonInv site
      (MqttAdapter.step site.topics site.cfg site.units site.validator adapter event)
      (Deployment.stillSevered adapter.link
        (MqttAdapter.step site.topics site.cfg site.units site.validator adapter event).link
        severed) := by
  have hmove := @moves site.cfg site.units site.topics site.validator adapter event
  -- a greeting starts from nothing, whatever became of the last connection
  have hcases : ∀ after, Deployment.stillSevered adapter.link after severed = false →
      Tracked site.cfg site.topics adapter.service adapter.published adapter.link
        ∧ Announced site.topics adapter := by
    intro after hstill
    rcases stillSevered_cases hstill with hnot | haway
    · exact ⟨h.tracked hnot, h.announced hnot⟩
    · rw [haway]
      exact ⟨trivial, announced_away (by rw [haway]; rfl)⟩
  refine ⟨h.honest.move hmove, fun hstill => ?_, fun hstill => ?_, fun hstill => ?_⟩
  · exact (converging_step adapter event ⟨h.honest.sound, (hcases _ hstill).1⟩).tracked
  · exact (hcases _ hstill).2.move h.honest hmove
  · have hsevered := stillSevered_of_true hstill
    rw [hquiet hsevered]
    exact h.gone hsevered

/-- The broker announces the will. -/
theorem DaemonInv.will (h : DaemonInv site adapter severed) :
    DaemonInv site
      { adapter with published := adapter.published ++ [offlineNote site.topics] } true where
  honest := h.honest.announce rfl
  tracked := nofun
  announced := nofun
  gone _ := (lastPayload_append ..).trans (if_pos rfl)

theorem DaemonInv.restart {clk : Clock} {service : ServiceState}
    (hinit : GroupControlService.init site.cfg site.units clk = .ok service)
    (h : DaemonInv site adapter severed) :
    DaemonInv site { service, published := adapter.published } severed where
  honest := init_honest hinit h.honest.published
  tracked _ := trivial
  announced _ := announced_away rfl
  gone := h.gone

end Daemon

/-! ## Both -/

structure Deployment.Inv (d : Deployment site) : Prop where
  daemon : DaemonInv site d.adapter d.severed
  home : HomeInv site d.adapter.published d.home

namespace Deployment

/-- What is published is passed on. -/
theorem advance_home {adapter : MqttAdapter} {severed : Bool} {sent : List Transmission}
    (hsent : adapter.published = d.adapter.published ++ sent) :
    (d.advance adapter severed).home = d.home.notify (sent.map site.note) := by
  unfold advance
  rw [hsent, List.drop_left]

theorem Inv.advance {adapter : MqttAdapter} {severed : Bool} {sent : List Transmission}
    (hsent : adapter.published = d.adapter.published ++ sent)
    (hdaemon : DaemonInv site adapter severed) (h : d.Inv) : (d.advance adapter severed).Inv := by
  refine ⟨hdaemon, ?_⟩
  show HomeInv site adapter.published _
  rw [advance_home hsent, hsent]
  exact h.home.notify

/-- A step of the daemon gets through, or the deployment stays. -/
theorem step_daemon (d : Deployment site) (event : MqttAdapter.Event) :
    d.step (.daemon event) = d ∨ ∃ adapter severed sent,
      adapter = MqttAdapter.step site.topics site.cfg site.units site.validator d.adapter event
        ∧ severed = stillSevered d.adapter.link adapter.link d.severed
        ∧ adapter.published = d.adapter.published ++ sent
        ∧ (d.severed = true → adapter.published = d.adapter.published)
        ∧ d.step (.daemon event) = d.advance adapter severed := by
  obtain ⟨sent, hsent⟩ :=
    (@moves site.cfg site.units site.topics site.validator d.adapter event).published
  unfold step
  dsimp only
  split
  · exact Or.inl rfl
  · rename_i hpassed
    refine Or.inr ⟨_, _, sent, rfl, rfl, hsent, fun hsevered => ?_, rfl⟩
    have hlength := not_not.mp fun hne => hpassed ⟨hsevered, hne⟩
    rw [hsent, List.length_append] at hlength
    rw [hsent, List.length_eq_zero_iff.mp (by omega : sent.length = 0), List.append_nil]

/-- **Every step keeps both parts.** -/
theorem inv_step (d : Deployment site) (event : Event) (h : d.Inv) : (d.step event).Inv := by
  cases event with
  | daemon event =>
      rcases step_daemon d event with heq | ⟨_, _, sent, rfl, rfl, hsent, hquiet, heq⟩
      · rw [heq]
        exact h
      · rw [heq]
        exact h.advance hsent (h.daemon.step event hquiet)
  | restart clk =>
      unfold step
      dsimp only
      split
      · rename_i service hinit
        exact ⟨h.daemon.restart hinit, h.home⟩
      · exact h
  | will => exact h.advance rfl h.daemon.will
  | subscribe => exact ⟨h.daemon, h.home.subscribe h.daemon.honest.published⟩
  | lose => exact ⟨h.daemon, h.home.lose⟩
  | deliver topic => exact ⟨h.daemon, h.home.deliver h.daemon.honest.published⟩
  | reload => exact ⟨h.daemon, homeInv_fresh⟩

theorem inv_start {clk : Clock} {service : ServiceState}
    (hinit : GroupControlService.init site.cfg site.units clk = .ok service) :
    (start service : Deployment site).Inv where
  daemon := {
    honest := init_honest hinit (fun _ ht => absurd ht List.not_mem_nil)
    tracked := fun _ => trivial
    announced := fun _ => announced_away rfl
    gone := nofun }
  home := homeInv_fresh

/-- A run from the start of the daemon and of the entry. -/
theorem inv_exec {clk : Clock} {service : ServiceState}
    (hinit : GroupControlService.init site.cfg site.units clk = .ok service) (events : List Event) :
    (Run.exec step (start service : Deployment site) events).Inv :=
  Run.invariant_exec (fun d event h => inv_step d event h) (inv_start hinit)

end Deployment

end JebaoFlow
