import JebaoFlow.Proof.EndToEnd
import JebaoFlow.Proof.Offers

/-!
# What the platforms hand over

Before the configuration of the daemon arrives a platform makes nothing. When it arrives, or
when the platform is set up later, it makes everything at once, and whenever it looks again it
makes nothing more.
-/

namespace JebaoFlow

open HomeAssistant Run

variable {site : Site} (conv : Conversions) {runtime : LiveRuntime} {loop : Loop}
  {loops : Loop → LoopState}

/-! ## One loop -/

/-- The entry has no configuration yet, or the daemon's. -/
structure Briefed (site : Site) (runtime : LiveRuntime) : Prop where
  entry : runtime.entryId = site.entryId
  config : runtime.systemConfig = []
    ∨ runtime.systemConfig = Object.of (systemConfig site.daemon site.cfg).json

/-- What holds of a loop also between a store and its turn among the listeners. -/
structure Waiting (site : Site) (runtime : LiveRuntime) (loop : Loop) (state : LoopState) :
    Prop where
  settled : Once.Settled Offer.id Offer.entities (site.offers loop) state.seen
  before : runtime.systemConfig = [] ∨ state.listening = false → state.seen = {}

/-- A loop that listens has handed over everything as soon as there is a configuration. -/
structure Furnished (site : Site) (runtime : LiveRuntime) (loop : Loop) (state : LoopState) :
    Prop extends Waiting site runtime loop state where
  after : runtime.systemConfig ≠ [] → state.listening = true →
    state.seen.added = site.entities loop

theorem Briefed.informed (h : Briefed site runtime) (hne : runtime.systemConfig ≠ []) :
    Informed site runtime := ⟨h.entry, h.config.resolve_left hne⟩

theorem descriptors_unconfigured (hnone : runtime.systemConfig = []) :
    ∀ loop : Loop, loop.descriptors runtime = []
  | .groups _ | .devices _ => by
      show LiveRuntime.descriptors runtime _ = []
      unfold LiveRuntime.descriptors LiveRuntime.configured
      rw [hnone]
      rfl

theorem Waiting.furnished {state : LoopState} (h : Waiting site runtime loop state)
    (hidle : state.listening = false) : Furnished site runtime loop state :=
  ⟨h, fun _ hlistening => absurd (hidle.symm.trans hlistening) Bool.false_ne_true⟩

/-- **A loop that is run is up to date, and does not raise.** -/
theorem discover_briefed (hbriefed : Briefed site runtime) {state : LoopState}
    (h : Waiting site runtime loop state) (hlistening : state.listening = true) :
    (loop.discover conv runtime state).2 = none
      ∧ (loop.discover conv runtime state).1.listening = true
      ∧ Furnished site runtime loop (loop.discover conv runtime state).1 := by
  unfold Loop.discover
  dsimp only
  by_cases hnone : runtime.systemConfig = []
  · rw [descriptors_unconfigured hnone]
    have hcall : state.seen.call (identifierOf conv) (loop.factory conv runtime) []
        = (state.seen, none) := by
      unfold Once.Seen.call Once.discover
      dsimp only
      rw [List.append_nil]
    rw [hcall]
    exact ⟨rfl, hlistening, h, fun hne => absurd hnone hne⟩
  · have hinformed := hbriefed.informed hnone
    rw [descriptors_of_config hinformed.config loop, Once.call_map]
    obtain ⟨hok, hadded, hsettled⟩ := h.settled.call
      (fun offer hoffer => ⟨identifierOf_offer offer hoffer, factory_offer hinformed offer hoffer⟩)
      (offers_nodup loop)
    refine ⟨hok, hlistening, ⟨hsettled, fun hor => ?_⟩, fun _ _ => hadded⟩
    rcases hor with hconfig | hidle
    · exact absurd hconfig hnone
    · exact absurd (hidle.symm.trans hlistening) Bool.false_ne_true

/-- A loop that was not set up. -/
theorem furnished_fresh : Furnished site runtime loop {} :=
  Waiting.furnished ⟨Once.Settled.before rfl rfl, fun _ => rfl⟩ rfl

/-! ## All loops -/

/-- One loop is run: it is up to date, and the others are as they were. -/
theorem run_briefed (hbriefed : Briefed site runtime) (h : Waiting site runtime loop (loops loop))
    (hlistening : (loops loop).listening = true) :
    (Integration.run conv runtime loop loops).2 = none
      ∧ Furnished site runtime loop ((Integration.run conv runtime loop loops).1 loop)
      ∧ (∀ other, ((Integration.run conv runtime loop loops).1 other).listening
        = (loops other).listening)
      ∧ ∀ other, other ≠ loop →
        (Integration.run conv runtime loop loops).1 other = loops other := by
  obtain ⟨hok, hstill, hdate⟩ := discover_briefed conv hbriefed h hlistening
  unfold Integration.run
  dsimp only
  refine ⟨hok, ?_, fun other => ?_, fun other hne => Function.update_of_ne hne _ _⟩
  · rw [Function.update_self]
    exact hdate
  · by_cases hsame : other = loop
    · rw [hsame, Function.update_self, hstill, hlistening]
    · rw [Function.update_of_ne hsame]

/-- **After a notification every loop that was called is up to date.** -/
theorem notify_briefed (hbriefed : Briefed site runtime) : ∀ (order : List Loop) {loops : Loop → LoopState},
    (∀ loop, Waiting site runtime loop (loops loop)) →
    (∀ loop, (Integration.notify conv runtime order loops loop).listening = (loops loop).listening)
      ∧ ∀ loop, (loop ∈ order ∨ Furnished site runtime loop (loops loop)) →
        Furnished site runtime loop (Integration.notify conv runtime order loops loop)
  | [], _, _ => ⟨fun _ => rfl, fun _ h => h.resolve_left List.not_mem_nil⟩
  | first :: rest, loops, h => by
      unfold Integration.notify
      by_cases hlistening : (loops first).listening = true
      · rw [if_pos hlistening]
        obtain ⟨hok, hdate, hsame, hothers⟩ := run_briefed conv hbriefed (h first) hlistening
        cases hrun : Integration.run conv runtime first loops with
        | mk after error =>
            rw [hrun] at hok hdate hsame hothers
            cases hok
            dsimp only at hdate hsame hothers ⊢
            have hwaiting : ∀ loop, Waiting site runtime loop (after loop) := by
              intro loop
              by_cases heq : loop = first
              · rw [heq]
                exact hdate.toWaiting
              · rw [hothers loop heq]
                exact h loop
            obtain ⟨hstill, hrest⟩ := notify_briefed hbriefed rest hwaiting
            refine ⟨fun loop => (hstill loop).trans (hsame loop), fun loop hloop => hrest loop ?_⟩
            by_cases heq : loop = first
            · rw [heq]
              exact Or.inr hdate
            · rw [hothers loop heq]
              exact hloop.imp_left fun hmem => (List.mem_cons.mp hmem).resolve_left heq
      · rw [if_neg hlistening]
        obtain ⟨hstill, hrest⟩ := notify_briefed hbriefed rest h
        refine ⟨hstill, fun loop hloop => hrest loop ?_⟩
        rcases hloop with hmem | hdate
        · rcases List.mem_cons.mp hmem with rfl | hmem
          · exact Or.inr ((h loop).furnished (Bool.eq_false_iff.mpr hlistening))
          · exact Or.inl hmem
        · exact Or.inr hdate

/-! ## Setting up -/

/-- A platform that is set up listens with its loops, and only the pattern has one. -/
def Coupled (loops : Loop → LoopState) : Prop :=
  ∀ platform, (loops (.devices platform)).listening
    = ((loops (.groups platform)).listening && decide (platform ≠ .select))

theorem coupled_fresh : Coupled (fun _ => {}) := fun _ => rfl

theorem setUpLoop_briefed (loop : Loop) (hbriefed : Briefed site runtime)
    (h : ∀ loop, Furnished site runtime loop (loops loop)) :
    (Integration.setUpLoop conv runtime loop loops).2 = none
      ∧ (∀ other, Furnished site runtime other
        ((Integration.setUpLoop conv runtime loop loops).1 other))
      ∧ ∀ other, ((Integration.setUpLoop conv runtime loop loops).1 other).listening
        = (decide (other = loop) || (loops other).listening) := by
  have hself : (Function.update loops loop { loops loop with listening := true } loop).listening
      = true := by
    rw [Function.update_self]
  have hwaiting : Waiting site runtime loop
      (Function.update loops loop { loops loop with listening := true } loop) := by
    rw [Function.update_self]
    exact ⟨(h loop).settled, fun hor => (h loop).before (Or.inl (hor.resolve_right Bool.true_eq_false.mp))⟩
  obtain ⟨hok, hdate, hsame, hothers⟩ := run_briefed conv hbriefed hwaiting hself
  refine ⟨hok, fun other => ?_, fun other => (hsame other).trans ?_⟩
  · by_cases heq : other = loop
    · rw [heq]
      exact hdate
    · unfold Integration.setUpLoop
      rw [hothers other heq, Function.update_of_ne heq]
      exact h other
  · by_cases heq : other = loop
    · rw [heq, hself, decide_eq_true rfl, Bool.true_or]
    · rw [Function.update_of_ne heq, decide_eq_false heq, Bool.false_or]

/-- **Setting a platform up leaves every loop up to date.** -/
theorem setUp_briefed (platform : Platform) (entry : Integration)
    (hbriefed : Briefed site entry.runtime)
    (h : ∀ loop, Furnished site entry.runtime loop (entry.loops loop)) (hcoupled : Coupled entry.loops) :
    (∀ loop, Furnished site entry.runtime loop ((entry.setUp conv platform).loops loop))
      ∧ Coupled (entry.setUp conv platform).loops := by
  unfold Integration.setUp
  split
  · exact ⟨h, hcoupled⟩
  obtain ⟨hok, hgroups, hlistening⟩ :=
    setUpLoop_briefed conv (.groups platform) hbriefed h
  obtain ⟨_, hdevices, hlistening'⟩ :=
    setUpLoop_briefed conv (.devices platform) hbriefed hgroups
  dsimp only
  rw [hok]
  by_cases hselect : platform = .select
  · rw [if_pos (Or.inr hselect)]
    refine ⟨hgroups, fun other => ?_⟩
    rw [hlistening, hlistening, hcoupled other]
    by_cases heq : other = .select
    · simp [heq, hselect]
    · simp [heq, hselect]
  · rw [if_neg (by simp [hselect])]
    refine ⟨hdevices, fun other => ?_⟩
    rw [hlistening', hlistening', hlistening, hlistening, hcoupled other]
    by_cases heq : other = platform
    · simp [heq, hselect]
    · simp [heq]

/-! ## Runs -/

theorem absorb_entryId {stamps : Timestamps} {daemon : InstanceConfig} {cfg : AppConfig}
    (payload : Payload) : (absorb stamps daemon cfg runtime payload).entryId = runtime.entryId := by
  cases payload with
  | availability | systemConfig => rfl
  | message body => cases body <;> rfl

/-- A configuration is never given up. -/
theorem absorb_config (payload : Payload) :
    (absorb site.stamps site.daemon site.cfg runtime payload).systemConfig = runtime.systemConfig
      ∨ (absorb site.stamps site.daemon site.cfg runtime payload).systemConfig
        = Object.of (systemConfig site.daemon site.cfg).json := by
  cases payload with
  | availability => exact Or.inl rfl
  | systemConfig => exact Or.inr rfl
  | message body => cases body <;> exact Or.inl rfl

theorem Briefed.absorb (h : Briefed site runtime) (payload : Payload) :
    Briefed site (absorb site.stamps site.daemon site.cfg runtime payload) where
  entry := (absorb_entryId payload).trans h.entry
  config := by
    rcases absorb_config payload with hsame | hset
    · rw [hsame]
      exact h.config
    · exact Or.inr hset

theorem Waiting.absorb {state : LoopState} (h : Waiting site runtime loop state) (payload : Payload) :
    Waiting site (JebaoFlow.absorb site.stamps site.daemon site.cfg runtime payload) loop state where
  settled := h.settled
  before hor := h.before (hor.imp_left fun hnone => by
    rcases absorb_config payload with hsame | hset
    · rw [← hsame, hnone]
    · rw [hset] at hnone
      cases hnone)

namespace Dashboard

variable {d : Dashboard site}

/-- Nothing but a delivery and a reload touches the entry. -/
theorem step_entry (d : Dashboard site) (order : List Loop) (event : Deployment.Event) :
    (∃ topic, event = .deliver topic) ∨ event = .reload
      ∨ (d.deployment.step event).home.state = d.deployment.home.state
        ∧ d.loopsAfter conv order event = d.loops := by
  cases event with
  | deliver topic => exact Or.inl ⟨topic, rfl⟩
  | reload => exact Or.inr (Or.inl rfl)
  | daemon event =>
      refine Or.inr (Or.inr ⟨?_, rfl⟩)
      rcases d.deployment.step_daemon event with heq | ⟨_, _, _, _, _, _, _, heq⟩
      · rw [heq]
      · rw [heq]
        rfl
  | restart clk =>
      refine Or.inr (Or.inr ⟨?_, rfl⟩)
      unfold Deployment.step
      dsimp only
      split <;> rfl
  | will | subscribe | lose => exact Or.inr (Or.inr ⟨rfl, rfl⟩)

/-- Nothing arrives, or the entry absorbs what the daemon published. -/
theorem deliver_arriving (hinv : d.deployment.Inv) (topic : String) :
    d.arriving topic = none ∧ d.deployment.step (.deliver topic) = d.deployment
      ∨ ∃ t, Genuine site.topics t
        ∧ d.arriving topic = some {
          topic := t.topic, payload := t.payload.wire site.stamps site.daemon site.cfg }
        ∧ (d.deployment.step (.deliver topic)).home.state.1
          = absorb site.stamps site.daemon site.cfg d.deployment.home.state.1 t.payload := by
  unfold arriving
  cases htaken : d.deployment.home.session.bind (Broker.take topic) with
  | none =>
      refine Or.inl ⟨rfl, ?_⟩
      unfold Deployment.step Broker.Subscriber.deliver
      dsimp only
      rw [htaken]
  | some taken =>
      obtain ⟨note, rest⟩ := taken
      obtain ⟨inbox, hinbox, htake⟩ := Option.bind_eq_some_iff.mp htaken
      have hnote : note ∈ inbox := ((Broker.take_eq_some htake).2.2.2 note).mpr (Or.inl rfl)
      obtain ⟨t, ht, rfl⟩ :=
        List.mem_map.mp (hinv.home.within inbox hinbox note hnote)
      have hgenuine := hinv.daemon.honest.published t ht
      refine Or.inr ⟨t, hgenuine, rfl, ?_⟩
      rw [← receive_note _ hgenuine]
      unfold Deployment.step Broker.Subscriber.deliver
      dsimp only
      rw [htaken]

structure Inv (d : Dashboard site) : Prop where
  deployment : d.deployment.Inv
  entry : d.deployment.home.state.1.entryId = site.entryId
  furnished : ∀ loop, Furnished site d.deployment.home.state.1 loop (d.loops loop)
  coupled : Coupled d.loops

theorem Inv.briefed (h : d.Inv) : Briefed site d.deployment.home.state.1 :=
  ⟨h.entry, h.deployment.home.backed.config⟩

/-- Every listener gets its turn. -/
def Event.Thorough : Event → Prop
  | .deployment _ order => ∀ loop, loop ∈ order
  | .setUp _ => True

/-- A notification of what was absorbed brings every loop up to date. -/
theorem receive_furnished (h : d.Inv) {order : List Loop} (horder : ∀ loop, loop ∈ order)
    {t : Transmission} (hgenuine : Genuine site.topics t) :
    let after := (d.entry.receive conv order {
      topic := t.topic, payload := t.payload.wire site.stamps site.daemon site.cfg }).loops
    (∀ loop, Furnished site
        (absorb site.stamps site.daemon site.cfg d.deployment.home.state.1 t.payload) loop (after loop))
      ∧ Coupled after := by
  unfold Integration.receive entry
  dsimp only
  rw [notified_genuine site.topics_ok d.deployment.home.state.2 hgenuine]
  by_cases hheard : t.payload.kind.handler.isSome = true
  · rw [if_pos hheard]
    obtain ⟨hlistening, hdate⟩ := notify_briefed conv (h.briefed.absorb t.payload) order
      (fun loop => (h.furnished loop).toWaiting.absorb t.payload)
    refine ⟨fun loop => hdate loop (Or.inl (horder loop)), fun platform => ?_⟩
    show (Integration.notify conv _ order d.loops _).listening
      = ((Integration.notify conv _ order d.loops _).listening && _)
    rw [hlistening, hlistening]
    exact h.coupled platform
  · rw [if_neg hheard, absorb_unheard (Option.not_isSome_iff_eq_none.mp hheard)]
    exact ⟨h.furnished, h.coupled⟩

/-- **Every step leaves every loop up to date.** -/
theorem inv_step (event : Event) (hevent : event.Thorough) (h : d.Inv) :
    (d.step conv event).Inv := by
  cases event with
  | setUp platform =>
      obtain ⟨hdate, hcoupled⟩ := setUp_briefed conv platform d.entry h.briefed
        h.furnished h.coupled
      exact ⟨h.deployment, h.entry, hdate, hcoupled⟩
  | deployment event order =>
      have hinv := Deployment.inv_step d.deployment event h.deployment
      rcases d.step_entry conv order event with ⟨topic, rfl⟩ | rfl | ⟨hstate, hloops⟩
      · unfold step loopsAfter
        dsimp only
        rcases deliver_arriving h.deployment topic with ⟨hnone, heq⟩ | ⟨t, hgenuine, hsome, hstate⟩
        · rw [hnone, heq]
          exact ⟨h.deployment, h.entry, h.furnished, h.coupled⟩
        · obtain ⟨hdate, hcoupled⟩ := receive_furnished conv h hevent hgenuine
          rw [hsome]
          refine ⟨hinv, ?_, ?_, hcoupled⟩
          · rw [hstate, absorb_entryId]
            exact h.entry
          · rw [hstate]
            exact hdate
      · exact ⟨hinv, rfl, fun _ => furnished_fresh, coupled_fresh⟩
      · refine ⟨hinv, ?_, ?_, ?_⟩
        · show (d.deployment.step event).home.state.1.entryId = _
          rw [hstate]
          exact h.entry
        · intro loop
          show Furnished site (d.deployment.step event).home.state.1 loop
            (d.loopsAfter conv order event loop)
          rw [hstate, hloops]
          exact h.furnished loop
        · show Coupled (d.loopsAfter conv order event)
          rw [hloops]
          exact h.coupled

/-- A daemon and an entry that have just started. -/
def start (service : ServiceState) : Dashboard site where
  deployment := Deployment.start service

end Dashboard

/--
**Every entity is handed over exactly once.**

Take any run of the deployment in which platforms are set up at any time and the listeners are
called in any order. Since the entry was loaded last, a platform that is not set up yet or has
no configuration has handed over nothing, and any other one the entities of the daemon's groups
and devices, each once and in their order.
-/
theorem dashboard_entities {clk : Clock} {service : ServiceState}
    (hinit : GroupControlService.init site.cfg site.units clk = .ok service) (conv : Conversions)
    (events : List Dashboard.Event) (hthorough : ∀ e ∈ events, e.Thorough) :
    let d := exec (Dashboard.step conv) (Dashboard.start service : Dashboard site) events
    ∀ loop, (d.loops loop).seen.added
      = if (d.loops loop).listening = true ∧ d.deployment.home.state.1.systemConfig ≠ [] then
          site.entities loop
        else [] := by
  intro d loop
  have hstart : (Dashboard.start service : Dashboard site).Inv :=
    ⟨Deployment.inv_start hinit, rfl, fun _ => furnished_fresh, coupled_fresh⟩
  have hinv : d.Inv := (always_of_each (C := fun _ e => Dashboard.Event.Thorough e)
    (fun _ e hthorough h => Dashboard.inv_step conv e hthorough h) (fun _ h => h)
    (each_of_forall hthorough) hstart).last
  have hloop := hinv.furnished loop
  split
  · rename_i hready
    exact hloop.after hready.2 hready.1
  · rename_i hnot
    have hseen : (d.loops loop).seen = {} := by
      refine hloop.before ?_
      rcases Bool.eq_false_or_eq_true (d.loops loop).listening with htrue | hfalse
      · exact Or.inl (not_not.mp fun hne => hnot ⟨htrue, hne⟩)
      · exact Or.inr hfalse
    rw [hseen]

/-- The listeners, one platform after the other. -/
def platformOrder : List Loop :=
  [Platform.binarySensor, .button, .number, .select, .sensor, .switch].flatMap
    (fun platform => [.groups platform, .devices platform])

theorem mem_platformOrder : ∀ loop, loop ∈ platformOrder
  | .groups platform => by cases platform <;> decide
  | .devices platform => by cases platform <;> decide

/-- The numbers are set up, and then the configuration arrives, twice. -/
def numbersRun : List Dashboard.Event :=
  (tankRun []).map (.deployment · platformOrder) ++ [.setUp .number,
    .deployment (.deliver "flow/system/config") platformOrder,
    .deployment (.deliver "flow/system/config") platformOrder]

/-- No text reads as a float. -/
def plainConversions : Conversions where
  str _ := []
  float _ := .error (.valueError "could not convert string to float")
  repr _ := ""

theorem dashboard_entities_reefTank :
    ((exec (Dashboard.step plainConversions) (Dashboard.start
        (startState reefTank steadyUnits (fun _ => 0)) : Dashboard (tankSite reefTank))
      numbersRun).loops (.groups .number)).seen.added
      = (tankSite reefTank).entities (.groups .number) := by
  have hinit := @startState_eq reefTank steadyUnits (fun _ => 0) (by decide +kernel)
  have hthorough : ∀ e ∈ numbersRun, e.Thorough := by
    intro e he
    rcases List.mem_append.mp he with hrun | hlast
    · obtain ⟨event, _, rfl⟩ := List.mem_map.mp hrun
      exact mem_platformOrder
    · simp only [List.mem_cons, List.not_mem_nil, or_false] at hlast
      rcases hlast with rfl | rfl | rfl
      · trivial
      · exact mem_platformOrder
      · exact mem_platformOrder
  rw [@dashboard_entities (tankSite reefTank) _ _ hinit plainConversions numbersRun hthorough,
    if_pos]
  exact ⟨by decide +kernel, List.isEmpty_eq_false_iff.mp (by decide +kernel)⟩

end JebaoFlow
