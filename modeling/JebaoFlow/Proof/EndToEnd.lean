import JebaoFlow.Proof.Deployed

/-!
# From a poll to the dashboard

What follows of a whole deployment: when everything has come to rest the entry shows what the
daemon has, it shows the daemon as online exactly while that is so, and at no time does it
show anything else than what was published.
-/

namespace JebaoFlow

open HomeAssistant Run

variable {site : Site} {d : Deployment site}

theorem on_log (published : List Transmission) (topic : String) :
    Broker.on topic (published.map site.note)
      = (published.filter (fun t => t.topic = topic)).map site.note :=
  List.filter_map

/-- The last payload of a topic is shown. -/
theorem Deployment.Inv.settled (h : d.Inv) (hsession : d.home.session = some []) (kind : TopicKind)
    {id topic : String} (hkind : kind.IsRetained) (htopic : kind.build site.topics id = .ok topic)
    {payload : Payload} (hlast : lastPayload d.adapter.published topic = some payload) :
    shown kind id d.home.state.1 = some (payload.wire site.stamps site.daemon site.cfg) := by
  obtain ⟨t, ht, rfl⟩ := Option.map_eq_some_iff.mp hlast
  have hnote : (Broker.on topic (d.adapter.published.map site.note)).getLast? = some (site.note t) := by
    rw [on_log, List.getLast?_map, ht]
    rfl
  exact (h.home.follows kind id topic hkind htopic).settled hsession hnote

theorem shown_object {objects : Dict String Object} {id : String} {json : Json}
    (hjson : json = .dict (Object.of json))
    (h : (objects.get? id).map (fun items => WirePayload.json (.dict items)) = some (.json json)) :
    objects.get? id = some (Object.of json) := by
  obtain ⟨items, hitems, heq⟩ := Option.map_eq_some_iff.mp h
  rw [hjson] at heq
  cases heq
  exact hitems

/-! ## At rest -/

/-- The daemon is connected with nothing left to publish, and everything has arrived. -/
structure Deployment.AtRest (d : Deployment site) : Prop where
  quiet : d.adapter.Quiet
  connected : d.severed = false
  arrived : d.home.session = some []

section AtRest

variable (h : d.Inv) (hrest : d.AtRest)

include h hrest

theorem Deployment.Inv.mirrored : ∃ stopping, d.adapter.link = .online stopping .waiting .waiting
    ∧ Mirrored site.cfg site.topics d.adapter.service [] d.adapter.published := by
  obtain ⟨stopping, hlink⟩ := idle_online hrest.quiet.1
  have htracked := h.daemon.tracked hrest.connected
  rw [hlink] at htracked
  exact ⟨stopping, hlink, (htracked [] [] rfl rfl).1⟩

theorem Deployment.Inv.device_settled {device : DeviceConfig} (hdevice : device ∈ site.cfg.devices) :
    ∃ record state, d.adapter.service.deviceStates.get? device.id = some record
      ∧ d.home.state.1.deviceStates.get? device.id = some (Object.of (state.json site.stamps))
      ∧ SameDevice state record := by
  obtain ⟨_, _, hmirrored⟩ := h.mirrored hrest
  have hunmarked : device.id ∉ d.adapter.service.dirtyDevices :=
    hrest.quiet.2.1 ▸ Finset.notMem_empty _
  obtain ⟨state, hpublished, record, hrecord, hsame⟩ :=
    (hmirrored.devices device hdevice).settled hunmarked rfl
  obtain ⟨topic, htopic, hlast⟩ := publishedDevice_eq_some hpublished
  have hshown := h.settled hrest.arrived .deviceState trivial htopic hlast
  exact ⟨record, state, hrecord, shown_object rfl hshown, hsame⟩

theorem Deployment.Inv.group_settled (hmode : site.cfg.runtime.mode = .observer) {group : GroupConfig}
    (hgroup : group ∈ site.cfg.groups) :
    ∃ record state, d.adapter.service.states.get? group.id = some record
      ∧ d.home.state.1.groupStates.get? group.id = some (Object.of (state.json site.stamps))
      ∧ SameReport state record := by
  obtain ⟨_, _, hmirrored⟩ := h.mirrored hrest
  have hunmarked : group.id ∉ d.adapter.service.dirtyGroups :=
    hrest.quiet.2.2 ▸ Finset.notMem_empty _
  obtain ⟨state, hpublished, record, hrecord, hsame⟩ :=
    (hmirrored.groups hmode group hgroup).settled hunmarked rfl
  obtain ⟨topic, htopic, hlast⟩ := publishedGroup_eq_some hpublished
  have hshown := h.settled hrest.arrived .groupState trivial htopic hlast
  exact ⟨record, state, hrecord, shown_object rfl hshown, hsame⟩

theorem Deployment.Inv.config_settled :
    d.home.state.1.systemConfig = Object.of (systemConfig site.daemon site.cfg).json := by
  obtain ⟨stopping, hlink, _⟩ := h.mirrored hrest
  have honline := (h.daemon.announced hrest.connected).online stopping (by rw [hlink]; rfl)
  have hshown := @Deployment.Inv.settled _ _ h hrest.arrived .systemConfig "" _ trivial rfl _
    honline.2.2
  exact Json.dict.inj (WirePayload.json.inj (Option.some.inj hshown))

end AtRest

/-- The word under which the daemon was announced last is the one that is shown. -/
theorem Deployment.Inv.word (h : d.Inv) (hsession : d.home.session = some []) {text : String}
    (hlast : lastPayload d.adapter.published site.topics.availability = some (.availability text)) :
    (if d.home.state.1.online then "online" else "offline") = text := by
  have hshown := @Deployment.Inv.settled _ _ h hsession .availability "" _ trivial rfl _ hlast
  exact ofString_injective (WirePayload.text.inj (Option.some.inj hshown))

/-- A daemon that is connected is shown as online unless it is being stopped. -/
theorem Deployment.Inv.online_settled (h : d.Inv) (hconnected : d.severed = false)
    (hsession : d.home.session = some []) {stopping : Bool}
    {consumer publisher : Activity} (hlink : d.adapter.link = .online stopping consumer publisher) :
    d.home.state.1.online = !stopping := by
  have hword := h.word hsession
    ((h.daemon.announced hconnected).online stopping (by rw [hlink]; rfl)).2.1
  cases honline : d.home.state.1.online <;> cases stopping <;>
    first | rfl | exact absurd hword (by rw [honline]; decide)

/-! ## A tank and its dashboard -/

/-- A moment of the first ten microseconds of 1970. -/
def earlyStamp (zone : String) (t : Datetime) : PyStr :=
  PyStr.ofString (if t = 0 then s!"1970-01-01T00:00:00{zone}"
    else s!"1970-01-01T00:00:00.00000{t}{zone}")

def tankSite (cfg : AppConfig) : Site where
  cfg
  units := steadyUnits
  validator := stopValidator
  daemon := { id := "reef", name := "Reef" }
  stamps := { aware := earlyStamp "Z", naive := earlyStamp "" }
  topics := ⟨stripSlashes "flow"⟩
  topicPrefix := "flow"
  topics_ok := by
    unfold MqttTopics.create
    exact if_neg (by decide)
  entryId := PyStr.ofString "entry"
  entryPrefix := "/flow/"
  same_topics := by decide

/-- The entry subscribes and the daemon has its interrupted run; then what is listed arrives. -/
def tankRun (arrivals : List String) : List Deployment.Event :=
  .subscribe :: interruptedRun.map .daemon ++ arrivals.map .deliver

/-- Where that run ends. -/
def tankAfter (cfg : AppConfig) (arrivals : List String) : Deployment (tankSite cfg) :=
  exec Deployment.step (Deployment.start (startState cfg steadyUnits (fun _ => 0))) (tankRun arrivals)

/-- Everything that run publishes. -/
def allArrivals : List String :=
  ["flow/system/availability", "flow/system/availability", "flow/system/config",
    "flow/system/config", "flow/groups/flow/state", "flow/groups/flow/state",
    "flow/groups/flow/state", "flow/devices/left/state", "flow/devices/left/state",
    "flow/devices/right/state", "flow/requests/stop-001/result"]

theorem session_empty {home : Home site} (h : home.session.map List.length = some 0) :
    home.session = some [] := by
  obtain ⟨inbox, hinbox, hlength⟩ := Option.map_eq_some_iff.mp h
  rw [hinbox, List.length_eq_zero_iff.mp hlength]

/-! ## When everything has arrived -/

/--
**What the dashboard shows is what the daemon has.**

Take any run of the daemon, the broker and the entry: observations, commands, publications,
lost connections, restarts of the daemon, wills, lost sessions and reloads, in any order.
Whenever the daemon is connected with nothing left to publish and everything has arrived, the
entry has for every device the daemon's record, `last_seen_at` and the schedule's device clock
aside, and the daemon's configuration; in observer mode also the report of every group.
-/
theorem home_converges {clk : Clock} {service : ServiceState}
    (hinit : GroupControlService.init site.cfg site.units clk = .ok service)
    (events : List Deployment.Event) :
    let d := exec Deployment.step (Deployment.start service : Deployment site) events
    d.adapter.Quiet → d.severed = false → d.home.session = some [] →
      (∀ device ∈ site.cfg.devices, ∃ record state,
        d.adapter.service.deviceStates.get? device.id = some record
          ∧ d.home.state.1.deviceStates.get? device.id = some (Object.of (state.json site.stamps))
          ∧ SameDevice state record)
      ∧ (site.cfg.runtime.mode = .observer → ∀ group ∈ site.cfg.groups, ∃ record state,
        d.adapter.service.states.get? group.id = some record
          ∧ d.home.state.1.groupStates.get? group.id = some (Object.of (state.json site.stamps))
          ∧ SameReport state record)
      ∧ d.home.state.1.systemConfig = Object.of (systemConfig site.daemon site.cfg).json := by
  intro d hquiet hsevered hsession
  have hinv : d.Inv := Deployment.inv_exec hinit events
  have hrest : d.AtRest := ⟨hquiet, hsevered, hsession⟩
  exact ⟨fun _ hdevice => hinv.device_settled hrest hdevice,
    fun hmode _ hgroup => hinv.group_settled hrest hmode hgroup, hinv.config_settled hrest⟩

/-- Two greetings, two polls and a refused command, all received. -/
theorem home_converges_watchedTank :
    (∃ record state, (tankAfter watchedTank allArrivals).adapter.service.deviceStates.get? "left" = some record
      ∧ (tankAfter watchedTank allArrivals).home.state.1.deviceStates.get? "left"
        = some (Object.of (state.json (tankSite watchedTank).stamps))
      ∧ SameDevice state record)
    ∧ ∃ record state, (tankAfter watchedTank allArrivals).adapter.service.states.get? "flow" = some record
      ∧ (tankAfter watchedTank allArrivals).home.state.1.groupStates.get? "flow"
        = some (Object.of (state.json (tankSite watchedTank).stamps))
      ∧ SameReport state record := by
  have hinit := @startState_eq watchedTank steadyUnits (fun _ => 0) (by decide +kernel)
  obtain ⟨hdevices, hgroups, _⟩ := @home_converges (tankSite watchedTank) _ _ hinit (tankRun allArrivals)
    (by decide +kernel) (by decide +kernel) (session_empty (by decide +kernel))
  exact ⟨hdevices leftPump (List.mem_cons_self ..), hgroups rfl reefFlow (List.mem_cons_self ..)⟩

/--
**The daemon is shown as online exactly while it is.**

Once everything has arrived: offline if the broker announced the will and the daemon has not
greeted since, and also if the daemon was stopped; online if it is connected and goes on.
-/
theorem home_shows_availability {clk : Clock} {service : ServiceState}
    (hinit : GroupControlService.init site.cfg site.units clk = .ok service)
    (events : List Deployment.Event) :
    let d := exec Deployment.step (Deployment.start service : Deployment site) events
    d.home.session = some [] →
      (d.severed = true → d.home.state.1.online = false)
      ∧ (d.severed = false → ∀ stopping consumer publisher,
        d.adapter.link = .online stopping consumer publisher →
          d.home.state.1.online = !stopping) := by
  intro d hsession
  have hinv : d.Inv := Deployment.inv_exec hinit events
  refine ⟨fun hsevered => ?_, fun hsevered _ _ _ hlink => hinv.online_settled hsevered hsession hlink⟩
  have hword := hinv.word hsession (hinv.daemon.gone hsevered)
  cases honline : d.home.state.1.online with
  | false => rfl
  | true => exact absurd hword (by rw [honline]; decide)

/-- The daemon is killed in the end, and its will announced. -/
theorem home_shows_availability_killed :
    (tankAfter watchedTank allArrivals).home.state.1.online = true
      ∧ (exec Deployment.step (tankAfter watchedTank allArrivals)
        [.restart (fun _ => 0), .will, .deliver "flow/system/availability"]).home.state.1.online
          = false := by
  have hinit := @startState_eq watchedTank steadyUnits (fun _ => 0) (by decide +kernel)
  obtain ⟨_, _, hlink⟩ := Link.online_of_phase
    (by decide +kernel : (tankAfter watchedTank allArrivals).adapter.link.phase = .online false)
  have honline := (@home_shows_availability (tankSite watchedTank) _ _ hinit (tankRun allArrivals)
    (session_empty (by decide +kernel))).2 (by decide +kernel) _ _ _ hlink
  have hoffline := (@home_shows_availability (tankSite watchedTank) _ _ hinit
    (tankRun allArrivals ++ [.restart (fun _ => 0), .will, .deliver "flow/system/availability"])
    (session_empty (by decide +kernel))).1 (by decide +kernel)
  rw [exec_append] at hoffline
  exact ⟨honline, hoffline⟩

/-! ## At any time -/

/--
**Nothing is shown that was not published.**

At any time, every state and every result the entry keeps is a message the daemon published
under the topic of the very group, device or request it is kept under, there are at most 128
results, and the configuration is none or the daemon's.
-/
theorem home_shows_published {clk : Clock} {service : ServiceState}
    (hinit : GroupControlService.init site.cfg site.units clk = .ok service)
    (events : List Deployment.Event) :
    let d := exec Deployment.step (Deployment.start service : Deployment site) events
    (∀ id items, d.home.state.1.groupStates.get? id = some items →
        Attested site d.adapter.published .groupState id items)
      ∧ (∀ id items, d.home.state.1.deviceStates.get? id = some items →
        Attested site d.adapter.published .deviceState id items)
      ∧ (∀ id items, d.home.state.1.lastResults.get? id = some items →
        Attested site d.adapter.published .requestResult id items)
      ∧ d.home.state.1.lastResults.entries.length ≤ 128
      ∧ (d.home.state.1.systemConfig = []
        ∨ d.home.state.1.systemConfig = Object.of (systemConfig site.daemon site.cfg).json) := by
  intro d
  obtain ⟨hgroup, hdevice, hresult, hconfig, hbounded⟩ :=
    (Deployment.inv_exec hinit events : d.Inv).home.backed
  exact ⟨hgroup, hdevice, hresult, hbounded, hconfig⟩

/-- The answer to the refused command. -/
theorem home_shows_published_stop : ∃ items,
    (tankAfter watchedTank ["flow/requests/stop-001/result"]).home.state.1.lastResults.get?
        "stop-001" = some items
      ∧ Attested (tankSite watchedTank)
        (tankAfter watchedTank ["flow/requests/stop-001/result"]).adapter.published .requestResult
        "stop-001" items := by
  have hinit := @startState_eq watchedTank steadyUnits (fun _ => 0) (by decide +kernel)
  obtain ⟨items, hitems⟩ := Option.isSome_iff_exists.mp (by decide +kernel :
    ((tankAfter watchedTank ["flow/requests/stop-001/result"]).home.state.1.lastResults.get?
      "stop-001").isSome = true)
  exact ⟨items, hitems, (@home_shows_published (tankSite watchedTank) _ _ hinit
    (tankRun ["flow/requests/stop-001/result"])).2.2.1 _ _ hitems⟩

/-- Without a configuration an entry takes the daemon for one that only observes. -/
theorem observerMode_eq {published : List Transmission} {runtime : LiveRuntime}
    (str : Json → PyStr) (h : Backed site published runtime) :
    runtime.observerMode str = false ↔ runtime.systemConfig ≠ []
      ∧ site.cfg.runtime.mode = .control := by
  rcases h.config with hnone | hsome
  · have hobserver : runtime.observerMode str = true := by
      unfold LiveRuntime.observerMode LiveRuntime.runtimeMode LiveRuntime.configured
      rw [hnone]
      rfl
    simp [hobserver, hnone]
  · have hne : runtime.systemConfig ≠ [] := by
      rw [hsome]
      exact List.cons_ne_nil _ _
    have hfield : Dict.lookupEntries (PyStr.ofString "runtime_mode")
        (Object.of (systemConfig site.daemon site.cfg).json)
          = some (.text site.cfg.runtime.mode.text) := by
      unfold SystemConfigPayload.json Json.object Object.of
      exact lookup_object ..
    have hmode : runtime.runtimeMode str = PyStr.ofString site.cfg.runtime.mode.text := by
      unfold LiveRuntime.runtimeMode LiveRuntime.configured
      rw [hsome, hfield]
      rfl
    unfold LiveRuntime.observerMode
    rw [hmode, decide_eq_false_iff_not, ofString_injective.eq_iff]
    cases site.cfg.runtime.mode <;> simp [hne, RuntimeMode.text]

theorem asyncCommand_ok_iff {runtime : JebaoFlowRuntime} {collection : String} {requestId : PyStr}
    {id : String} {changes : List (PyStr × Json)} :
    (∃ command, runtime.asyncCommand collection requestId id changes = .ok command)
      ↔ runtime.online = true ∧ runtime.observerMode = false := by
  unfold JebaoFlowRuntime.asyncCommand
  cases runtime.observerMode <;> cases runtime.online <;> simp

/--
**A command leaves exactly when the daemon is shown as online and to take commands.**

So an observing daemon is never sent one, nor is any daemon before its configuration arrived.
-/
theorem command_leaves_iff {clk : Clock} {service : ServiceState}
    (hinit : GroupControlService.init site.cfg site.units clk = .ok service)
    (events : List Deployment.Event) (str : Json → PyStr) (requestId : PyStr) (id : String)
    (changes : List (PyStr × Json)) :
    let d := exec Deployment.step (Deployment.start service : Deployment site) events
    ((∃ command, d.home.state.1.asyncGroupCommand str requestId id changes = .ok command)
        ↔ d.home.state.1.online = true ∧ d.home.state.1.systemConfig ≠ []
          ∧ site.cfg.runtime.mode = .control)
      ∧ ((∃ command, d.home.state.1.asyncDeviceCommand str requestId id changes = .ok command)
        ↔ d.home.state.1.online = true ∧ d.home.state.1.systemConfig ≠ []
          ∧ site.cfg.runtime.mode = .control) := by
  intro d
  have hbacked := (Deployment.inv_exec hinit events : d.Inv).home.backed
  have hview : (d.home.state.1.view str).observerMode = d.home.state.1.observerMode str := by
    unfold LiveRuntime.view JebaoFlowRuntime.observerMode
    cases d.home.state.1.observerMode str <;> rfl
  have hiff : ∀ collection,
      (∃ command, (d.home.state.1.view str).asyncCommand collection requestId id changes = .ok command)
        ↔ d.home.state.1.online = true ∧ d.home.state.1.systemConfig ≠ []
          ∧ site.cfg.runtime.mode = .control := by
    intro collection
    rw [asyncCommand_ok_iff, hview, observerMode_eq str hbacked]
    rfl
  exact ⟨hiff "groups", hiff "devices"⟩

/-- A daemon that takes commands, once its word and its configuration have arrived. -/
theorem command_leaves_iff_reefTank :
    ∃ command, (tankAfter reefTank
        ["flow/system/availability", "flow/system/config"]).home.state.1.asyncGroupCommand
          (fun _ => []) [] "flow" [] = .ok command := by
  have hinit := @startState_eq reefTank steadyUnits (fun _ => 0) (by decide +kernel)
  have hshown : (tankAfter reefTank
        ["flow/system/availability", "flow/system/config"]).home.state.1.online = true
      ∧ (tankAfter reefTank
        ["flow/system/availability", "flow/system/config"]).home.state.1.systemConfig.isEmpty
          = false := by decide +kernel
  exact (@command_leaves_iff (tankSite reefTank) _ _ hinit (tankRun _) _ _ _ _).1.mpr
    ⟨hshown.1, List.isEmpty_eq_false_iff.mp hshown.2, rfl⟩

end JebaoFlow
