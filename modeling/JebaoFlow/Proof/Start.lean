import JebaoFlow.Proof.Reachable

/-!
# The state a service starts in

`GroupControlService(config)` computes one record per group and device and raises
when a configured pattern cannot be calculated. When it returns, the invariant of
the service holds and the desired fields are the configured ones.
-/

namespace JebaoFlow

open PyFloat

variable {cfg : AppConfig} {units : UnitSource}

/-! ## What the constructor writes -/

/-- The desired fields of a group record as the configuration gives them. -/
structure Configured (cfg : AppConfig) (g : GroupConfig) (state : GroupStatePayload) : Prop where
  status : state.status = if cfg.runtime.mode = .observer then .starting
    else if g.enabled then .running else .stopped
  enabled : state.enabled = g.enabled
  pattern : state.pattern = g.default.pattern
  power : state.power = g.default.power
  minPower : state.minPower = g.default.minPower
  maxPower : state.maxPower = g.default.maxPower
  periodSeconds : state.periodSeconds.val = g.default.periodSeconds

/-- The runtime the constructor calculates a group's first targets from. -/
def startRuntime (cfg : AppConfig) (g : GroupConfig) : GroupRuntime where
  state := if cfg.runtime.mode = .observer then .starting
    else if g.enabled then .running else .stopped
  enabled := some g.enabled
  pattern := some (targetPattern cfg g.default.pattern)
  power := some g.default.power
  minPower := some g.default.minPower
  maxPower := some g.default.maxPower
  periodSeconds := some g.default.periodSeconds
  startedAt := PyFloat.fin 0

/-- The first targets of a group, at one reading of the clock. -/
def startTargets (cfg : AppConfig) (units : UnitSource) (now : ℚ) (g : GroupConfig) :
    Except PyError (Dict String DeviceTarget) :=
  PatternCalculator.calculate units (PyFloat.fin now) g (startRuntime cfg g)

/-- The desired fields of a device record: its first group's, or off when it has none. -/
def StartsWith (cfg : AppConfig) (units : UnitSource) (clk : Clock) (d : DeviceConfig)
    (state : DeviceStatePayload) : Prop :=
  match cfg.groupsOf d.id with
  | [] => state.enabled = false ∧ state.power = d.limits.minPower
      ∧ state.controlMode = .standalone
  | g :: _ => state.enabled = g.enabled ∧ state.controlMode = .group
      ∧ ∃ i targets target, cfg.groups[i]? = some g
        ∧ startTargets cfg units (clk i) g = .ok targets
        ∧ targets.get? d.id = some target ∧ state.power = target.power

/-- Everything there is to know about a freshly constructed service. -/
structure Started (cfg : AppConfig) (units : UnitSource) (clk : Clock) (s : ServiceState) :
    Prop where
  inv : ServiceInv cfg s
  group : ∀ g ∈ cfg.groups, ∀ state, s.states.get? g.id = some state → Configured cfg g state
    ∧ ∃ i, calculateMembers cfg units (clk i) s.deviceStates state = .ok state.members
  device : ∀ d ∈ cfg.devices, ∀ state, s.deviceStates.get? d.id = some state →
    StartsWith cfg units clk d state
  results : s.results = Dict.empty
  deviceResults : s.deviceResults = Dict.empty
  unseen : ∀ d ∈ cfg.devices, ∀ state, s.deviceStates.get? d.id = some state →
    state.lastSeenAt = none ∧ state.online = none

/-- The state after the constructor, for configurations that start. -/
def startState (cfg : AppConfig) (units : UnitSource) (clk : Clock) : ServiceState :=
  match GroupControlService.init cfg units clk with
  | .ok s => s
  | .error _ => ⟨Dict.empty, Dict.empty, Dict.empty, Dict.empty, ∅, ∅, Dict.empty, false⟩

/-- Whether the constructor returns. -/
def starts (cfg : AppConfig) (units : UnitSource) (clk : Clock) : Bool :=
  match GroupControlService.init cfg units clk with
  | .ok _ => true
  | .error _ => false

theorem startState_eq {clk : Clock} (h : starts cfg units clk = true) :
    GroupControlService.init cfg units clk = .ok (startState cfg units clk) := by
  unfold starts at h
  unfold startState
  cases hinit : GroupControlService.init cfg units clk with
  | ok s => rfl
  | error e => rw [hinit] at h; exact absurd h Bool.false_ne_true

theorem reachable_startState {clk : Clock} (h : starts cfg units clk = true) (ops : List ServiceOp) :
    Reachable cfg units (Run.exec (serviceStep cfg units) (startState cfg units clk) ops) :=
  ⟨clk, _, ops, startState_eq h, rfl⟩

/-! ## Dictionaries built in a comprehension -/

theorem buildAll_ok {α β : Type} {key : α → String} {build : ℕ → α → Except PyError β} :
    ∀ {l : List α} {i : ℕ} {d d' : Dict String β}, buildAll key build i l d = .ok d' →
    (l.map key).Nodup →
    (∀ k, k ∉ l.map key → d'.get? k = d.get? k)
      ∧ ∀ x ∈ l, ∃ j b, l[j]? = some x ∧ build (i + j) x = .ok b ∧ d'.get? (key x) = some b := by
  intro l
  induction l with
  | nil =>
      intro i d d' h _
      cases h
      exact ⟨fun _ _ => rfl, fun x hx => absurd hx List.not_mem_nil⟩
  | cons x xs ih =>
      intro i d d' h hnd
      rw [List.map_cons, List.nodup_cons] at hnd
      rw [buildAll] at h
      cases hb : build i x with
      | error e => rw [hb] at h; cases h
      | ok b =>
          rw [hb] at h
          obtain ⟨hkeep, hall⟩ := ih h hnd.2
          refine ⟨?_, ?_⟩
          · intro k hk
            rw [List.map_cons, List.mem_cons, not_or] at hk
            rw [hkeep k hk.2, Dict.get?_set_ne _ _ (Ne.symm hk.1)]
          · intro y hy
            rcases List.mem_cons.mp hy with rfl | htl
            · refine ⟨0, b, rfl, hb, ?_⟩
              rw [hkeep (key y) hnd.1, Dict.get?_set_self]
            · obtain ⟨j, b', hj, hb', hget⟩ := hall y htl
              refine ⟨j + 1, b', hj, ?_, hget⟩
              rw [show i + (j + 1) = i + 1 + j by omega]
              exact hb'

theorem forEach_map {α β : Type} (f : α → β)
    (body : ℕ → β → ServiceState → Except PyError Unit × ServiceState) :
    ∀ (l : List α) (i : ℕ) (s : ServiceState),
      forEach (fun i x s => body i (f x) s) i l s = forEach body i (l.map f) s := by
  intro l
  induction l with
  | nil => intro i s; rfl
  | cons x xs ih =>
      intro i s
      rw [List.map_cons, forEach, forEach]
      cases hb : body i (f x) s with
      | mk r s' =>
          cases r with
          | error e => rfl
          | ok u => exact ih (i + 1) s'

/-! ## Group records -/

theorem initialPayload_ok {g : GroupConfig} {locked : Bool} {state : GroupStatePayload}
    (h : initialPayload cfg g locked = .ok state) :
    Configured cfg g state ∧ state.groupId = g.id := by
  unfold initialPayload at h
  split at h
  · split at h
    · cases h
      exact ⟨⟨rfl, rfl, rfl, rfl, rfl, rfl, rfl⟩, rfl⟩
    · cases h
  · cases h

/-- Whatever the mode, a configured pattern is one that can be calculated. -/
theorem Configured.supported {g : GroupConfig} {state : GroupStatePayload}
    (h : Configured cfg g state) (hg : g ∈ cfg.groups) :
    targetPattern cfg state.pattern ∈ supportedPatterns := by
  cases hm : cfg.runtime.mode with
  | observer => exact targetPattern_observer hm _
  | control =>
      rw [targetPattern_control hm, h.pattern]
      exact cfg.patterns_supported hm g hg

theorem Configured.range {g : GroupConfig} {state : GroupStatePayload} (h : Configured cfg g state) :
    state.minPower.val ≤ state.maxPower.val := by
  rw [h.minPower, h.maxPower]
  exact g.default.range

theorem Configured.targets {g : GroupConfig} {state : GroupStatePayload}
    (h : Configured cfg g state) (hg : g ∈ cfg.groups) (hid : state.groupId = g.id) (now : ℚ) :
    calculateTargets cfg units now state = startTargets cfg units now g := by
  have hruntime : runtimeOf cfg state = startRuntime cfg g := by
    unfold runtimeOf startRuntime
    rw [h.status, h.enabled, h.pattern, h.power, h.minPower, h.maxPower, h.periodSeconds]
  rw [calculateTargets_eq hg hid h.range, hruntime]
  rfl

theorem initialState_ok {now : ℚ} {g : GroupConfig} {state : GroupStatePayload}
    (hg : g ∈ cfg.groups) (h : initialState cfg units now g = .ok state) :
    Configured cfg g state ∧ GroupInv cfg g state
      ∧ calculateMembers cfg units now Dict.empty state = .ok state.members := by
  unfold initialState at h
  obtain ⟨locked, _, h⟩ := PyError.bind_eq_ok h
  obtain ⟨payload, hpayload, h⟩ := PyError.bind_eq_ok h
  obtain ⟨members, hmembers, h⟩ := PyError.bind_eq_ok h
  cases h
  obtain ⟨hconf, hid⟩ := initialPayload_ok hpayload
  obtain ⟨_, members', _, _, hmembers', hmem⟩ := calculateMembers_ok units hg hid hconf.range
    (hconf.supported hg) now Dict.empty
  rw [hmembers] at hmembers'
  cases hmembers'
  exact ⟨⟨hconf.status, hconf.enabled, hconf.pattern, hconf.power, hconf.minPower, hconf.maxPower,
      hconf.periodSeconds⟩,
    ⟨hg, hid, hconf.range, hconf.supported hg, hmem.keys⟩, hmembers⟩

/-! ## Device records -/

/-- A device without overrides yet shows its group's own target. -/
theorem MembersFor.start {g : GroupConfig} {targets : Dict String DeviceTarget}
    {members : Dict String GroupMemberState} (h : MembersFor g Dict.empty targets members)
    {did : String} {view : GroupMemberState} (hdid : did ∈ g.deviceIds)
    (hview : members.get? did = some view) :
    ∃ target, targets.get? did = some target ∧ view.targetPower = target.power := by
  obtain ⟨m, hm, rfl⟩ := List.mem_map.mp hdid
  obtain ⟨name, target, htarget, hview'⟩ := h.member m hm
  rw [hview] at hview'
  cases hview'
  exact ⟨target, htarget, (memberView_group _ _ _ (fun d hd => by cases hd)).2.2⟩

theorem initialDeviceState_ok {states : Dict String GroupStatePayload} {clk : Clock}
    {d : DeviceConfig} {state : DeviceStatePayload} (hd : d ∈ cfg.devices)
    (hstates : ∀ g ∈ cfg.groups, ∃ i record, cfg.groups[i]? = some g
      ∧ initialState cfg units (clk i) g = .ok record ∧ states.get? g.id = some record)
    (h : initialDeviceState cfg states d = .ok state) :
    DeviceInv cfg d state ∧ StartsWith cfg units clk d state
      ∧ state.lastSeenAt = none ∧ state.online = none := by
  unfold initialDeviceState at h
  obtain ⟨output, houtput, h⟩ := PyError.bind_eq_ok h
  cases h
  unfold StartsWith
  cases hgroups : cfg.groupsOf d.id with
  | nil =>
      rw [hgroups] at houtput
      cases houtput
      exact ⟨⟨hd, rfl, by rw [hgroups], fun _ => rfl, fun _ => rfl⟩, ⟨rfl, rfl, rfl⟩, rfl, rfl⟩
  | cons g rest =>
      obtain ⟨hg, hdid⟩ := AppConfig.mem_groupsOf.mp (hgroups ▸ List.mem_cons_self ..)
      obtain ⟨i, record, hi, hrecord, hget⟩ := hstates g hg
      obtain ⟨hconf, hinv, hmembers⟩ := initialState_ok hg hrecord
      obtain ⟨targets, htargets, _, hmem⟩ := hinv.members_of_ok hmembers
      rw [hgroups, List.map_cons, initialOutput, hget] at houtput
      dsimp only at houtput
      cases hview : record.members.get? d.id with
      | none => rw [hview] at houtput; cases houtput
      | some view =>
          rw [hview] at houtput
          cases houtput
          obtain ⟨target, htarget, hpower⟩ := hmem.start hdid hview
          have hne : (g :: rest).map GroupConfig.id ≠ [] := List.cons_ne_nil _ _
          refine ⟨⟨hd, rfl, by rw [hgroups], fun hc => ?_, fun hc => absurd hc hne⟩,
            ⟨hconf.enabled, rfl, i, targets, target, hi, ?_, htarget, hpower⟩, rfl, rfl⟩
          · exact absurd hc (fun hc => DeviceControlMode.noConfusion hc)
          · rw [← hconf.targets hg hinv.groupId, htargets]

/-! ## The constructor -/

/-- The closing loop of the constructor goes through on records that were computed. -/
theorem closingLoop_ok {clk : Clock} {s : ServiceState}
    (hrecord : ∀ g ∈ cfg.groups, ∃ now record, initialState cfg units now g = .ok record
      ∧ s.states.get? g.id = some record) :
    ∃ final, forEach (fun i group s => refreshGroupMembers cfg units (clk i) group.id false s)
        cfg.groups.length cfg.groups s = (.ok (), { s with states := final })
      ∧ Refreshed cfg units clk (refreshedGroup false) (cfg.groups.map GroupConfig.id)
        s.deviceStates s.states final := by
  obtain ⟨final, hloop, href⟩ := refreshLoop_ok units clk (refreshedGroup false)
    (cfg.groups.map GroupConfig.id) cfg.groups.length s cfg.group_ids_unique
    (fun gid hgid => by
      obtain ⟨g, hg, hid⟩ := List.mem_map.mp hgid
      obtain ⟨_, record, hrec, hget⟩ := hrecord g hg
      exact ⟨g, record, hid ▸ hget, (initialState_ok hg hrec).2.1⟩)
  refine ⟨final, ?_, href⟩
  rw [forEach_map GroupConfig.id
    (fun i gid s => refreshGroupMembers cfg units (clk i) gid false s)]
  exact hloop

/-- **A service that starts satisfies its invariant and has the configured desired state.** -/
theorem init_started {clk : Clock} {s : ServiceState}
    (h : GroupControlService.init cfg units clk = .ok s) : Started cfg units clk s := by
  unfold GroupControlService.init at h
  obtain ⟨states, hstates, h⟩ := PyError.bind_eq_ok h
  obtain ⟨deviceStates, hdevices, h⟩ := PyError.bind_eq_ok h
  -- both comprehensions build exactly one record for each configured item
  obtain ⟨hgnone, hgroup⟩ := buildAll_ok hstates cfg.group_ids_unique
  obtain ⟨hdnone, hdevice⟩ := buildAll_ok hdevices cfg.device_ids_unique
  have hrecord : ∀ g ∈ cfg.groups, ∃ i record, cfg.groups[i]? = some g
      ∧ initialState cfg units (clk i) g = .ok record ∧ states.get? g.id = some record := by
    intro g hg
    obtain ⟨i, record, hi, hrec, hget⟩ := hgroup g hg
    rw [Nat.zero_add] at hrec
    exact ⟨i, record, hi, hrec, hget⟩
  have hout : ∀ d ∈ cfg.devices, ∃ state, deviceStates.get? d.id = some state
      ∧ DeviceInv cfg d state ∧ StartsWith cfg units clk d state
      ∧ state.lastSeenAt = none ∧ state.online = none := by
    intro d hd
    obtain ⟨_, state, _, hstate, hget⟩ := hdevice d hd
    exact ⟨state, hget, initialDeviceState_ok hd hrecord hstate⟩
  -- the closing loop rewrites every group from the finished device records
  obtain ⟨final, hloop, href⟩ := @closingLoop_ok cfg units clk
    { states
      results := Dict.empty
      deviceStates
      deviceResults := Dict.empty
      dirtyDevices := ∅
      dirtyGroups := ∅
      lastPublishedSeenAt := Dict.setAll DeviceConfig.id (fun _ => none) cfg.devices Dict.empty
      updateEvent := false }
    (fun g hg => by
      obtain ⟨i, record, _, hrec, hget⟩ := hrecord g hg
      exact ⟨clk i, record, hrec, hget⟩)
  dsimp only at h
  rw [hloop] at h
  cases h
  have hfinal : ∀ g ∈ cfg.groups, ∃ state, final.get? g.id = some state ∧ Configured cfg g state
      ∧ GroupInv cfg g state
      ∧ ∃ i, calculateMembers cfg units (clk i) deviceStates state = .ok state.members := by
    intro g hg
    obtain ⟨_, record, _, hrec, hget⟩ := hrecord g hg
    obtain ⟨hconf, hinv, _⟩ := initialState_ok hg hrec
    obtain ⟨after, hafter, hrew⟩ := href.rewritten g.id (List.mem_map_of_mem hg) record hget
    have hginv := hrew.groupInv (Or.inl rfl) hinv
    obtain ⟨i, members, hmembers, rfl⟩ := hrew
    exact ⟨_, hafter, ⟨hconf.status, hconf.enabled, hconf.pattern, hconf.power, hconf.minPower,
      hconf.maxPower, hconf.periodSeconds⟩, hginv, i, hmembers⟩
  have hgroupsOnly : ∀ gid, gid ∉ cfg.groups.map GroupConfig.id → final.get? gid = none :=
    fun gid hgid => (href.frame gid hgid).trans (hgnone gid hgid)
  refine ⟨⟨?_, ?_, ?_, ?_, ?_⟩, ?_, ?_, rfl, rfl, ?_⟩
  · intro gid state hstate
    obtain ⟨g, _, hid, _, hinv, _⟩ := Dict.item_of_get? hgroupsOnly hfinal hstate
    exact ⟨g, hid, hinv⟩
  · intro g hg
    obtain ⟨state, hstate, _⟩ := hfinal g hg
    exact ⟨state, hstate⟩
  · intro did state hstate
    obtain ⟨d, _, hid, hinv, _⟩ := Dict.item_of_get? hdnone hout hstate
    exact ⟨d, hid, hinv⟩
  · intro d hd
    obtain ⟨state, hstate, _⟩ := hout d hd
    exact ⟨state, hstate⟩
  · intro d hd
    exact ⟨none, Dict.get?_setAll_of_mem cfg.device_ids_unique hd⟩
  · intro g hg state hstate
    obtain ⟨hconf, _, hmembers⟩ := Dict.holds_of_get? (hfinal g hg) hstate
    exact ⟨hconf, hmembers⟩
  · intro d hd state hstate
    exact (Dict.holds_of_get? (hout d hd) hstate).2.1
  · intro d hd state hstate
    exact (Dict.holds_of_get? (hout d hd) hstate).2.2

theorem forEach_invariant {α : Type} {I : ServiceState → Prop}
    {body : ℕ → α → ServiceState → Except PyError Unit × ServiceState}
    (hbody : ∀ i x s, I s → I (body i x s).2) : ∀ (l : List α) (i : ℕ) {s : ServiceState},
    I s → I (forEach body i l s).2
  | [], _, _, h => h
  | x :: xs, i, s, h => by
      have hnext := hbody i x s h
      rw [forEach]
      split
      · rename_i hb
        rw [hb] at hnext
        exact hnext
      · rename_i hb
        rw [hb] at hnext
        exact forEach_invariant hbody xs (i + 1) hnext

/--
What the constructor gives every record, and rewriting its members keeps, holds of
every record of a fresh service.
-/
theorem init_records {P : GroupConfig → GroupStatePayload → Prop}
    {Q : DeviceConfig → DeviceStatePayload → Prop} {clk : Clock} {s : ServiceState}
    (h : GroupControlService.init cfg units clk = .ok s)
    (hgroup : ∀ g ∈ cfg.groups, ∀ now record, initialState cfg units now g = .ok record → P g record)
    (hmembers : ∀ g record members, P g record → P g (refreshedGroup false record members))
    (hdevice : ∀ d ∈ cfg.devices, ∀ states record,
      initialDeviceState cfg states d = .ok record → Q d record) :
    (∀ g ∈ cfg.groups, ∀ record, s.states.get? g.id = some record → P g record)
      ∧ ∀ d ∈ cfg.devices, ∀ record, s.deviceStates.get? d.id = some record → Q d record := by
  unfold GroupControlService.init at h
  obtain ⟨states, hstates, h⟩ := PyError.bind_eq_ok h
  obtain ⟨deviceStates, hdevices, h⟩ := PyError.bind_eq_ok h
  let I : ServiceState → Prop := fun s =>
    (∀ g ∈ cfg.groups, ∀ record, s.states.get? g.id = some record → P g record)
      ∧ ∀ d ∈ cfg.devices, ∀ record, s.deviceStates.get? d.id = some record → Q d record
  have hbody : ∀ i (group : GroupConfig) s, I s →
      I (refreshGroupMembers cfg units (clk i) group.id false s).2 := by
    intro i group s hI
    unfold refreshGroupMembers refreshWith
    split
    · exact hI
    · rename_i before hbefore
      split
      · exact hI
      · refine ⟨fun g hg record hrecord => ?_, hI.2⟩
        dsimp only at hrecord
        rw [Dict.get?_set] at hrecord
        split at hrecord
        · rename_i heq
          cases hrecord
          exact hmembers g before _ (hI.1 g hg before (heq ▸ hbefore))
        · exact hI.1 g hg record hrecord
  have hbuilt : ∀ s' : ServiceState, s'.states = states → s'.deviceStates = deviceStates → I s' := by
    intro s' hs hd
    refine ⟨fun g hg record hrecord => ?_, fun d hd' record hrecord => ?_⟩
    · obtain ⟨_, b, _, hb, hget⟩ := (buildAll_ok hstates cfg.group_ids_unique).2 g hg
      rw [hs, hget] at hrecord
      cases hrecord
      exact hgroup g hg _ _ hb
    · obtain ⟨_, b, _, hb, hget⟩ := (buildAll_ok hdevices cfg.device_ids_unique).2 d hd'
      rw [hd, hget] at hrecord
      cases hrecord
      exact hdevice d hd' _ _ hb
  dsimp only at h
  split at h
  · cases h
  · rename_i hloop
    cases h
    have hend : _ = s := congrArg Prod.snd hloop
    show I s
    rw [← hend]
    exact forEach_invariant hbody cfg.groups cfg.groups.length (hbuilt _ rfl rfl)

/-- **Every reachable state is well formed.** -/
theorem reachable_inv {s : ServiceState} (h : Reachable cfg units s) : ServiceInv cfg s := by
  obtain ⟨clk, s₀, ops, hinit, rfl⟩ := h
  exact Run.invariant_exec (fun s op => serviceInv_step s op) (init_started hinit).inv

/-- What the constructor establishes and every call preserves holds of every reachable state. -/
theorem Reachable.induct_init {P : ServiceState → Prop} {s : ServiceState}
    (hs : Reachable cfg units s)
    (hstart : ∀ clk s₀, GroupControlService.init cfg units clk = .ok s₀ → P s₀)
    (hstep : ∀ s op, ServiceInv cfg s → P s → P (serviceStep cfg units s op)) : P s := by
  obtain ⟨clk, s₀, ops, hinit, rfl⟩ := hs
  have hboth : ∀ s op, ServiceInv cfg s ∧ P s →
      ServiceInv cfg (serviceStep cfg units s op) ∧ P (serviceStep cfg units s op) :=
    fun s op h => ⟨serviceInv_step s op h.1, hstep s op h.1 h.2⟩
  exact (Run.invariant_exec hboth ⟨(init_started hinit).inv, hstart clk s₀ hinit⟩).2

/-- What holds of every fresh service and survives every call holds of every reachable state. -/
theorem Reachable.induct {P : ServiceState → Prop} {s : ServiceState} (hs : Reachable cfg units s)
    (hstart : ∀ clk s₀, Started cfg units clk s₀ → P s₀)
    (hstep : ∀ s op, ServiceInv cfg s → P s → P (serviceStep cfg units s op)) : P s :=
  hs.induct_init (fun clk s₀ hinit => hstart clk s₀ (init_started hinit)) hstep

/-! ## A small tank -/

/-- Limits below the device's own, and the defaults for the rest. -/
def flowDefaults : GroupDefaults := .within ⟨30, 80, by decide⟩

theorem flow_named : "Flow" ≠ "" := by decide

/-- One group of two wavemakers. -/
def reefFlow : GroupConfig where
  id := "flow"
  name := "Flow"
  members := [.plain "left", .plain "right"]
  default := flowDefaults
  name_ne := flow_named

/-- A control-mode tank with the given groups over the two wavemakers. -/
def tankOf (groups : List GroupConfig) (hunique : (groups.map GroupConfig.id).Nodup)
    (hknown : ∀ g ∈ groups, ∀ m ∈ g.members, m.device ∈ ["left", "right"])
    (hpatterns : ∀ g ∈ groups, g.default.pattern ∈ supportedPatterns) : AppConfig where
  mqtt := { topicPrefix := "flow" }
  runtime := { mode := .control }
  devices := [leftPump, rightPump]
  groups
  devices_ne := by decide
  device_ids_unique := by decide
  group_ids_unique := hunique
  members_known := hknown
  vendor_ids_unique := by decide
  mac_addresses_unique := by decide
  patterns_supported _ := hpatterns

def reefTank : AppConfig := tankOf [reefFlow] (by decide) (by decide) (by decide)

/-- The tank in observer mode. -/
def watchedTank : AppConfig :=
  { reefTank with
    runtime := {}
    patterns_supported := fun hmode => RuntimeMode.noConfusion hmode }

/-- A stop button with nothing else on it. -/
def plainStop : GroupCommand := { requestId := "stop-001", action := some .emergencyStop }

def raisePower : GroupCommand := { requestId := "raise-01", power := some 60 }

/-- A poll of the left pump. -/
def leftPoll : ObserverEvent where
  deviceId := "left"
  status := .online
  occurredAt := 5
  state := some { enabled := true, power := 50, observedAt := 5 }

end JebaoFlow
