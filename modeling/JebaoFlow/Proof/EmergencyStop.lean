import JebaoFlow.Proof.Start

/-!
# An emergency stop and the power range

A stop goes through the range check of every other command before its own branch
is reached. The check refuses it on a group that is enabled with a power outside
its limits, and such a group can only come from the configured defaults: every
accepted command leaves an enabled group within its limits.
-/

namespace JebaoFlow

variable {cfg : AppConfig} {units : UnitSource}

/-- The group is stopped and so is every one of its members. -/
structure StoppedByEmergency (g : GroupConfig) (s : ServiceState) : Prop where
  group : ∃ state, s.states.get? g.id = some state
    ∧ state.status = .emergencyStop ∧ state.enabled = false
  device : ∀ did ∈ g.deviceIds, ∃ state, s.deviceStates.get? did = some state
    ∧ state.enabled = false ∧ state.power.val = 0

/-- The group is already in emergency stop. -/
def AlreadyStopped (g : GroupConfig) (s : ServiceState) : Prop :=
  ∃ state, s.states.get? g.id = some state ∧ state.status = .emergencyStop

/-- An enabled record has its power within its own limits. -/
def PowerInRange (state : GroupStatePayload) : Prop :=
  state.enabled = true → state.minPower.val ≤ state.power.val
    ∧ state.power.val ≤ state.maxPower.val

/-- A command that is nothing but an emergency stop. -/
structure IsPlainStop (command : GroupCommand) : Prop where
  action : command.action = some .emergencyStop
  enabled : command.enabled = none
  pattern : command.pattern = none
  power : command.power = none
  minPower : command.minPower = none
  maxPower : command.maxPower = none
  periodSeconds : command.periodSeconds = none
  transitionSeconds : command.transitionSeconds = none

/-! ## What the checks make of a stop -/

theorem admitted_stop_iff {g : GroupConfig} {current : GroupStatePayload} {stop : GroupCommand}
    (hmode : cfg.runtime.mode = .control) (hstop : IsPlainStop stop)
    (hinv : GroupInv cfg g current) :
    Admitted cfg current stop ↔ current.status ≠ .emergencyStop ∧ PowerInRange current := by
  obtain ⟨_, _, _, hpower, hmin, hmax, _⟩ := patched_fields current stop
  rw [hstop.power, Option.getD_none] at hpower
  rw [hstop.minPower, Option.getD_none] at hmin
  rw [hstop.maxPower, Option.getD_none] at hmax
  constructor
  · intro h
    refine ⟨fun hlocked => ?_, fun henabled => ?_⟩
    · have := h.lock hlocked
      rw [hstop.action] at this
      cases this
    · have := h.power (by rw [hstop.enabled]; exact henabled)
      rw [hpower, hmin, hmax] at this
      exact this
  · rintro ⟨hunlocked, hrange⟩
    refine ⟨hmode, ?_, fun hlocked => absurd hlocked hunlocked, ?_, ?_⟩
    · intro p hp
      rw [hstop.pattern] at hp
      cases hp
    · rw [hmin, hmax]
      exact hinv.range
    · intro henabled
      rw [hstop.enabled] at henabled
      rw [hpower, hmin, hmax]
      exact hrange henabled

/-- An accepted stop turns every member off at power zero, overrides included. -/
theorem Accepted.stops {g : GroupConfig} {current : GroupStatePayload} {stop : GroupCommand}
    {clk : Clock} {result : GroupCommandResult} {s s' : ServiceState} (hinv : ServiceInv cfg s)
    (hg : g ∈ cfg.groups) (hpinv : GroupInv cfg g (patched current stop))
    (haction : stop.action = some .emergencyStop)
    (hacc : Accepted cfg units clk g current stop result s s') : StoppedByEmergency g s' := by
  have henabled : (patched current stop).enabled = false := by
    rw [patched_enabled, if_pos haction]
  refine ⟨?_, fun did hdid => ?_⟩
  · obtain ⟨members, hself, _⟩ := hacc.group_self
    refine ⟨_, hself, ?_, henabled⟩
    exact (patched_status current stop).trans (by rw [haction])
  · obtain ⟨m, hm, rfl⟩ := List.mem_map.mp hdid
    obtain ⟨before, hbefore⟩ := hinv.member_present hg hm
    rcases hacc.device_after hbefore with ⟨hnot, _⟩ |
      ⟨m', hm', hid, targets, target, htargets, htarget, hsync⟩
    · exact absurd hdid hnot
    · obtain ⟨targets', htargets', hfor⟩ := hpinv.targets units (clk (syncReading stop))
      rw [htargets] at htargets'
      cases htargets'
      obtain ⟨target', htarget', hdue⟩ := hfor.member m hm
      rw [htarget] at htarget'
      cases htarget'
      rw [afterSync_write (fun _ => stop_forces haction)] at hsync
      refine ⟨_, hsync, henabled, hdue.off ?_⟩
      rw [hdue.enabled_eq, henabled, Bool.false_and]

/-- **One stop in one state takes effect exactly when the range check lets it through.** -/
theorem stop_effective_iff {g : GroupConfig} {s : ServiceState} {clk : Clock} {stop : GroupCommand}
    {current : GroupStatePayload} (hmode : cfg.runtime.mode = .control) (hinv : ServiceInv cfg s)
    (hg : g ∈ cfg.groups) (hstop : IsPlainStop stop)
    (hnew : s.results.get? stop.requestId = none) (hcur : s.states.get? g.id = some current) :
    (AlreadyStopped g s ∨ StoppedByEmergency g (apply cfg units clk g.id stop s).2)
      ↔ (current.status = .emergencyStop ∨ PowerInRange current) := by
  have hginv := hinv.groupInv hg hcur
  by_cases hlocked : current.status = .emergencyStop
  · exact ⟨fun _ => Or.inl hlocked, fun _ => Or.inl ⟨current, hcur, hlocked⟩⟩
  have hadm := admitted_stop_iff hmode hstop hginv
  have hnot : ¬ AlreadyStopped g s := by
    rintro ⟨state, hstate, hst⟩
    rw [hcur] at hstate
    cases hstate
    exact hlocked hst
  have hout := apply_outcome units clk g.id stop hinv
  generalize apply cfg units clk g.id stop s = out at hout
  obtain ⟨r, s'⟩ := out
  constructor
  · rintro (h | h)
    · exact absurd h hnot
    · right
      obtain ⟨⟨state, hstate, hst, _⟩, _⟩ := h
      -- a stopped record was stopped before, or the stop passed the checks
      obtain ⟨before, hbefore, rfl | ⟨_, hpass, _⟩⟩ := hout.group_before hstate
      · exact absurd ⟨state, hbefore, hst⟩ hnot
      · rw [hcur] at hbefore
        cases hbefore
        exact (hadm.mp hpass).2
  · rintro (h | hrange)
    · exact absurd h hlocked
    · right
      have hpass := hadm.mpr ⟨hlocked, hrange⟩
      cases hout with
      | replayed hold => rw [hnew] at hold; cases hold
      | unknown _ hunknown =>
          rw [AppConfig.group?_eq_some_iff.mpr ⟨hg, rfl⟩] at hunknown
          cases hunknown
      | rejected _ _ _ hcur' hreject =>
          rw [hcur] at hcur'
          cases hcur'
          rw [rejection_eq_none_iff.mpr hpass] at hreject
          cases hreject
      | accepted _ hg' hid hcur' _ hacc =>
          rw [hcur] at hcur'
          cases hcur'
          have heq := AppConfig.group_eq hg' hg hid
          subst heq
          exact hacc.stops hinv hg (hpass.groupInv hginv) hstop.action

/-! ## Where a power outside the limits comes from -/

theorem powerInRange_step (s : ServiceState) (op : ServiceOp) (hinv : ServiceInv cfg s)
    (h : ∀ gid state, s.states.get? gid = some state → PowerInRange state) :
    ∀ gid state, (serviceStep cfg units s op).states.get? gid = some state →
      PowerInRange state := by
  refine desired_step ?_ ?_ s op hinv h
  · intro a b hsame hrange
    unfold PowerInRange at hrange ⊢
    rw [hsame.enabled, hsame.power, hsame.minPower, hsame.maxPower]
    exact hrange
  · intro current command hadm _ henabled
    rw [patched_enabled] at henabled
    split at henabled
    · exact absurd henabled Bool.false_ne_true
    · exact hadm.power henabled

theorem powerInRange_reachable {s : ServiceState} (hs : Reachable cfg units s)
    (hconf : ∀ g ∈ cfg.groups, g.enabled = true → g.default.Contains g.default.power.val) :
    ∀ gid state, s.states.get? gid = some state → PowerInRange state := by
  refine hs.induct (fun clk s₀ hstart => ?_) powerInRange_step
  intro gid state hstate henabled
  obtain ⟨g, hid, hginv⟩ := hstart.inv.group gid state hstate
  obtain ⟨hc, _⟩ := hstart.group g hginv.mem state (hid ▸ hstate)
  rw [hc.minPower, hc.maxPower, hc.power]
  exact hconf g hginv.mem (hc.enabled ▸ henabled)

theorem plainStop_isPlainStop : IsPlainStop plainStop := ⟨rfl, rfl, rfl, rfl, rfl, rfl, rfl, rfl⟩

/-- A fresh service refuses a stop where it starts outside its limits. -/
theorem started_inRange {clk : Clock} {s : ServiceState} {g : GroupConfig}
    (hmode : cfg.runtime.mode = .control) (hstart : Started cfg units clk s) (hg : g ∈ cfg.groups)
    (h : AlreadyStopped g s
      ∨ StoppedByEmergency g (apply cfg units clk g.id plainStop s).2) (henabled : g.enabled = true) :
    g.default.Contains g.default.power.val := by
  obtain ⟨current, hcur⟩ := hstart.inv.group_present g hg
  obtain ⟨hc, _⟩ := hstart.group g hg current hcur
  have hnew : s.results.get? plainStop.requestId = none := by
    rw [hstart.results]
    rfl
  rcases (stop_effective_iff hmode hstart.inv hg plainStop_isPlainStop hnew hcur).mp h with
    hstopped | hrange
  · rw [hc.status, hmode, henabled] at hstopped
    exact absurd hstopped (by decide)
  · have := hrange (hc.enabled.trans henabled)
    rw [hc.minPower, hc.maxPower, hc.power] at this
    exact this

/--
**Every emergency stop takes effect exactly when no group starts outside its limits.**

State by state, a stop works precisely on a group that is already stopped,
disabled, or within its own limits; over all reachable states that is the same
as every group that starts enabled having its default power within its default
limits.
-/
theorem emergency_stop_effective_iff (cfg : AppConfig) (units : UnitSource)
    (hmode : cfg.runtime.mode = .control) :
    (∀ s, Reachable cfg units s → ∀ g ∈ cfg.groups, ∀ stop clk, IsPlainStop stop →
      s.results.get? stop.requestId = none → ∃ current, s.states.get? g.id = some current ∧
        ((AlreadyStopped g s ∨ StoppedByEmergency g (apply cfg units clk g.id stop s).2)
          ↔ (current.status = .emergencyStop ∨ PowerInRange current)))
    ∧ ((∃ clk, starts cfg units clk = true) →
      ((∀ s, Reachable cfg units s → ∀ g ∈ cfg.groups, ∀ stop clk, IsPlainStop stop →
          s.results.get? stop.requestId = none →
          AlreadyStopped g s ∨ StoppedByEmergency g (apply cfg units clk g.id stop s).2)
        ↔ ∀ g ∈ cfg.groups, g.enabled = true → g.default.Contains g.default.power.val)) := by
  have hstate : ∀ s, Reachable cfg units s → ∀ g ∈ cfg.groups, ∀ stop clk, IsPlainStop stop →
      s.results.get? stop.requestId = none → ∃ current, s.states.get? g.id = some current ∧
        ((AlreadyStopped g s ∨ StoppedByEmergency g (apply cfg units clk g.id stop s).2)
          ↔ (current.status = .emergencyStop ∨ PowerInRange current)) := by
    intro s hs g hg stop clk hstop hnew
    have hinv := reachable_inv hs
    obtain ⟨current, hcur⟩ := hinv.group_present g hg
    exact ⟨current, hcur, stop_effective_iff hmode hinv hg hstop hnew hcur⟩
  refine ⟨hstate, fun hstarts => ⟨fun hall g hg henabled => ?_, fun hconf => ?_⟩⟩
  · obtain ⟨clk, hclk⟩ := hstarts
    have hstart := init_started (startState_eq hclk)
    refine started_inRange hmode hstart hg ?_ henabled
    refine hall _ (reachable_startState hclk []) g hg plainStop clk plainStop_isPlainStop ?_
    show (startState cfg units clk).results.get? _ = none
    rw [hstart.results]
    rfl
  · intro s hs g hg stop clk hstop hnew
    obtain ⟨current, hcur, hiff⟩ := hstate s hs g hg stop clk hstop hnew
    exact hiff.mpr (Or.inr (powerInRange_reachable hs hconf g.id current hcur))

/-- The stop works in the tank as configured. -/
theorem emergency_stop_effective_iff_reefTank :
    AlreadyStopped reefFlow (startState reefTank steadyUnits (fun _ => 0))
      ∨ StoppedByEmergency reefFlow (apply reefTank steadyUnits (fun _ => 1) "flow" plainStop
        (startState reefTank steadyUnits (fun _ => 0))).2 := by
  have hstart : starts reefTank steadyUnits (fun _ => 0) = true := by decide +kernel
  obtain ⟨_, hall⟩ := emergency_stop_effective_iff reefTank steadyUnits rfl
  refine (hall ⟨_, hstart⟩).mpr ?_ _ (reachable_startState hstart []) reefFlow
    (List.mem_singleton.mpr rfl) plainStop (fun _ => 1) plainStop_isPlainStop (by decide +kernel)
  decide +kernel

/-- The default power with a minimum above it: a valid group configuration. -/
def strongFlow : GroupConfig :=
  { reefFlow with default := .within ⟨60, 80, by decide⟩ }

def strongTank : AppConfig := tankOf [strongFlow] (by decide) (by decide) (by decide)

/-- **A group that starts below its minimum cannot be stopped**: the stop is rejected. -/
theorem emergency_stop_refused_strongTank :
    Reachable strongTank steadyUnits (startState strongTank steadyUnits (fun _ => 0))
      ∧ IsPlainStop plainStop
      ∧ (apply strongTank steadyUnits (fun _ => 1) "flow" plainStop
          (startState strongTank steadyUnits (fun _ => 0))).1
        = .ok { requestId := "stop-001", groupId := "flow", accepted := false, revision := 0
                reason := some "power_outside_active_limits" }
      ∧ ¬ (AlreadyStopped strongFlow (startState strongTank steadyUnits (fun _ => 0))
        ∨ StoppedByEmergency strongFlow (apply strongTank steadyUnits (fun _ => 1) "flow" plainStop
          (startState strongTank steadyUnits (fun _ => 0))).2) := by
  have hstart : starts strongTank steadyUnits (fun _ => 0) = true := by decide +kernel
  have hbefore : ((startState strongTank steadyUnits (fun _ => 0)).states.get? "flow").map (·.status)
      = some .running := by decide +kernel
  have hafter : ((apply strongTank steadyUnits (fun _ => 1) "flow" plainStop
      (startState strongTank steadyUnits (fun _ => 0))).2.states.get? "flow").map (·.status)
      = some .running := by decide +kernel
  refine ⟨reachable_startState hstart [], plainStop_isPlainStop, by decide +kernel, ?_⟩
  rintro (⟨state, hstate, hstop⟩ | ⟨⟨state, hstate, hstop, _⟩, _⟩)
  · rw [show (startState strongTank steadyUnits (fun _ => 0)).states.get? "flow" = some state from
      hstate, Option.map_some, hstop] at hbefore
    cases hbefore
  · rw [show (apply strongTank steadyUnits (fun _ => 1) "flow" plainStop
      (startState strongTank steadyUnits (fun _ => 0))).2.states.get? "flow" = some state from
      hstate, Option.map_some, hstop] at hafter
    cases hafter

end JebaoFlow
