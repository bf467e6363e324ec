import JebaoFlow.Patterns

/-!
# The pattern calculator

`PatternCalculator` and what every caller may rely on: if the limits are in order
and the pattern can number its cycle, there is exactly one target per member, it
is enabled exactly when group and member are, a disabled target is zero and an
enabled one lies within the limits. A pattern that numbers cycles raises on a
period for which the cycle count is not a number.
-/

namespace JebaoFlow

open PyFloat

/-- The kinds with an implementation, as a set. -/
def supportedPatterns : List PatternKind :=
  [.constant, .sync, .antiPhase, .lagoon, .reefCrest, .gyre, .tidalSwell, .nutrientTransport]

def PatternCalculator.calculate (units : UnitSource) (timestamp : PyFloat) (group : GroupConfig)
    (runtime : GroupRuntime) : Except PyError (Dict String DeviceTarget) := do
  let kind := runtime.pattern.getD group.default.pattern
  let pattern ← createPattern units kind
  pattern timestamp group runtime

/-! ## One member -/

/-- What a target says about the group and member it was computed for. -/
structure DeviceTarget.For (member : GroupMember) (limits : PowerLimits) (groupEnabled : Bool)
    (target : DeviceTarget) : Prop where
  enabled_eq : target.enabled = (groupEnabled && member.enabled)
  off : target.enabled = false → target.power.val = 0
  on : target.enabled = true → limits.Contains target.power.val

theorem memberTarget_ok (requested : PyFloat) (member : GroupMember) (limits : PowerLimits)
    (groupEnabled : Bool) :
    ∃ target, memberTarget requested member limits groupEnabled = .ok target
      ∧ target.For member limits groupEnabled := by
  unfold memberTarget
  dsimp only
  cases hen : groupEnabled && member.enabled with
  | false =>
      refine ⟨⟨false, ⟨0, by omega⟩, none, none⟩, ?_, hen.symm, fun _ => rfl, ?_⟩
      · rw [clampEnabledPower_disabled]
        exact DeviceTarget.validate_nat false (Nat.zero_le _)
      · intro h; exact Bool.noConfusion h
  | true =>
      obtain ⟨power, hpower, hmem⟩ := clampEnabledPower_enabled (requested * member.gain) limits
      have hle : power ≤ 100 := le_trans hmem.2 limits.maxPower.property
      refine ⟨⟨true, ⟨power, hle⟩, none, none⟩, ?_, hen.symm, ?_, fun _ => hmem⟩
      · rw [hpower]
        exact DeviceTarget.validate_nat true hle
      · intro h; exact Bool.noConfusion h

/-! ## All members -/

/-- One target per member, each the one the member is due. -/
structure TargetsFor (group : GroupConfig) (limits : PowerLimits) (groupEnabled : Bool)
    (targets : Dict String DeviceTarget) : Prop where
  keys : targets.keys = group.deviceIds
  member : ∀ m ∈ group.members, ∃ target, targets.get? m.device = some target
    ∧ target.For m limits groupEnabled

/-- The loop leaves every member the target computed for it. -/
theorem memberTargets_returns (requested : GroupMember → PyFloat) (group : GroupConfig)
    (limits : PowerLimits) (groupEnabled : Bool) :
    ∃ targets, memberTargets requested group.members limits groupEnabled = .ok targets
      ∧ targets.keys = group.deviceIds
      ∧ ∀ m ∈ group.members, ∃ target, targets.get? m.device = some target
        ∧ memberTarget (requested m) m limits groupEnabled = .ok target
        ∧ target.For m limits groupEnabled := by
  choose val hval hfor using
    fun m : GroupMember => memberTarget_ok (requested m) m limits groupEnabled
  have hloop : memberTargets requested group.members limits groupEnabled
      = .ok (Dict.setAll GroupMember.device val group.members Dict.empty) := by
    refine Dict.collect_eq_setAll ?_
    intro m _
    rw [hval m]
    rfl
  refine ⟨_, hloop, ?_, ?_⟩
  · have hnd : ((Dict.empty : Dict String DeviceTarget).keys
        ++ group.members.map GroupMember.device).Nodup := group.members_unique
    rw [Dict.keys_setAll hnd]
    rfl
  · intro m hm
    exact ⟨val m, Dict.get?_setAll_of_mem group.members_unique hm, hval m, hfor m⟩

theorem memberTargets_ok (requested : GroupMember → PyFloat) (group : GroupConfig)
    (limits : PowerLimits) (groupEnabled : Bool) :
    ∃ targets, memberTargets requested group.members limits groupEnabled = .ok targets
      ∧ TargetsFor group limits groupEnabled targets := by
  obtain ⟨targets, htargets, hkeys, hmembers⟩ :=
    memberTargets_returns requested group limits groupEnabled
  refine ⟨targets, htargets, hkeys, fun m hm => ?_⟩
  obtain ⟨target, hget, _, hfor⟩ := hmembers m hm
  exact ⟨target, hget, hfor⟩

/-! ## The calculator -/

/-- The patterns that number their cycles with `math.floor`. -/
def PatternKind.numbersCycles : PatternKind → Bool
  | .lagoon | .reefCrest | .tidalSwell => true
  | _ => false

theorem effectiveCeiling_ok (group : GroupConfig) (runtime : GroupRuntime) (limits : PowerLimits) :
    ∃ q : ℚ, effectiveCeiling group runtime limits = .ok (fin q) := by
  obtain ⟨q, hq, _⟩ := clamp_limits limits (fin (effectivePower group runtime).val)
  exact ⟨q, hq⟩

theorem floor_ok {x : PyFloat} (h : x.isFinite = true) : ∃ step, x.floor = .ok step := by
  obtain ⟨q, rfl⟩ := isFinite_iff.mp h
  exact ⟨_, rfl⟩

section Calculate

variable {units : UnitSource} {timestamp : PyFloat} {group : GroupConfig} {runtime : GroupRuntime}
  {limits : PowerLimits}

/-- **The calculator returns one due target per member.** -/
theorem calculate_ok (hkind : runtime.pattern.getD group.default.pattern ∈ supportedPatterns)
    (hlim : effectiveLimits group runtime = .ok limits)
    (hcycle : (runtime.pattern.getD group.default.pattern).numbersCycles = true →
      ((timestamp - runtime.startedAt) / effectivePeriod group runtime).isFinite = true) :
    ∃ targets, PatternCalculator.calculate units timestamp group runtime = .ok targets
      ∧ TargetsFor group limits (isGroupEnabled group runtime) targets := by
  obtain ⟨q, hceil⟩ := effectiveCeiling_ok group runtime limits
  unfold PatternCalculator.calculate
  dsimp only
  cases hk : runtime.pattern.getD group.default.pattern with
  | constant =>
      show ∃ targets, ConstantPattern.calculate timestamp group runtime = _ ∧ _
      unfold ConstantPattern.calculate
      rw [PyError.bind_of_ok hlim]
      exact memberTargets_ok _ group limits _
  | sync =>
      show ∃ targets, SyncPattern.calculate timestamp group runtime = _ ∧ _
      unfold SyncPattern.calculate
      rw [PyError.bind_of_ok hlim]
      exact memberTargets_ok _ group limits _
  | antiPhase =>
      show ∃ targets, AntiPhasePattern.calculate timestamp group runtime = _ ∧ _
      unfold AntiPhasePattern.calculate
      rw [PyError.bind_of_ok hlim]
      exact memberTargets_ok _ group limits _
  | gyre =>
      show ∃ targets, GyrePattern.calculate timestamp group runtime = _ ∧ _
      unfold GyrePattern.calculate
      rw [PyError.bind_of_ok hlim, PyError.bind_of_ok hceil]
      exact memberTargets_ok _ group limits _
  | nutrientTransport =>
      show ∃ targets, NutrientTransportPattern.calculate timestamp group runtime = _ ∧ _
      unfold NutrientTransportPattern.calculate
      rw [PyError.bind_of_ok hlim, PyError.bind_of_ok hceil]
      exact memberTargets_ok _ group limits _
  | lagoon =>
      -- the patterns that number cycles take a floor first
      obtain ⟨step, hstep⟩ := floor_ok (hcycle (by rw [hk]; rfl))
      show ∃ targets, LagoonPattern.calculate units timestamp group runtime = _ ∧ _
      unfold LagoonPattern.calculate
      rw [PyError.bind_of_ok hlim, PyError.bind_of_ok hceil, PyError.bind_of_ok hstep]
      exact memberTargets_ok _ group limits _
  | reefCrest =>
      obtain ⟨step, hstep⟩ := floor_ok (hcycle (by rw [hk]; rfl))
      show ∃ targets, ReefCrestPattern.calculate units timestamp group runtime = _ ∧ _
      unfold ReefCrestPattern.calculate
      rw [PyError.bind_of_ok hlim, PyError.bind_of_ok hceil, PyError.bind_of_ok hstep]
      exact memberTargets_ok _ group limits _
  | tidalSwell =>
      obtain ⟨step, hstep⟩ := floor_ok (hcycle (by rw [hk]; rfl))
      show ∃ targets, TidalSwellPattern.calculate units timestamp group runtime = _ ∧ _
      unfold TidalSwellPattern.calculate
      rw [PyError.bind_of_ok hlim, PyError.bind_of_ok hceil, PyError.bind_of_ok hstep]
      exact memberTargets_ok _ group limits _
  | sine | randomReef | tide | native =>
      rw [hk] at hkind
      exact absurd hkind (by decide)

end Calculate

end JebaoFlow
