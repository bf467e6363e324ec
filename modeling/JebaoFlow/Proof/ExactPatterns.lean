import JebaoFlow.Groups.Calculator
import JebaoFlow.Lib.Waves

/-!
# The patterns as waves

With finite numbers nothing of a float but its value matters. Each pattern is then a wave: the
number of cycles that have passed since the start decides the level every member is due, and
the member's target is that level times its gain, clamped and rounded half-up.
-/

namespace JebaoFlow

open PyFloat Waves

/-- The start and the period of a runtime are finite; a gain and a phase always are. -/
structure Exact (group : GroupConfig) (runtime : GroupRuntime) : Prop where
  startedAt : runtime.startedAt.isFinite = true
  period : (effectivePeriod group runtime).isFinite = true

/-- A gain is a positive number. -/
theorem GroupMember.gain_cases (m : GroupMember) : ∃ q : ℚ, m.gain = fin q ∧ 0 < q := by
  obtain ⟨q, hq, _, _⟩ := fin_of_between (le_of_lt m.gain_gt) m.gain_le
  have hgt := m.gain_gt
  rw [hq, fin_lt, decide_eq_true_eq] at hgt
  exact ⟨q, hq, hgt⟩

/-- A phase is a number of degrees. -/
theorem GroupMember.phase_eq (m : GroupMember) : m.phase = fin m.phase.value := by
  obtain ⟨q, hq, _, _⟩ := fin_of_between m.phase_ge (le_of_lt m.phase_lt)
  rw [hq]
  rfl

theorem GroupMember.gain_eq (m : GroupMember) : m.gain = fin m.gain.value := by
  obtain ⟨q, hq, _⟩ := m.gain_cases
  rw [hq]
  rfl

theorem GroupMember.gain_pos (m : GroupMember) : 0 < m.gain.value := by
  obtain ⟨q, hq, hpos⟩ := m.gain_cases
  rw [hq]
  exact hpos

variable {units : UnitSource} {group : GroupConfig} {runtime : GroupRuntime} {limits : PowerLimits}
  {member : GroupMember} {t : ℚ}

/-- A period that passed its validator is positive. -/
theorem Exact.period_pos (h : Exact group runtime) (hvalid : runtime.validate = .ok runtime) :
    0 < (effectivePeriod group runtime).value := by
  have hgt : (fin 0).lt (effectivePeriod group runtime) = true := by
    unfold effectivePeriod
    cases hperiod : runtime.periodSeconds with
    | none => exact group.default.period_gt
    | some period =>
        rw [Option.getD_some]
        by_contra hgt
        unfold GroupRuntime.validate at hvalid
        rw [hperiod] at hvalid
        dsimp only at hvalid
        rw [if_neg hgt] at hvalid
        cases hvalid
  rw [PyFloat.eq_fin h.period, fin_lt] at hgt
  exact of_decide_eq_true hgt

/-- How many cycles have passed, before the start a negative number. -/
def cycles (t : ℚ) (group : GroupConfig) (runtime : GroupRuntime) : ℚ :=
  (t - runtime.startedAt.value) / (effectivePeriod group runtime).value

theorem elapsed_eq (h : Exact group runtime) (hvalid : runtime.validate = .ok runtime) :
    (fin t - runtime.startedAt) / effectivePeriod group runtime = fin (cycles t group runtime) := by
  have hne := (h.period_pos hvalid).ne'
  unfold cycles
  rw [PyFloat.eq_fin h.startedAt, PyFloat.eq_fin h.period, fin_sub, fin_div hne]
  rfl

theorem cycleFraction_eq (h : Exact group runtime) (hvalid : runtime.validate = .ok runtime) (p : ℚ) :
    cycleFraction (fin t) runtime (effectivePeriod group runtime) (fin p)
      = fin (Int.fract (cycles t group runtime - p / 360)) := by
  unfold cycleFraction
  dsimp only
  rw [elapsed_eq h hvalid, fin_div (by norm_num), fin_sub, mod_one]

theorem lt_half (q : ℚ) : (fin (Int.fract q)).lt (fin 0.5) = decide (FirstHalf q) := by
  have hhalf : (0.5 : ℚ) = 1 / 2 := by norm_num
  rw [fin_lt, hhalf]
  rfl

/-! ## Levels -/

/-- The tidal envelope, in exact numbers. -/
def tidalLevel (units : UnitSource) (fraction : ℚ) : ℚ :=
  if fraction < 0.4 then 0.55 + 0.35 * units.absSin (fraction * 5)
  else if fraction < 0.7 then 0.3
  else if fraction < 0.9 then 0.3 + (fraction - 0.7) / 0.2 * 0.7
  else 1

/-- The side of a member that the tide calls first or second. -/
def tidalSide (member : GroupMember) : ℤ := if member.phase.value < 180 then 0 else 1

/--
What a member is asked for after a number of cycles, before its gain. `ceiling` is the
requested power within the limits; the patterns without an implementation ask for nothing.
-/
def level (units : UnitSource) (kind : PatternKind) (group : GroupConfig) (limits : PowerLimits)
    (power ceiling : ℚ) (cycles : ℚ) (member : GroupMember) : ℚ :=
  let lower : ℚ := limits.minPower.val
  let phase := member.phase.value / 360
  match kind with
  | .constant => power
  | .sync => if FirstHalf cycles then limits.maxPower.val else lower
  | .antiPhase => if FirstHalf (cycles - phase) then limits.maxPower.val else lower
  | .gyre => if FirstHalf (cycles - phase) then ceiling else lower
  | .nutrientTransport =>
      if FirstHalf cycles then
        if FirstHalf (Int.fract cycles * 8 - phase) then ceiling else lower
      else mix lower ceiling (0.6 + 0.4 * ((Int.fract cycles - 0.5) * 2))
  | .lagoon =>
      mix lower ceiling (0.15
        + interpolate (units.stableUnit ("lagoon:" ++ group.id ++ ":" ++ member.device)) cycles * 0.5)
  | .reefCrest =>
      mix lower ceiling (0.35
        + units.stableUnit ("reef-crest:" ++ group.id ++ ":" ++ member.device) ⌊cycles⌋ * 0.65)
  | .tidalSwell =>
      mix lower ceiling (tidalLevel units (Int.fract cycles)
        * if tidalSide member = ⌊cycles⌋ % 2 then 1 else 0.5)
  | .sine | .randomReef | .tide | .native => 0

/-- The requested power, clamped into the limits. -/
def ceilingPower (group : GroupConfig) (runtime : GroupRuntime) (limits : PowerLimits) : ℕ :=
  max limits.minPower.val (min (effectivePower group runtime).val limits.maxPower.val)

/-- The requested power within the limits is within the limits. -/
theorem ceilingPower_mem : limits.Contains (ceilingPower group runtime limits) :=
  ⟨le_max_left .., max_le limits.range (min_le_right ..)⟩

/-- The level of a member at a moment. -/
def memberLevel (units : UnitSource) (kind : PatternKind) (group : GroupConfig)
    (runtime : GroupRuntime) (limits : PowerLimits) (t : ℚ) (member : GroupMember) : ℚ :=
  level units kind group limits (effectivePower group runtime).val
    (ceilingPower group runtime limits) (cycles t group runtime) member

theorem clamp_fin (x : ℚ) : clamp (fin x) (fin limits.minPower.val) (fin limits.maxPower.val)
    = .ok (fin (max limits.minPower.val (min x limits.maxPower.val))) := by
  have hrange : (fin (limits.maxPower.val : ℚ)).lt (fin (limits.minPower.val : ℚ)) = false := by
    rw [fin_lt, decide_eq_false (not_lt.mpr limits.cast_range)]
  unfold clamp
  rw [hrange, if_neg Bool.false_ne_true, pyMin_fin, pyMax_fin]

theorem effectiveCeiling_eq : effectiveCeiling group runtime limits
    = .ok (fin (ceilingPower group runtime limits)) := by
  unfold effectiveCeiling ceilingPower
  rw [clamp_fin]
  push_cast
  rfl

theorem tidalIntensity_fin (fraction : ℚ) :
    tidalIntensity units (fin fraction) = fin (tidalLevel units fraction) := by
  have hspan : (0.2 : ℚ) ≠ 0 := by norm_num
  unfold tidalIntensity tidalLevel
  rw [fin_lt, fin_lt, fin_lt]
  by_cases h₁ : fraction < 0.4
  · rw [decide_eq_true h₁, if_pos rfl, if_pos h₁]
    rfl
  rw [decide_eq_false h₁, if_neg Bool.false_ne_true, if_neg h₁]
  by_cases h₂ : fraction < 0.7
  · rw [decide_eq_true h₂, if_pos rfl, if_pos h₂]
  rw [decide_eq_false h₂, if_neg Bool.false_ne_true, if_neg h₂]
  by_cases h₃ : fraction < 0.9
  · rw [decide_eq_true h₃, if_pos rfl, if_pos h₃, fin_sub, fin_div hspan]
    rfl
  · rw [decide_eq_false h₃, if_neg Bool.false_ne_true, if_neg h₃]

/-- A pattern only depends on what it asks of the members of the group. -/
theorem memberTargets_congr {requested requested' : GroupMember → PyFloat} (members : List GroupMember)
    (groupEnabled : Bool) (h : ∀ m ∈ members, requested m = requested' m) :
    memberTargets requested members limits groupEnabled
      = memberTargets requested' members limits groupEnabled := by
  unfold memberTargets
  generalize (Dict.empty : Dict String DeviceTarget) = targets
  induction members generalizing targets with
  | nil => rfl
  | cons m members ih =>
      have hrest := fun targets => ih (fun m' hm' => h m' (List.mem_cons_of_mem _ hm')) targets
      rw [Dict.collect, Dict.collect, h m List.mem_cons_self]
      simp only [hrest]

theorem phaseFraction_eq (h : Exact group runtime) (hvalid : runtime.validate = .ok runtime)
    (member : GroupMember) :
    cycleFraction (fin t) runtime (effectivePeriod group runtime) member.phase
      = fin (Int.fract (cycles t group runtime - member.phase.value / 360)) := by
  rw [member.phase_eq]
  exact cycleFraction_eq h hvalid _

/-- The two levels of a square wave. -/
theorem squareWave_eq (upper lower : ℚ) (position : ℚ) :
    (if (fin (Int.fract position)).lt (fin 0.5) = true then fin upper else fin lower)
      = fin (if FirstHalf position then upper else lower) := by
  rw [lt_half]
  by_cases hfirst : FirstHalf position
  · rw [if_pos (decide_eq_true hfirst), if_pos hfirst]
  · rw [if_neg (by rw [decide_eq_false hfirst]; decide), if_neg hfirst]

theorem constant_levels (hlimits : effectiveLimits group runtime = .ok limits) :
    ConstantPattern.calculate (fin t) group runtime
      = memberTargets (fun m => fin (memberLevel units .constant group runtime limits t m))
        group.members limits (isGroupEnabled group runtime) := by
  unfold ConstantPattern.calculate
  rw [PyError.bind_of_ok hlimits]
  rfl

section Patterns

variable (h : Exact group runtime) (hvalid : runtime.validate = .ok runtime)
  (hlimits : effectiveLimits group runtime = .ok limits)

include h hvalid hlimits

theorem sync_levels : SyncPattern.calculate (fin t) group runtime
    = memberTargets (fun m => fin (memberLevel units .sync group runtime limits t m))
      group.members limits (isGroupEnabled group runtime) := by
  unfold SyncPattern.calculate
  rw [PyError.bind_of_ok hlimits]
  dsimp only
  refine memberTargets_congr _ _ (fun m _ => ?_)
  have hwave := squareWave_eq limits.maxPower.val limits.minPower.val (cycles t group runtime)
  rw [cycleFraction_eq h hvalid, zero_div, sub_zero]
  refine Eq.trans ?_ hwave
  split
  · rfl
  · rfl

theorem antiPhase_levels : AntiPhasePattern.calculate (fin t) group runtime
    = memberTargets (fun m => fin (memberLevel units .antiPhase group runtime limits t m))
      group.members limits (isGroupEnabled group runtime) := by
  unfold AntiPhasePattern.calculate
  rw [PyError.bind_of_ok hlimits]
  refine memberTargets_congr _ _ (fun m _ => ?_)
  rw [phaseFraction_eq h hvalid m]
  exact squareWave_eq ..

theorem gyre_levels : GyrePattern.calculate (fin t) group runtime
    = memberTargets (fun m => fin (memberLevel units .gyre group runtime limits t m))
      group.members limits (isGroupEnabled group runtime) := by
  unfold GyrePattern.calculate
  rw [PyError.bind_of_ok hlimits, PyError.bind_of_ok effectiveCeiling_eq]
  refine memberTargets_congr _ _ (fun m _ => ?_)
  rw [phaseFraction_eq h hvalid m]
  exact squareWave_eq ..

theorem nutrientTransport_levels : NutrientTransportPattern.calculate (fin t) group runtime
    = memberTargets (fun m => fin (memberLevel units .nutrientTransport group runtime limits t m))
      group.members limits (isGroupEnabled group runtime) := by
  unfold NutrientTransportPattern.calculate
  rw [PyError.bind_of_ok hlimits, PyError.bind_of_ok effectiveCeiling_eq]
  dsimp only
  rw [elapsed_eq h hvalid, mod_one, lt_half]
  refine memberTargets_congr _ _ (fun m _ => ?_)
  rw [m.phase_eq, fin_div (by norm_num)]
  simp only [fin_mul, fin_sub, fin_add, mod_one]
  unfold memberLevel level mix
  dsimp only
  by_cases hfirst : FirstHalf (cycles t group runtime)
  · rw [if_pos (decide_eq_true hfirst), if_pos hfirst]
    exact squareWave_eq ..
  · rw [if_neg (by rw [decide_eq_false hfirst]; decide), if_neg hfirst]

theorem lagoon_levels : LagoonPattern.calculate units (fin t) group runtime
    = memberTargets (fun m => fin (memberLevel units .lagoon group runtime limits t m))
      group.members limits (isGroupEnabled group runtime) := by
  unfold LagoonPattern.calculate
  rw [PyError.bind_of_ok hlimits, PyError.bind_of_ok effectiveCeiling_eq]
  dsimp only
  rw [elapsed_eq h hvalid, PyError.bind_of_ok (floor_fin _)]
  refine memberTargets_congr _ _ (fun m _ => ?_)
  simp only [smoothstep, fin_mul, fin_sub, fin_add]
  rfl

theorem reefCrest_levels : ReefCrestPattern.calculate units (fin t) group runtime
    = memberTargets (fun m => fin (memberLevel units .reefCrest group runtime limits t m))
      group.members limits (isGroupEnabled group runtime) := by
  unfold ReefCrestPattern.calculate
  rw [PyError.bind_of_ok hlimits, PyError.bind_of_ok effectiveCeiling_eq]
  dsimp only
  rw [elapsed_eq h hvalid, PyError.bind_of_ok (floor_fin _)]
  refine memberTargets_congr _ _ (fun m _ => ?_)
  simp only [fin_mul, fin_sub, fin_add]
  rfl

theorem tidalSwell_levels : TidalSwellPattern.calculate units (fin t) group runtime
    = memberTargets (fun m => fin (memberLevel units .tidalSwell group runtime limits t m))
      group.members limits (isGroupEnabled group runtime) := by
  unfold TidalSwellPattern.calculate
  rw [PyError.bind_of_ok hlimits, PyError.bind_of_ok effectiveCeiling_eq]
  dsimp only
  rw [elapsed_eq h hvalid, PyError.bind_of_ok (floor_fin _), mod_one, tidalIntensity_fin]
  refine memberTargets_congr _ _ (fun m _ => ?_)
  have hside : (if m.phase.lt (fin 180) = true then (0 : ℤ) else 1) = tidalSide m := by
    unfold tidalSide
    rw [m.phase_eq, fin_lt]
    exact if_congr decide_eq_true_iff rfl rfl
  have hdominance : (if tidalSide m = ⌊cycles t group runtime⌋ % 2 then fin 1 else fin 0.5)
      = fin (if tidalSide m = ⌊cycles t group runtime⌋ % 2 then 1 else 0.5) :=
    (apply_ite fin ..).symm
  rw [hside, hdominance]
  simp only [fin_mul, fin_sub, fin_add]
  rfl

end Patterns

/-- **Each pattern asks of each member the level of its wave.** -/
theorem calculate_levels (h : Exact group runtime) (hvalid : runtime.validate = .ok runtime)
    (hlimits : effectiveLimits group runtime = .ok limits) {kind : PatternKind}
    {pattern : PyFloat → GroupConfig → GroupRuntime → Except PyError (Dict String DeviceTarget)}
    (hpattern : createPattern units kind = .ok pattern) (t : ℚ) :
    pattern (fin t) group runtime
      = memberTargets (fun m => fin (memberLevel units kind group runtime limits t m)) group.members
        limits (isGroupEnabled group runtime) := by
  cases kind with
  | constant => cases hpattern; exact constant_levels hlimits
  | sync => cases hpattern; exact sync_levels h hvalid hlimits
  | antiPhase => cases hpattern; exact antiPhase_levels h hvalid hlimits
  | gyre => cases hpattern; exact gyre_levels h hvalid hlimits
  | nutrientTransport => cases hpattern; exact nutrientTransport_levels h hvalid hlimits
  | lagoon => cases hpattern; exact lagoon_levels h hvalid hlimits
  | reefCrest => cases hpattern; exact reefCrest_levels h hvalid hlimits
  | tidalSwell => cases hpattern; exact tidalSwell_levels h hvalid hlimits
  | sine | randomReef | tide | native => cases hpattern

/-! ## The target of one member -/

/-- The output of an enabled member at a level. -/
def memberPower (limits : PowerLimits) (member : GroupMember) (level : ℚ) : ℤ :=
  round (max (limits.minPower.val : ℚ) (min (level * member.gain.value) limits.maxPower.val))

theorem clampEnabledPower_fin (x : ℚ) : clampEnabledPower (fin x) limits true
    = .ok (round (max (limits.minPower.val : ℚ) (min x limits.maxPower.val))) := by
  have hpos : 0 ≤ max (limits.minPower.val : ℚ) (min x limits.maxPower.val) + 0.5 := by
    have hmin : (0 : ℚ) ≤ limits.minPower.val := Nat.cast_nonneg _
    have hmax := le_max_left (limits.minPower.val : ℚ) (min x limits.maxPower.val)
    linarith
  have hbind : clampEnabledPower (fin x) limits true
      = (clamp (fin x) (fin limits.minPower.val) (fin limits.maxPower.val)
          >>= fun bounded => (bounded + fin 0.5).toInt) := rfl
  have hhalf : (0.5 : ℚ) = 1 / 2 := by norm_num
  rw [hbind, clamp_fin, PyError.bind_of_ok rfl, fin_add, toInt, if_pos hpos, round_eq, hhalf]

theorem validate_target {enabled : Bool} {power : ℤ} {target : DeviceTarget}
    (h : DeviceTarget.validate enabled power = .ok target) :
    target.enabled = enabled ∧ (target.power.val : ℤ) = power := by
  unfold DeviceTarget.validate at h
  split at h
  · rename_i hrange
    cases h
    exact ⟨rfl, Int.toNat_of_nonneg hrange.1⟩
  · cases h

/-- **The target of a member is its level times its gain, clamped and rounded, or off.** -/
theorem memberTarget_exact {x : ℚ} {groupEnabled : Bool}
    {target : DeviceTarget} (h : memberTarget (fin x) member limits groupEnabled = .ok target) :
    target.enabled = (groupEnabled && member.enabled)
      ∧ (target.power.val : ℤ)
        = if (groupEnabled && member.enabled) = true then memberPower limits member x else 0 := by
  unfold memberTarget at h
  rw [member.gain_eq, fin_mul] at h
  obtain ⟨power, hpower, h⟩ := PyError.bind_eq_ok h
  obtain ⟨henabled, hvalue⟩ := validate_target h
  refine ⟨henabled, hvalue.trans ?_⟩
  cases hboth : groupEnabled && member.enabled with
  | false =>
      rw [hboth] at hpower
      exact (Except.ok.inj hpower).symm
  | true =>
      rw [hboth, clampEnabledPower_fin] at hpower
      exact (Except.ok.inj hpower).symm

/-- Every member gets the target computed for it. -/
theorem memberTargets_member {requested : GroupMember → PyFloat} {groupEnabled : Bool}
    {targets : Dict String DeviceTarget}
    (h : memberTargets requested group.members limits groupEnabled = .ok targets)
    (hm : member ∈ group.members) : ∃ target, targets.get? member.device = some target
      ∧ memberTarget (requested member) member limits groupEnabled = .ok target := by
  obtain ⟨returned, hreturned, _, hmembers⟩ :=
    memberTargets_returns requested group limits groupEnabled
  obtain rfl := Except.ok.inj (hreturned.symm.trans h)
  obtain ⟨target, hget, htarget, _⟩ := hmembers member hm
  exact ⟨target, hget, htarget⟩

/-- In exact numbers a pattern always returns. -/
theorem calculate_returns (h : Exact group runtime) (hvalid : runtime.validate = .ok runtime)
    (hlimits : effectiveLimits group runtime = .ok limits) {kind : PatternKind}
    {pattern : PyFloat → GroupConfig → GroupRuntime → Except PyError (Dict String DeviceTarget)}
    (hpattern : createPattern units kind = .ok pattern) (t : ℚ) :
    ∃ targets, pattern (fin t) group runtime = .ok targets := by
  rw [calculate_levels h hvalid hlimits hpattern t]
  obtain ⟨targets, htargets, _⟩ := memberTargets_ok
    (fun m => fin (memberLevel units kind group runtime limits t m)) group limits
    (isGroupEnabled group runtime)
  exact ⟨targets, htargets⟩

/-- **What a pattern says of a member at a moment.** -/
theorem calculate_member (h : Exact group runtime) (hvalid : runtime.validate = .ok runtime)
    (hlimits : effectiveLimits group runtime = .ok limits) {kind : PatternKind}
    {pattern : PyFloat → GroupConfig → GroupRuntime → Except PyError (Dict String DeviceTarget)}
    (hpattern : createPattern units kind = .ok pattern) {targets : Dict String DeviceTarget}
    (hcalculate : pattern (fin t) group runtime = .ok targets) (hm : member ∈ group.members) :
    ∃ target, targets.get? member.device = some target
      ∧ target.enabled = (isGroupEnabled group runtime && member.enabled)
      ∧ (target.power.val : ℤ) = if (isGroupEnabled group runtime && member.enabled) = true then
          memberPower limits member (memberLevel units kind group runtime limits t member)
        else 0 := by
  rw [calculate_levels h hvalid hlimits hpattern t] at hcalculate
  obtain ⟨target, hget, htarget⟩ := memberTargets_member hcalculate hm
  exact ⟨target, hget, memberTarget_exact htarget⟩

/-- A pump half a cycle late. -/
def latePump : GroupMember :=
  { GroupMember.plain "left" with
    phase := fin 180
    phase_ge := by decide +kernel
    phase_lt := by decide +kernel }

/-- Two pumps half a cycle apart. -/
def opposedPumps (pattern : PatternKind) : GroupConfig where
  id := "main_flow"
  name := "Main flow"
  members := [latePump, .plain "right"]
  default := { GroupDefaults.within ⟨35, 75, by decide⟩ with
    pattern
    power := 70
    periodSeconds := fin 8
    period_gt := by decide +kernel }

theorem opposedPumps_exact (pattern : PatternKind) : Exact (opposedPumps pattern) {} where
  startedAt := rfl
  period := rfl

end JebaoFlow
