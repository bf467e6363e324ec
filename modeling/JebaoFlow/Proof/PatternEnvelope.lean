import JebaoFlow.Proof.ExactPatterns

/-!
# The envelope of the patterns

Every pattern keeps every enabled member between the limits of its group, and five of them
below the requested power as well: their waves run between the lower limit and the requested
power, a gain of at most one lowers what they ask for, and rounding cannot lift it over a
whole number.
-/

namespace JebaoFlow

open PyFloat Waves

variable {units : UnitSource} {group : GroupConfig} {runtime : GroupRuntime} {limits : PowerLimits}
  {member : GroupMember} {kind : PatternKind} {t : ℚ}

/-- The patterns that take the requested power for their ceiling. -/
def ceilingPatterns : List PatternKind :=
  [.gyre, .lagoon, .reefCrest, .tidalSwell, .nutrientTransport]

/-! ## The waves -/

/-- The least and the most a pattern asks a member for, whatever the moment, before its gain. -/
def asked (kind : PatternKind) (lower upper power ceiling : ℚ) : ℚ × ℚ :=
  match kind with
  | .constant => (power, power)
  | .sync | .antiPhase => (lower, upper)
  | .gyre | .nutrientTransport => (lower, ceiling)
  | .lagoon => (mix lower ceiling 0.15, mix lower ceiling 0.65)
  | .reefCrest => (mix lower ceiling 0.35, ceiling)
  | .tidalSwell => (mix lower ceiling 0.15, ceiling)
  | .sine | .randomReef | .tide | .native => (0, 0)

theorem tidalLevel_mem (fraction : ℚ) :
    0.3 ≤ tidalLevel units fraction ∧ tidalLevel units fraction ≤ 1 := by
  obtain ⟨hsin, hsin'⟩ := units.absSin_mem (fraction * 5)
  unfold tidalLevel
  split
  · exact ⟨by linarith, by linarith⟩
  split
  · exact ⟨le_rfl, by norm_num⟩
  split
  · -- the rise from the third to the fourth stage
    have hrise : 0 ≤ (fraction - 0.7) / 0.2 ∧ (fraction - 0.7) / 0.2 ≤ 1 := by
      constructor
      · exact div_nonneg (by linarith) (by norm_num)
      · rw [div_le_one (by norm_num)]
        linarith
    exact ⟨by linarith [hrise.1], by linarith [hrise.2]⟩
  · exact ⟨by norm_num, le_rfl⟩

/-- A square wave is one of its two levels. -/
theorem squareWave_mem {lower upper : ℚ} (h : lower ≤ upper) (position : ℚ) :
    lower ≤ (if FirstHalf position then upper else lower)
      ∧ (if FirstHalf position then upper else lower) ≤ upper := by
  split
  · exact ⟨h, le_rfl⟩
  · exact ⟨le_rfl, h⟩

/-- What is mixed between two fractions of the way to a level. -/
theorem mix_between {lower upper u v x : ℚ} (h : lower ≤ upper) (hx : u ≤ x ∧ x ≤ v) :
    mix lower upper u ≤ mix lower upper x ∧ mix lower upper x ≤ mix lower upper v :=
  ⟨mix_mono h hx.1, mix_mono h hx.2⟩

theorem mix_one (lower upper : ℚ) : mix lower upper 1 = upper := by
  unfold mix
  ring

/-- **A wave stays between the least and the most its pattern asks for.** -/
theorem level_asked {power ceiling : ℚ} (h : (limits.minPower.val : ℚ) ≤ ceiling) (cycles : ℚ) :
    (asked kind limits.minPower.val limits.maxPower.val power ceiling).1
        ≤ level units kind group limits power ceiling cycles member
      ∧ level units kind group limits power ceiling cycles member
        ≤ (asked kind limits.minPower.val limits.maxPower.val power ceiling).2 := by
  have hfract := Int.fract_nonneg cycles
  have hfract' := Int.fract_lt_one cycles
  have hrange := limits.cast_range
  cases kind with
  | constant => exact ⟨le_rfl, le_rfl⟩
  | sync => exact squareWave_mem hrange _
  | antiPhase => exact squareWave_mem hrange _
  | gyre => exact squareWave_mem h _
  | lagoon =>
      have hunit := interpolate_mem
        (units.stableUnit_mem ("lagoon:" ++ group.id ++ ":" ++ member.device)) cycles
      exact mix_between h ⟨by linarith [hunit.1], by linarith [hunit.2]⟩
  | reefCrest =>
      have hunit := units.stableUnit_mem ("reef-crest:" ++ group.id ++ ":" ++ member.device) ⌊cycles⌋
      have hbetween := @mix_between _ ceiling 0.35 1 (0.35
        + units.stableUnit ("reef-crest:" ++ group.id ++ ":" ++ member.device) ⌊cycles⌋ * 0.65) h
        ⟨by linarith [hunit.1], by linarith [hunit.2]⟩
      rw [mix_one] at hbetween
      exact hbetween
  | tidalSwell =>
      obtain ⟨hlow, hhigh⟩ := @tidalLevel_mem units (Int.fract cycles)
      have hbetween := @mix_between _ ceiling 0.15 1 (tidalLevel units (Int.fract cycles)
        * if tidalSide member = ⌊cycles⌋ % 2 then 1 else 0.5) h (by
          split
          · exact ⟨by linarith, by linarith⟩
          · exact ⟨by linarith, by linarith⟩)
      rw [mix_one] at hbetween
      exact hbetween
  | nutrientTransport =>
      unfold level
      dsimp only
      split
      · exact squareWave_mem h _
      · rename_i hsecond
        unfold FirstHalf at hsecond
        exact mix_mem h ⟨by linarith, by linarith⟩
  | sine | randomReef | tide | native => exact ⟨le_rfl, le_rfl⟩

/-- **The waves with a ceiling run between the lower limit and the ceiling.** -/
theorem level_mem (hkind : kind ∈ ceilingPatterns) {power ceiling : ℚ}
    (h : (limits.minPower.val : ℚ) ≤ ceiling) (cycles : ℚ) :
    limits.minPower.val ≤ level units kind group limits power ceiling cycles member
      ∧ level units kind group limits power ceiling cycles member ≤ ceiling := by
  obtain ⟨hlow, hhigh⟩ := @level_asked units group limits member kind power ceiling h cycles
  have hasked : (limits.minPower.val : ℚ)
        ≤ (asked kind limits.minPower.val limits.maxPower.val power ceiling).1
      ∧ (asked kind limits.minPower.val limits.maxPower.val power ceiling).2 ≤ ceiling := by
    cases kind with
    | gyre | nutrientTransport => exact ⟨le_rfl, le_rfl⟩
    | lagoon => exact ⟨(mix_mem h (by norm_num)).1, (mix_mem h (by norm_num)).2⟩
    | reefCrest | tidalSwell => exact ⟨(mix_mem h (by norm_num)).1, le_rfl⟩
    | constant | sync | antiPhase | sine | randomReef | tide | native =>
        exact absurd hkind (by decide)
  exact ⟨hasked.1.trans hlow, hhigh.trans hasked.2⟩

/-! ## The outputs -/

/-- **Below a whole ceiling, a gain of at most one leaves the output below it.** -/
theorem memberPower_le {ceiling : ℕ} (hceiling : limits.minPower.val ≤ ceiling)
    (hsmall : member.gain.value ≤ 1) {x : ℚ} (hx : 0 ≤ x) (hlevel : x ≤ ceiling) :
    memberPower limits member x ≤ ceiling := by
  have hscaled : x * member.gain.value ≤ ceiling := by
    calc x * member.gain.value ≤ x * 1 := mul_le_mul_of_nonneg_left hsmall hx
      _ = x := mul_one x
      _ ≤ ceiling := hlevel
  unfold memberPower
  refine round_le (max_le ?_ (min_le_of_left_le ?_))
  · exact_mod_cast hceiling
  · exact_mod_cast hscaled

/--
**Every output of a pattern lies in the envelope of its group.**

There is exactly one target for each member, enabled when both are and off otherwise; an
enabled one is a whole power between the limits, and under a pattern with a ceiling a member
with a gain of at most one never exceeds the requested power within the limits.
-/
theorem pattern_outputs_in_envelope (h : Exact group runtime)
    (hvalid : runtime.validate = .ok runtime)
    (hkind : runtime.pattern.getD group.default.pattern ∈ supportedPatterns)
    (hrange : (runtime.minPower.getD group.default.minPower).val
      ≤ (runtime.maxPower.getD group.default.maxPower).val) (t : ℚ) :
    ∃ targets, PatternCalculator.calculate units (fin t) group runtime = .ok targets
      ∧ targets.keys = group.deviceIds
      ∧ ∀ m ∈ group.members, ∃ target, targets.get? m.device = some target
        ∧ target.enabled = (isGroupEnabled group runtime && m.enabled)
        ∧ (target.enabled = false → target.power.val = 0)
        ∧ (target.enabled = true →
          (runtime.minPower.getD group.default.minPower).val ≤ target.power.val
            ∧ target.power.val ≤ (runtime.maxPower.getD group.default.maxPower).val
            ∧ (runtime.pattern.getD group.default.pattern ∈ ceilingPatterns →
              m.gain.value ≤ 1 →
              target.power.val ≤ max (runtime.minPower.getD group.default.minPower).val
                (min (effectivePower group runtime).val
                  (runtime.maxPower.getD group.default.maxPower).val))) := by
  have hlimits : effectiveLimits group runtime = .ok ⟨_, _, hrange⟩ := by
    unfold effectiveLimits PowerLimits.validate
    rw [dif_pos hrange]
  have hcycle : ((fin t - runtime.startedAt) / effectivePeriod group runtime).isFinite = true := by
    rw [elapsed_eq h hvalid]
    rfl
  obtain ⟨targets, hcalculate, hkeys, hmembers⟩ :=
    @calculate_ok units (fin t) group runtime _ hkind hlimits (fun _ => hcycle)
  refine ⟨targets, hcalculate, hkeys, fun m hm => ?_⟩
  obtain ⟨target, hget, henabled, hoff, hon⟩ := hmembers m hm
  refine ⟨target, hget, henabled, hoff, fun htarget => ⟨(hon htarget).1, (hon htarget).2,
    fun hceiling hsmall => ?_⟩⟩
  -- the output, computed
  obtain ⟨pattern, hpattern, hrun⟩ := PyError.bind_eq_ok hcalculate
  obtain ⟨target', hget', _, hpower⟩ := calculate_member h hvalid hlimits hpattern hrun hm
  rw [hget] at hget'
  obtain rfl := Option.some.inj hget'
  rw [henabled] at htarget
  rw [if_pos htarget] at hpower
  have hlower : ((⟨_, _, hrange⟩ : PowerLimits).minPower.val : ℚ)
      ≤ (ceilingPower group runtime ⟨_, _, hrange⟩ : ℚ) := by
    exact_mod_cast (@ceilingPower_mem group runtime ⟨_, _, hrange⟩).1
  obtain ⟨hlow, hhigh⟩ := @level_mem units group _ m _ hceiling (effectivePower group runtime).val _
    hlower (cycles t group runtime)
  have hle := memberPower_le ceilingPower_mem.1 hsmall
    (le_trans (Nat.cast_nonneg _) hlow) hhigh
  unfold memberLevel at hpower
  rw [← hpower] at hle
  exact_mod_cast hle

theorem pattern_outputs_in_envelope_opposedPumps : ∃ targets,
    PatternCalculator.calculate steadyUnits (fin 7) (opposedPumps .lagoon) {} = .ok targets
      ∧ ∃ target, targets.get? "left" = some target ∧ 35 ≤ target.power.val
        ∧ target.power.val ≤ 70 := by
  obtain ⟨targets, hcalculate, _, hmembers⟩ :=
    @pattern_outputs_in_envelope steadyUnits (opposedPumps .lagoon) {} (opposedPumps_exact .lagoon) rfl
      (by decide) (by decide) 7
  obtain ⟨target, hget, henabled, _, hon⟩ := hmembers _ List.mem_cons_self
  obtain ⟨hlow, _, hceiling⟩ := hon (henabled.trans rfl)
  exact ⟨targets, hcalculate, target, hget, hlow, hceiling (by decide) le_rfl⟩

end JebaoFlow
