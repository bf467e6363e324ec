import JebaoFlow.Proof.ExactPatterns

/-!
# Lagoon never jumps

The wave of the pattern joins a random sample of each cycle to the next by a cubic, and uses
half of the range for it. So its level changes by no more than three quarters of the range in
a cycle, whatever the samples are and however many cycle boundaries are crossed; gain and
clamp keep that slope up to the gain, and the rounding adds one.
-/

namespace JebaoFlow

open PyFloat Waves

variable {units : UnitSource} {group : GroupConfig} {runtime : GroupRuntime} {limits : PowerLimits}
  {member : GroupMember}

/-- The level of the wave at two positions. -/
theorem lagoon_level_sub {power ceiling x y : ℚ} (h : (limits.minPower.val : ℚ) ≤ ceiling)
    (hxy : x ≤ y) :
    |level units .lagoon group limits power ceiling y member
        - level units .lagoon group limits power ceiling x member|
      ≤ 0.75 * (ceiling - limits.minPower.val) * (y - x) := by
  have hgap : 0 ≤ ceiling - limits.minPower.val := sub_nonneg.mpr h
  have hslope := interpolate_lipschitz
    (units.stableUnit_mem ("lagoon:" ++ group.id ++ ":" ++ member.device)) hxy
  have hhalf : ∀ a b : ℚ, 0.15 + b * 0.5 - (0.15 + a * 0.5) = 0.5 * (b - a) := fun a b => by ring
  unfold level
  dsimp only
  rw [mix_sub, hhalf, abs_mul, abs_of_nonneg hgap, abs_mul, abs_of_nonneg (by norm_num)]
  calc (ceiling - limits.minPower.val) * (0.5 * |_|)
      ≤ (ceiling - limits.minPower.val) * (0.5 * (3 / 2 * (y - x))) :=
        mul_le_mul_of_nonneg_left (mul_le_mul_of_nonneg_left hslope (by norm_num)) hgap
    _ = 0.75 * (ceiling - limits.minPower.val) * (y - x) := by ring

/-- Gain, clamp and rounding after it. -/
theorem memberPower_sub (hgain : 0 ≤ member.gain.value) (x y : ℚ) :
    |(memberPower limits member y : ℚ) - memberPower limits member x|
      ≤ |y - x| * member.gain.value + 1 := by
  unfold memberPower
  refine (round_sub_le _ _).trans (add_le_add_left ((clamp_sub_le ..).trans (le_of_eq ?_)) 1)
  rw [← sub_mul, abs_mul, abs_of_nonneg hgain]

/--
**Between any two instants the lagoon power of a member changes by no more than three quarters
of its range for each period, and one.**
-/
theorem lagoon_never_jumps (h : Exact group runtime) (hvalid : runtime.validate = .ok runtime)
    (hlimits : effectiveLimits group runtime = .ok limits) {ceiling : ℚ}
    (hceiling : effectiveCeiling group runtime limits = .ok (fin ceiling))
    (hm : member ∈ group.members) {t₁ t₂ : ℚ} (ht : t₁ < t₂) :
    ∃ targets₁ targets₂ target₁ target₂,
      LagoonPattern.calculate units (fin t₁) group runtime = .ok targets₁
        ∧ LagoonPattern.calculate units (fin t₂) group runtime = .ok targets₂
        ∧ targets₁.get? member.device = some target₁
        ∧ targets₂.get? member.device = some target₂
        ∧ |(target₂.power.val : ℚ) - target₁.power.val|
          ≤ 0.75 * (ceiling - limits.minPower.val) * member.gain.value * (t₂ - t₁)
            / (effectivePeriod group runtime).value + 1 := by
  have hpattern : createPattern units .lagoon = .ok (LagoonPattern.calculate units) := rfl
  obtain ⟨targets₁, htargets₁⟩ := calculate_returns h hvalid hlimits hpattern t₁
  obtain ⟨targets₂, htargets₂⟩ := calculate_returns h hvalid hlimits hpattern t₂
  obtain ⟨target₁, hget₁, _, hpower₁⟩ := calculate_member h hvalid hlimits hpattern htargets₁ hm
  obtain ⟨target₂, hget₂, _, hpower₂⟩ := calculate_member h hvalid hlimits hpattern htargets₂ hm
  refine ⟨targets₁, targets₂, target₁, target₂, htargets₁, htargets₂, hget₁, hget₂, ?_⟩
  have hperiod := h.period_pos hvalid
  have hgain := member.gain_pos.le
  rw [effectiveCeiling_eq] at hceiling
  obtain rfl := PyFloat.fin.inj (Except.ok.inj hceiling)
  have hlower : (limits.minPower.val : ℚ) ≤ ceilingPower group runtime limits := by
    exact_mod_cast ceilingPower_mem.1
  -- the bound, as a slope over the cycles that have passed
  have hcycles : cycles t₂ group runtime - cycles t₁ group runtime
      = (t₂ - t₁) / (effectivePeriod group runtime).value := by
    unfold cycles
    rw [← sub_div, sub_sub_sub_cancel_right]
  have hpassed : cycles t₁ group runtime ≤ cycles t₂ group runtime := by
    rw [← sub_nonneg, hcycles]
    exact div_nonneg (sub_nonneg.mpr ht.le) hperiod.le
  have hbound : 0.75 * (ceilingPower group runtime limits - limits.minPower.val)
        * (cycles t₂ group runtime - cycles t₁ group runtime) * member.gain.value
      = 0.75 * ((ceilingPower group runtime limits : ℚ) - limits.minPower.val) * member.gain.value
        * (t₂ - t₁) / (effectivePeriod group runtime).value := by
    rw [hcycles]
    ring
  have hlevel := @lagoon_level_sub units group limits member (effectivePower group runtime).val _ _ _
    hlower hpassed
  have hcast : ∀ {target : DeviceTarget} {power : ℤ}, (target.power.val : ℤ) = power →
      (target.power.val : ℚ) = power := fun heq => by exact_mod_cast congrArg (Int.cast : ℤ → ℚ) heq
  rw [← hbound, hcast hpower₁, hcast hpower₂]
  by_cases hon : (isGroupEnabled group runtime && member.enabled) = true
  · rw [if_pos hon, if_pos hon]
    exact (memberPower_sub hgain _ _).trans
      (add_le_add_left (mul_le_mul_of_nonneg_right hlevel hgain) 1)
  · -- off at both instants
    rw [if_neg hon, if_neg hon, sub_self, abs_zero]
    have hslope := (abs_nonneg _).trans hlevel
    exact add_nonneg (mul_nonneg hslope hgain) zero_le_one

theorem lagoon_never_jumps_opposedPumps : ∃ targets₁ targets₂ target₁ target₂,
    LagoonPattern.calculate steadyUnits (fin 7) (opposedPumps .lagoon) {} = .ok targets₁
      ∧ LagoonPattern.calculate steadyUnits (fin 9) (opposedPumps .lagoon) {} = .ok targets₂
      ∧ targets₁.get? "left" = some target₁ ∧ targets₂.get? "left" = some target₂
      ∧ |(target₂.power.val : ℚ) - target₁.power.val| ≤ 0.75 * (70 - 35) * 1 * (9 - 7) / 8 + 1 :=
  @lagoon_never_jumps steadyUnits (opposedPumps .lagoon) {} _ _ (opposedPumps_exact .lagoon) rfl
    (rfl : effectiveLimits (opposedPumps .lagoon) {} = .ok ⟨_, _, by decide⟩) 70 (by rfl)
    List.mem_cons_self 7 9 (by norm_num)

end JebaoFlow
