import JebaoFlow.Lib.Python

/-!
# Output limits

`PowerLimits`, `clamp` and `clamp_enabled_power`. A disabled output is exactly
zero; an enabled one is rounded half-up after clamping, and since the bounds are
integers the rounding cannot leave them.
-/

namespace JebaoFlow

open PyFloat

/-- An integer field declared with `ge=0, le=100`. -/
abbrev Percent := { n : ℕ // n ≤ 100 }

/-- A percentage written as a number, cut at a hundred. -/
instance (n : ℕ) : OfNat Percent n := ⟨⟨min n 100, Nat.min_le_right n 100⟩⟩

theorem percent_toNat {value : ℤ} (h : 0 ≤ value ∧ value ≤ 100) : value.toNat ≤ 100 := by
  omega

/-- A validated pair of output limits. -/
structure PowerLimits where
  minPower : Percent
  maxPower : Percent
  range : minPower.val ≤ maxPower.val
  deriving DecidableEq

/-- The model validator: both bounds are percentages and the lower one is not the greater. -/
def PowerLimits.validate (minPower maxPower : Percent) : Except PyError PowerLimits :=
  if h : minPower.val ≤ maxPower.val then .ok ⟨minPower, maxPower, h⟩
  else .error (.validationError "min_power must not exceed max_power")

def clamp (value lower upper : PyFloat) : Except PyError PyFloat :=
  if upper.lt lower then .error (.valueError "lower limit must not exceed upper limit")
  else .ok (pyMax lower (pyMin value upper))

def clampEnabledPower (value : PyFloat) (limits : PowerLimits) (enabled : Bool) :
    Except PyError ℤ :=
  if !enabled then .ok 0
  else do
    let bounded ← clamp value (fin limits.minPower.val) (fin limits.maxPower.val)
    (bounded + fin 0.5).toInt

/-- Between the limits, both included. -/
def PowerLimits.Contains (limits : PowerLimits) (power : ℕ) : Prop :=
  limits.minPower.val ≤ power ∧ power ≤ limits.maxPower.val

instance (limits : PowerLimits) (power : ℕ) : Decidable (limits.Contains power) :=
  inferInstanceAs (Decidable (_ ∧ _))

theorem PowerLimits.cast_range (limits : PowerLimits) :
    (limits.minPower.val : ℚ) ≤ (limits.maxPower.val : ℚ) := by
  exact_mod_cast limits.range

/-- `clamp` between the bounds of validated limits never raises. -/
theorem clamp_limits (limits : PowerLimits) (value : PyFloat) :
    ∃ q : ℚ, clamp value (fin limits.minPower.val) (fin limits.maxPower.val) = .ok (fin q)
      ∧ (limits.minPower.val : ℚ) ≤ q ∧ q ≤ (limits.maxPower.val : ℚ) := by
  obtain ⟨q, hq, hlo, hhi⟩ := clamp_mem limits.cast_range value
  refine ⟨q, ?_, hlo, hhi⟩
  have hle : (fin (limits.maxPower.val : ℚ)).lt (fin (limits.minPower.val : ℚ)) = false := by
    rw [fin_lt, decide_eq_false (not_lt.mpr limits.cast_range)]
  unfold clamp
  rw [hle, hq]
  rfl

theorem clampEnabledPower_disabled (value : PyFloat) (limits : PowerLimits) :
    clampEnabledPower value limits false = .ok 0 := rfl

/-- Half-up rounding of a value between two integers stays between them. -/
theorem floor_half_mem {lo hi : ℕ} {q : ℚ} (hlo : (lo : ℚ) ≤ q) (hhi : q ≤ (hi : ℚ)) :
    (lo : ℤ) ≤ ⌊q + 0.5⌋ ∧ ⌊q + 0.5⌋ ≤ (hi : ℤ) := by
  constructor
  · rw [Int.le_floor]; push_cast; linarith
  · have h : ⌊q + 0.5⌋ < (hi : ℤ) + 1 := by
      rw [Int.floor_lt]; push_cast; linarith
    omega

/-- **An enabled output is an integer within its limits.** -/
theorem clampEnabledPower_enabled (value : PyFloat) (limits : PowerLimits) :
    ∃ power : ℕ, clampEnabledPower value limits true = .ok (power : ℤ) ∧ limits.Contains power := by
  obtain ⟨q, hq, hlo, hhi⟩ := clamp_limits limits value
  obtain ⟨h1, h2⟩ := floor_half_mem hlo hhi
  have hpos : (0 : ℚ) ≤ q + 0.5 := by
    have : (0 : ℚ) ≤ (limits.minPower.val : ℚ) := Nat.cast_nonneg _
    linarith
  obtain ⟨power, hpower⟩ := Int.eq_ofNat_of_zero_le (le_trans (Int.natCast_nonneg _) h1)
  refine ⟨power, ?_, by omega, by omega⟩
  have htoInt : (fin q + fin 0.5).toInt = .ok (power : ℤ) := by
    rw [fin_add, toInt, if_pos hpos, hpower]
  have hbind : clampEnabledPower value limits true
      = (clamp value (fin limits.minPower.val) (fin limits.maxPower.val)
          >>= fun bounded => (bounded + fin 0.5).toInt) := rfl
  rw [hbind, hq]
  exact htoInt

end JebaoFlow
