import Mathlib.Algebra.Order.Group.MinMax
import Mathlib.Algebra.Order.Round
import Mathlib.Tactic.Linarith
import Mathlib.Tactic.Ring

/-!
# Waves

Periodic and random envelopes as functions of the number of cycles that have passed, over
any ordered field with a floor: square waves, values mixed between two levels, and samples
joined by the cubic `x² (3 - 2x)`. A wave whose slope is bounded on every cycle has that
bound over any number of cycles, and clamping and rounding add one to it at most.
-/

namespace Waves

variable {α : Type*} [Field α]

/-! ## Mixing and the cubic -/

/-- The level a fraction `u` of the way from `lower` to `upper`. -/
def mix (lower upper u : α) : α := lower + (upper - lower) * u

/-- Mixing stretches differences by the distance of the levels. -/
theorem mix_sub (lower upper u v : α) :
    mix lower upper u - mix lower upper v = (upper - lower) * (u - v) := by
  unfold mix
  ring

def smoothstep (x : α) : α := x * x * (3 - 2 * x)

theorem smoothstep_zero : smoothstep (0 : α) = 0 := by
  unfold smoothstep
  ring

theorem smoothstep_one : smoothstep (1 : α) = 1 := by
  unfold smoothstep
  ring

variable [LinearOrder α] [IsStrictOrderedRing α]

theorem mix_mem {lower upper u : α} (h : lower ≤ upper) (hu : 0 ≤ u ∧ u ≤ 1) :
    lower ≤ mix lower upper u ∧ mix lower upper u ≤ upper := by
  have hgap : 0 ≤ upper - lower := sub_nonneg.mpr h
  have hlow : 0 ≤ (upper - lower) * u := mul_nonneg hgap hu.1
  have hhigh : (upper - lower) * u ≤ (upper - lower) * 1 := mul_le_mul_of_nonneg_left hu.2 hgap
  unfold mix
  constructor
  · linarith
  · linarith

theorem mix_mono {lower upper u v : α} (h : lower ≤ upper) (huv : u ≤ v) :
    mix lower upper u ≤ mix lower upper v := by
  have hgap : 0 ≤ upper - lower := sub_nonneg.mpr h
  unfold mix
  exact add_le_add_right (mul_le_mul_of_nonneg_left huv hgap) lower

/-- The slope of the cubic is nowhere negative and at most `3 / 2`, in the middle. -/
theorem smoothstep_slope {x y : α} (hx : 0 ≤ x) (hxy : x ≤ y) (hy : y ≤ 1) :
    0 ≤ smoothstep y - smoothstep x ∧ smoothstep y - smoothstep x ≤ 3 / 2 * (y - x) := by
  have hfactor : smoothstep y - smoothstep x
      = (y - x) * (3 * (x + y) - 2 * (x * x + x * y + y * y)) := by
    unfold smoothstep
    ring
  have hgap : 0 ≤ y - x := sub_nonneg.mpr hxy
  have hlow : 0 ≤ 3 * (x + y) - 2 * (x * x + x * y + y * y) := by
    have hxx : 0 ≤ x * (1 - x) := mul_nonneg hx (by linarith)
    have hyy : 0 ≤ y * (1 - y) := mul_nonneg (hx.trans hxy) (by linarith)
    have hxy' : 0 ≤ x * (1 - y) := mul_nonneg hx (by linarith)
    have hyx : 0 ≤ y * (1 - x) := mul_nonneg (hx.trans hxy) (by linarith)
    linarith
  have hhigh : 3 * (x + y) - 2 * (x * x + x * y + y * y) ≤ 3 / 2 := by
    -- the distance to the middle, in squares
    have hx2 : 0 ≤ (x - 1 / 2) * (x - 1 / 2) := mul_self_nonneg _
    have hy2 : 0 ≤ (y - 1 / 2) * (y - 1 / 2) := mul_self_nonneg _
    have hsum : 0 ≤ (x + y - 1) * (x + y - 1) := mul_self_nonneg _
    linarith
  rw [hfactor]
  constructor
  · exact mul_nonneg hgap hlow
  · rw [mul_comm]
    exact mul_le_mul_of_nonneg_right hhigh hgap

theorem smoothstep_mem {x : α} (h : 0 ≤ x ∧ x ≤ 1) : 0 ≤ smoothstep x ∧ smoothstep x ≤ 1 := by
  have hfront := (smoothstep_slope le_rfl h.1 h.2).1
  have hback := (smoothstep_slope h.1 h.2 le_rfl).1
  rw [smoothstep_zero] at hfront
  rw [smoothstep_one] at hback
  exact ⟨by linarith, by linarith⟩

/-! ## Clamping -/

/-- Clamping brings values no further apart. -/
theorem clamp_sub_le (lower upper x y : α) :
    |max lower (min x upper) - max lower (min y upper)| ≤ |x - y| := by
  have hmax := abs_max_sub_max_le_max lower (min x upper) lower (min y upper)
  have hmin := abs_min_sub_min_le_max x upper y upper
  rw [sub_self, abs_zero] at hmax hmin
  exact hmax.trans (max_le (abs_nonneg _) (hmin.trans (max_le le_rfl (abs_nonneg _))))

variable [FloorRing α]

/-! ## Square waves -/

/-- The first half of a cycle, its start included. -/
def FirstHalf (cycles : α) : Prop := Int.fract cycles < 1 / 2

instance (cycles : α) : Decidable (FirstHalf cycles) := inferInstanceAs (Decidable (_ < _))

theorem firstHalf_add_intCast (cycles : α) (k : ℤ) : FirstHalf (cycles + k) ↔ FirstHalf cycles := by
  unfold FirstHalf
  rw [Int.fract_add_intCast]

/-- **Half a cycle apart, one is in its first half and the other is not.** -/
theorem firstHalf_add_half (cycles : α) : FirstHalf (cycles + 1 / 2) ↔ ¬ FirstHalf cycles := by
  unfold FirstHalf
  have hlow := Int.fract_nonneg cycles
  have hhigh := Int.fract_lt_one cycles
  have hsplit : cycles + 1 / 2 = Int.fract cycles + 1 / 2 + ⌊cycles⌋ := by
    have hparts := Int.fract_add_floor cycles
    linarith
  rw [hsplit, Int.fract_add_intCast]
  by_cases hfirst : Int.fract cycles < 1 / 2
  · have hself : Int.fract (Int.fract cycles + 1 / 2) = Int.fract cycles + 1 / 2 :=
      Int.fract_eq_self.mpr ⟨by linarith, by linarith⟩
    rw [hself]
    exact iff_of_false (by linarith) (not_not.mpr hfirst)
  · have hwrapped : Int.fract (Int.fract cycles + 1 / 2) = Int.fract cycles + 1 / 2 - 1 := by
      refine Int.fract_eq_iff.mpr ⟨by linarith, by linarith, 1, ?_⟩
      push_cast
      ring
    rw [hwrapped]
    exact iff_of_true (by linarith) hfirst

/-! ## Samples joined by the cubic -/

/-- One sample for each cycle, and the cubic from each to the next. -/
def interpolate (samples : ℤ → α) (cycles : α) : α :=
  mix (samples ⌊cycles⌋) (samples (⌊cycles⌋ + 1)) (smoothstep (Int.fract cycles))

/-- Within a cycle, both of its ends included, it is one piece of the cubic. -/
theorem interpolate_step (samples : ℤ → α) {n : ℤ} {x : α} (hlow : (n : α) ≤ x) (hhigh : x ≤ n + 1) :
    interpolate samples x = mix (samples n) (samples (n + 1)) (smoothstep (x - n)) := by
  unfold interpolate
  rcases lt_or_eq_of_le hhigh with hlt | rfl
  · have hfloor : ⌊x⌋ = n := Int.floor_eq_iff.mpr ⟨hlow, hlt⟩
    unfold Int.fract
    rw [hfloor]
  · -- the end of this piece is the start of the next one
    have hfloor : ⌊(n : α) + 1⌋ = n + 1 := by
      rw [← Int.cast_one, ← Int.cast_add, Int.floor_intCast]
    have hfract : Int.fract ((n : α) + 1) = 0 := by
      rw [← Int.cast_one, ← Int.cast_add, Int.fract_intCast]
    rw [hfloor, hfract, smoothstep_zero, add_sub_cancel_left, smoothstep_one]
    unfold mix
    ring

theorem interpolate_mem {samples : ℤ → α} (h : ∀ n, 0 ≤ samples n ∧ samples n ≤ 1) (x : α) :
    0 ≤ interpolate samples x ∧ interpolate samples x ≤ 1 := by
  have hblend := smoothstep_mem ⟨Int.fract_nonneg x, (Int.fract_lt_one x).le⟩
  obtain ⟨ha, ha'⟩ := h ⌊x⌋
  obtain ⟨hb, hb'⟩ := h (⌊x⌋ + 1)
  -- a mixture of the two samples, whichever is the greater
  have hparts : interpolate samples x = (1 - smoothstep (Int.fract x)) * samples ⌊x⌋
      + smoothstep (Int.fract x) * samples (⌊x⌋ + 1) := by
    unfold interpolate mix
    ring
  have hleft : 0 ≤ 1 - smoothstep (Int.fract x) := by linarith [hblend.2]
  rw [hparts]
  constructor
  · exact add_nonneg (mul_nonneg hleft ha) (mul_nonneg hblend.1 hb)
  · calc (1 - smoothstep (Int.fract x)) * samples ⌊x⌋
          + smoothstep (Int.fract x) * samples (⌊x⌋ + 1)
        ≤ (1 - smoothstep (Int.fract x)) * 1 + smoothstep (Int.fract x) * 1 :=
          add_le_add (mul_le_mul_of_nonneg_left ha' hleft)
            (mul_le_mul_of_nonneg_left hb' hblend.1)
      _ = 1 := by ring

/-- **The slope within one cycle is at most `3 / 2`.** -/
theorem interpolate_slope {samples : ℤ → α} (h : ∀ n, 0 ≤ samples n ∧ samples n ≤ 1) {n : ℤ}
    {x y : α} (hx : (n : α) ≤ x) (hxy : x ≤ y) (hy : y ≤ n + 1) :
    |interpolate samples y - interpolate samples x| ≤ 3 / 2 * (y - x) := by
  obtain ⟨hlow, hhigh⟩ := @smoothstep_slope α _ _ _ (x - n) (y - n) (by linarith) (by linarith)
    (by linarith)
  have hsamples : |samples (n + 1) - samples n| ≤ 1 := by
    rw [abs_le]
    constructor
    · linarith [(h n).2, (h (n + 1)).1]
    · linarith [(h n).1, (h (n + 1)).2]
  have hgap : y - n - (x - n) = y - x := by ring
  rw [hgap] at hhigh
  rw [interpolate_step samples hx (hxy.trans hy), interpolate_step samples (hx.trans hxy) hy, mix_sub,
    abs_mul, abs_of_nonneg hlow]
  calc |samples (n + 1) - samples n| * (smoothstep (y - n) - smoothstep (x - n))
      ≤ 1 * (smoothstep (y - n) - smoothstep (x - n)) := mul_le_mul_of_nonneg_right hsamples hlow
    _ = smoothstep (y - n) - smoothstep (x - n) := one_mul _
    _ ≤ 3 / 2 * (y - x) := hhigh

/-! ## From cycle to cycle -/

/--
**A slope that is bounded on every cycle is bounded everywhere.**

By induction on the number of cycle boundaries between the two points.
-/
theorem slope_of_cycles {f : α → α} {K : α}
    (h : ∀ (n : ℤ) (x y : α), (n : α) ≤ x → x ≤ y → y ≤ n + 1 → |f y - f x| ≤ K * (y - x)) :
    ∀ {x y : α}, x ≤ y → |f y - f x| ≤ K * (y - x) := by
  have hrun : ∀ (boundaries : ℕ) (x y : α), x ≤ y → ⌊y⌋ = ⌊x⌋ + boundaries →
      |f y - f x| ≤ K * (y - x) := by
    intro boundaries
    induction boundaries with
    | zero =>
        intro x y hxy hfloor
        refine h ⌊x⌋ x y (Int.floor_le x) hxy ?_
        have hlt := Int.lt_floor_add_one y
        rw [hfloor, Nat.cast_zero, add_zero] at hlt
        exact hlt.le
    | succ boundaries ih =>
        intro x y hxy hfloor
        -- through the first boundary behind `x`
        have hnext : x ≤ ((⌊x⌋ + 1 : ℤ) : α) := by
          push_cast
          exact (Int.lt_floor_add_one x).le
        have hbefore : ((⌊x⌋ + 1 : ℤ) : α) ≤ y := by
          rw [← Int.le_floor, hfloor]
          push_cast
          linarith [(Nat.cast_nonneg boundaries : (0 : ℤ) ≤ boundaries)]
        have hfirst := h ⌊x⌋ x _ (Int.floor_le x) hnext (by push_cast; exact le_rfl)
        have hrest := ih _ y hbefore (by rw [Int.floor_intCast, hfloor]; push_cast; ring)
        calc |f y - f x|
            ≤ |f y - f ((⌊x⌋ + 1 : ℤ) : α)| + |f ((⌊x⌋ + 1 : ℤ) : α) - f x| := abs_sub_le ..
          _ ≤ K * (y - ((⌊x⌋ + 1 : ℤ) : α)) + K * (((⌊x⌋ + 1 : ℤ) : α) - x) := add_le_add hrest hfirst
          _ = K * (y - x) := by ring
  intro x y hxy
  have hmono : ⌊x⌋ ≤ ⌊y⌋ := Int.floor_mono hxy
  exact hrun (⌊y⌋ - ⌊x⌋).toNat x y hxy (by omega)

/-- **Samples joined by the cubic never change faster than `3 / 2` a cycle.** -/
theorem interpolate_lipschitz {samples : ℤ → α} (h : ∀ n, 0 ≤ samples n ∧ samples n ≤ 1) {x y : α}
    (hxy : x ≤ y) : |interpolate samples y - interpolate samples x| ≤ 3 / 2 * (y - x) :=
  slope_of_cycles (fun _ _ _ => interpolate_slope h) hxy

/-! ## Rounding -/

theorem round_le {x : α} {n : ℤ} (h : x ≤ n) : round x ≤ n := by
  have hlt : x + 1 / 2 < ((n + 1 : ℤ) : α) := by
    push_cast
    linarith
  rw [round_eq]
  exact Int.lt_add_one_iff.mp (Int.floor_lt.mpr hlt)

/-- Rounding brings values further apart by one at most. -/
theorem round_sub_le (x y : α) : |(round x : α) - round y| ≤ |x - y| + 1 := by
  have hx := abs_sub_round x
  have hy := abs_sub_round y
  calc |(round x : α) - round y|
      = |(x - y) - (x - round x) + (y - round y)| := by ring_nf
    _ ≤ |(x - y) - (x - round x)| + |y - round y| := abs_add_le ..
    _ ≤ (|x - y| + |x - round x|) + |y - round y| := by
        have hsub := abs_sub (x - y) (x - round x)
        linarith
    _ ≤ |x - y| + 1 := by linarith

end Waves
