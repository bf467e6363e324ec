import Mathlib.Data.Rat.Floor
import Mathlib.Tactic.NormNum
import Mathlib.Tactic.Linarith

/-!
# Python numbers and exceptions

The two pieces of the host language the models below cannot do without.

`PyError` names the built-in exceptions by class and text. `PyFloat` is a Python
`float` computed without rounding: a rational, one of the two infinities, or a
NaN. The comparisons follow the language, so every comparison with a NaN is
false; that is what makes `min` and `max` depend on the order of their arguments.
A range check holds of what it accepts, so no NaN is in a range.
-/

/-- The built-in exceptions, and the validation error of the model classes. -/
inductive PyError
  | keyError (message : String)
  | indexError (message : String)
  | typeError (message : String)
  | valueError (message : String)
  | overflowError (message : String)
  | assertionError (message : String)
  | notImplementedError (message : String)
  | stopIteration
  | validationError (message : String)
  deriving DecidableEq, Repr

/-- A sequence of calls that returned did so call by call. -/
theorem PyError.bind_eq_ok {α β : Type} {x : Except PyError α} {f : α → Except PyError β} {b : β}
    (h : (x >>= f) = .ok b) : ∃ a, x = .ok a ∧ f a = .ok b := by
  cases x with
  | error e => exact Except.noConfusion rfl rfl (heq_of_eq h)
  | ok a => exact ⟨a, rfl, h⟩

theorem PyError.bind_of_ok {α β : Type} {x : Except PyError α} {f : α → Except PyError β} {a : α}
    (h : x = .ok a) : (x >>= f) = f a := by
  rw [h]
  rfl

theorem PyError.bind_of_error {α β : Type} {x : Except PyError α} {f : α → Except PyError β}
    {e : PyError} (h : x = .error e) : (x >>= f) = .error e := by
  rw [h]
  rfl

theorem PyError.toOption_eq_some {α : Type} {x : Except PyError α} {a : α}
    (h : x.toOption = some a) : x = .ok a := by
  cases x with
  | error e => cases h
  | ok b => cases h; rfl

/-- `round(x)`: to the nearest integer, and to the even one from halfway. -/
def pyRound (x : ℚ) : ℤ :=
  let lower := ⌊x⌋
  if x - lower < 1 / 2 then lower
  else if 1 / 2 < x - lower then lower + 1
  else if lower % 2 = 0 then lower
  else lower + 1

theorem pyRound_cases (x : ℚ) : pyRound x = ⌊x⌋ ∨ pyRound x = ⌊x⌋ + 1 ∧ (⌊x⌋ : ℚ) < x := by
  unfold pyRound
  dsimp only
  split
  · exact Or.inl rfl
  rename_i hhalf
  have hlt : (⌊x⌋ : ℚ) < x := by linarith
  split
  · exact Or.inr ⟨rfl, hlt⟩
  split
  · exact Or.inl rfl
  · exact Or.inr ⟨rfl, hlt⟩

/-- Rounding does not leave a range of integers. -/
theorem le_pyRound {a : ℤ} {x : ℚ} (h : (a : ℚ) ≤ x) : a ≤ pyRound x := by
  have hfloor : a ≤ ⌊x⌋ := Int.le_floor.mpr h
  rcases pyRound_cases x with heq | ⟨heq, _⟩ <;> omega

theorem pyRound_le {b : ℤ} {x : ℚ} (h : x ≤ b) : pyRound x ≤ b := by
  rcases pyRound_cases x with heq | ⟨heq, hlt⟩
  · rw [heq]
    exact Int.cast_le.mp ((Int.floor_le x).trans h)
  · rw [heq]
    exact Int.add_one_le_iff.mpr (Int.cast_lt.mp (hlt.trans_le h))

/-- A `float`, computed exactly. -/
inductive PyFloat
  | fin (q : ℚ)
  | inf (negative : Bool)
  | nan
  deriving DecidableEq, Repr

namespace PyFloat

/-! ## Arithmetic -/

def neg : PyFloat → PyFloat
  | fin q => fin (-q)
  | inf s => inf (!s)
  | nan => nan

def add : PyFloat → PyFloat → PyFloat
  | fin a, fin b => fin (a + b)
  | fin _, inf s => inf s
  | inf s, fin _ => inf s
  | inf s, inf t => if s = t then inf s else nan
  | _, _ => nan

def mul : PyFloat → PyFloat → PyFloat
  | fin a, fin b => fin (a * b)
  | fin a, inf s => if a = 0 then nan else inf (xor s (decide (a < 0)))
  | inf s, fin a => if a = 0 then nan else inf (xor s (decide (a < 0)))
  | inf s, inf t => inf (xor s t)
  | _, _ => nan

/-- Division. Python raises on a zero divisor; callers here only divide by positive numbers. -/
def div : PyFloat → PyFloat → PyFloat
  | fin a, fin b => if b = 0 then nan else fin (a / b)
  | fin _, inf _ => fin 0
  | inf s, fin b => if b = 0 then nan else inf (xor s (decide (b < 0)))
  | _, _ => nan

instance : Add PyFloat := ⟨add⟩
instance : Sub PyFloat := ⟨fun a b => add a (neg b)⟩
instance : Mul PyFloat := ⟨mul⟩
instance : Div PyFloat := ⟨div⟩

/-- `x % m` for a positive `m`: the result has the sign of `m`. -/
def mod : PyFloat → ℚ → PyFloat
  | fin q, m => fin (q - m * ⌊q / m⌋)
  | _, _ => nan

@[simp] theorem fin_add (a b : ℚ) : fin a + fin b = fin (a + b) := rfl
@[simp] theorem fin_sub (a b : ℚ) : fin a - fin b = fin (a - b) := by
  show fin (a + -b) = fin (a - b); rw [sub_eq_add_neg]
@[simp] theorem fin_mul (a b : ℚ) : fin a * fin b = fin (a * b) := rfl
theorem fin_div {a b : ℚ} (h : b ≠ 0) : fin a / fin b = fin (a / b) := by
  show (if b = 0 then nan else fin (a / b)) = fin (a / b); rw [if_neg h]

/-! ## Comparison -/

/-- `a < b`; false as soon as one side is a NaN. -/
def lt : PyFloat → PyFloat → Bool
  | fin a, fin b => decide (a < b)
  | fin _, inf s => !s
  | inf s, fin _ => s
  | inf s, inf t => s && !t
  | _, _ => false

/-- `a <= b`; false as soon as one side is a NaN. -/
def le : PyFloat → PyFloat → Bool
  | fin a, fin b => decide (a ≤ b)
  | fin _, inf s => !s
  | inf s, fin _ => s
  | inf s, inf t => s || !t
  | _, _ => false

/-- `a == b`; false as soon as one side is a NaN. -/
def eq (a b : PyFloat) : Bool := a.le b && b.le a

@[simp] theorem fin_lt (a b : ℚ) : (fin a).lt (fin b) = decide (a < b) := rfl
@[simp] theorem fin_le (a b : ℚ) : (fin a).le (fin b) = decide (a ≤ b) := rfl

theorem le_of_lt {a b : PyFloat} (h : a.lt b = true) : a.le b = true := by
  cases a with
  | fin x =>
      cases b with
      | fin y => exact decide_eq_true (of_decide_eq_true h).le
      | inf s => exact h
      | nan => cases h
  | inf s =>
      cases b with
      | fin y => exact h
      | inf t => cases s <;> cases t <;> first | rfl | cases h
      | nan => cases h
  | nan => cases h

/-- What is between two numbers is a number. -/
theorem fin_of_between {a b : ℚ} {x : PyFloat} (ha : (fin a).le x = true) (hb : x.le (fin b) = true) :
    ∃ q, x = fin q ∧ a ≤ q ∧ q ≤ b := by
  cases x with
  | fin q => exact ⟨q, rfl, of_decide_eq_true ha, of_decide_eq_true hb⟩
  | inf s =>
      cases s with
      | false => cases hb
      | true => cases ha
  | nan => cases ha

/-- A NaN is equal to nothing, and every other number to itself. -/
theorem eq_iff {a b : PyFloat} : a.eq b = true ↔ a = b ∧ a ≠ nan := by
  cases a with
  | fin x =>
      cases b with
      | fin y => simp [eq, ← le_antisymm_iff]
      | inf s => cases s <;> simp [eq, le]
      | nan => simp [eq, le]
  | inf s =>
      cases b with
      | fin y => cases s <;> simp [eq, le]
      | inf t => cases s <;> cases t <;> simp [eq, le]
      | nan => simp [eq, le]
  | nan => cases b <;> simp [eq, le]

/-- `min(a, b)`: the first argument unless the second is strictly smaller. -/
def pyMin (a b : PyFloat) : PyFloat := if b.lt a then b else a

/-- `max(a, b)`: the first argument unless the second is strictly greater. -/
def pyMax (a b : PyFloat) : PyFloat := if a.lt b then b else a

/-- Neither infinite nor a NaN. -/
def isFinite : PyFloat → Bool
  | fin _ => true
  | _ => false

theorem isFinite_iff {x : PyFloat} : x.isFinite = true ↔ ∃ q, x = fin q := by
  cases x with
  | fin q => simp [isFinite]
  | inf s => simp [isFinite]
  | nan => simp [isFinite]

theorem pyMin_fin (a b : ℚ) : pyMin (fin a) (fin b) = fin (min a b) := by
  unfold pyMin
  rw [fin_lt]
  rcases lt_or_ge b a with h | h
  · rw [decide_eq_true h, if_pos rfl, min_eq_right h.le]
  · rw [decide_eq_false (not_lt.mpr h), if_neg Bool.false_ne_true, min_eq_left h]

theorem pyMax_fin (a b : ℚ) : pyMax (fin a) (fin b) = fin (max a b) := by
  unfold pyMax
  rw [fin_lt]
  rcases lt_or_ge a b with h | h
  · rw [decide_eq_true h, if_pos rfl, max_eq_right h.le]
  · rw [decide_eq_false (not_lt.mpr h), if_neg Bool.false_ne_true, max_eq_left h]

/-- The number a finite float is. -/
def value : PyFloat → ℚ
  | fin q => q
  | _ => 0

theorem eq_fin {x : PyFloat} (h : x.isFinite = true) : x = fin x.value := by
  obtain ⟨q, rfl⟩ := isFinite_iff.mp h
  rfl

theorem mod_one (q : ℚ) : (fin q).mod 1 = fin (Int.fract q) := by
  show fin (q - 1 * ⌊q / 1⌋) = fin (q - ⌊q⌋)
  rw [div_one, one_mul]

/-! ## Conversion to integers -/

/-- `math.floor(x)`. -/
def floor : PyFloat → Except PyError ℤ
  | fin q => .ok ⌊q⌋
  | inf _ => .error (.overflowError "cannot convert float infinity to integer")
  | nan => .error (.valueError "cannot convert float NaN to integer")

theorem floor_fin (q : ℚ) : (fin q).floor = .ok ⌊q⌋ := rfl

/-- `int(x)`, rounding towards zero. -/
def toInt : PyFloat → Except PyError ℤ
  | fin q => .ok (if 0 ≤ q then ⌊q⌋ else ⌈q⌉)
  | inf _ => .error (.overflowError "cannot convert float infinity to integer")
  | nan => .error (.valueError "cannot convert float NaN to integer")

/-- `round(x)`. -/
def round : PyFloat → Except PyError ℤ
  | fin q => .ok (pyRound q)
  | inf _ => .error (.overflowError "cannot convert float infinity to integer")
  | nan => .error (.valueError "cannot convert float NaN to integer")

/-- Clamping with `max(lo, min(x, hi))` lands between the bounds, whatever `x` is. -/
theorem clamp_mem {lo hi : ℚ} (h : lo ≤ hi) (x : PyFloat) :
    ∃ q, pyMax (fin lo) (pyMin x (fin hi)) = fin q ∧ lo ≤ q ∧ q ≤ hi := by
  cases x with
  | fin a =>
      unfold pyMin
      rw [fin_lt]
      by_cases ha : hi < a
      · rw [decide_eq_true ha, if_pos rfl, pyMax, fin_lt]
        by_cases hl : lo < hi
        · exact ⟨hi, by rw [decide_eq_true hl, if_pos rfl], h, le_refl _⟩
        · exact ⟨lo, by rw [decide_eq_false hl, if_neg Bool.false_ne_true], le_refl _, h⟩
      · rw [decide_eq_false ha, if_neg Bool.false_ne_true, pyMax, fin_lt]
        by_cases hl : lo < a
        · exact ⟨a, by rw [decide_eq_true hl, if_pos rfl], hl.le, not_lt.mp ha⟩
        · exact ⟨lo, by rw [decide_eq_false hl, if_neg Bool.false_ne_true], le_refl _, h⟩
  | inf s =>
      cases s with
      | false =>
          have hmin : pyMin (inf false) (fin hi) = fin hi := rfl
          rw [hmin, pyMax, fin_lt]
          by_cases hl : lo < hi
          · exact ⟨hi, by rw [decide_eq_true hl, if_pos rfl], h, le_refl _⟩
          · exact ⟨lo, by rw [decide_eq_false hl, if_neg Bool.false_ne_true], le_refl _, h⟩
      | true => exact ⟨lo, rfl, le_refl _, h⟩
  | nan => exact ⟨lo, rfl, le_refl _, h⟩

end PyFloat
