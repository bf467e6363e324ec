import JebaoFlow.Lib.Dict
import JebaoFlow.Safety.Limits

/-!
# Protocol-neutral value objects

What the device adapter reports upwards and what the pattern calculator asks for.
Moments are microseconds since the epoch, the resolution of a `datetime`.

Dictionaries and scalars are compared the way the host compares them: a
dictionary without regard to order, `True` equal to `1`, a NaN equal to nothing.
-/

namespace JebaoFlow

/-- A `datetime`, in microseconds. -/
abbrev Datetime := ℤ

/-- A scalar of an observed attribute: `bool | int | float | str | None`. -/
inductive Scalar
  | null
  | bool (b : Bool)
  | int (i : ℤ)
  | float (x : PyFloat)
  | str (s : String)
  deriving DecidableEq

/-- The number behind a scalar: booleans count as `0` and `1`. -/
def Scalar.number? : Scalar → Option PyFloat
  | .bool b => some (.fin (if b then 1 else 0))
  | .int i => some (.fin i)
  | .float x => some x
  | _ => none

/-- `a == b`. -/
def Scalar.eq (a b : Scalar) : Bool :=
  match a.number?, b.number? with
  | some x, some y => x.eq y
  | none, none => decide (a = b)
  | _, _ => false

/-- `a == b` between dictionaries: the same keys, with equal values. -/
def Scalar.eqDict (a b : Dict String Scalar) : Bool :=
  a.entries.length == b.entries.length
    && a.entries.all (fun e => match b.get? e.1 with
      | some v => e.2.eq v
      | none => false)

theorem Scalar.eq_trans {a b c : Scalar} (hab : a.eq b = true) (hbc : b.eq c = true) :
    a.eq c = true := by
  unfold Scalar.eq at *
  cases ha : a.number? with
  | none =>
      cases hb : b.number? with
      | some y => simp [ha, hb] at hab
      | none =>
          cases hc : c.number? with
          | some z => simp [hb, hc] at hbc
          | none =>
              simp only [ha, hb, hc, decide_eq_true_eq] at hab hbc ⊢
              exact hab.trans hbc
  | some x =>
      cases hb : b.number? with
      | none => simp [ha, hb] at hab
      | some y =>
          cases hc : c.number? with
          | none => simp [hb, hc] at hbc
          | some z =>
              simp only [ha, hb, hc, PyFloat.eq_iff] at hab hbc ⊢
              exact ⟨hab.1.trans hbc.1, hab.2⟩

theorem Scalar.eqDict_trans {a b c : Dict String Scalar} (hab : Scalar.eqDict a b = true)
    (hbc : Scalar.eqDict b c = true) : Scalar.eqDict a c = true := by
  unfold Scalar.eqDict at *
  rw [Bool.and_eq_true, beq_iff_eq, List.all_eq_true] at *
  obtain ⟨hlen, hall⟩ := hab
  obtain ⟨hlen', hall'⟩ := hbc
  refine ⟨hlen.trans hlen', fun e he => ?_⟩
  have h := hall e he
  cases hb : b.get? e.1 with
  | none => rw [hb] at h; cases h
  | some v =>
      rw [hb] at h
      have h' := hall' (e.1, v) (Dict.get?_eq_some_iff.mp hb)
      cases hc : c.get? e.1 with
      | none => simp only [hc] at h'; cases h'
      | some w =>
          simp only [hc] at h'
          exact Scalar.eq_trans h h'

/-- One decoded timer slot. -/
structure ScheduleEntry where
  slot : Fin 48
  start : String
  «end» : String
  mode : String
  modeCode : Fin 256
  parameters : Dict String Scalar

structure DeviceSchedule where
  enabled : Bool
  deviceLocalTime : Option Datetime := none
  entries : List ScheduleEntry := []
  invalidSlots : List (Fin 48) := []

/-- Equality of two entries, field by field. -/
def ScheduleEntry.eq (a b : ScheduleEntry) : Bool :=
  a.slot == b.slot && a.start == b.start && a.end == b.end && a.mode == b.mode
    && a.modeCode == b.modeCode && Scalar.eqDict a.parameters b.parameters

/-- Equality of two entry tuples, position by position. -/
def ScheduleEntry.eqList : List ScheduleEntry → List ScheduleEntry → Bool
  | [], [] => true
  | a :: as, b :: bs => a.eq b && eqList as bs
  | _, _ => false

theorem ScheduleEntry.eq_trans {a b c : ScheduleEntry} (hab : a.eq b = true)
    (hbc : b.eq c = true) : a.eq c = true := by
  unfold ScheduleEntry.eq at *
  simp only [Bool.and_eq_true, beq_iff_eq] at *
  obtain ⟨⟨⟨⟨⟨hslot, hstart⟩, hend⟩, hmode⟩, hcode⟩, hparameters⟩ := hab
  obtain ⟨⟨⟨⟨⟨hslot', hstart'⟩, hend'⟩, hmode'⟩, hcode'⟩, hparameters'⟩ := hbc
  exact ⟨⟨⟨⟨⟨hslot.trans hslot', hstart.trans hstart'⟩, hend.trans hend'⟩, hmode.trans hmode'⟩,
    hcode.trans hcode'⟩, Scalar.eqDict_trans hparameters hparameters'⟩

theorem ScheduleEntry.eqList_trans : ∀ {as bs cs : List ScheduleEntry},
    ScheduleEntry.eqList as bs = true → ScheduleEntry.eqList bs cs = true →
      ScheduleEntry.eqList as cs = true
  | [], [], [], _, _ => rfl
  | a :: as, b :: bs, c :: cs, hab, hbc => by
      rw [ScheduleEntry.eqList, Bool.and_eq_true] at *
      exact ⟨ScheduleEntry.eq_trans hab.1 hbc.1, ScheduleEntry.eqList_trans hab.2 hbc.2⟩
  | [], b :: bs, _, hab, _ => by cases hab
  | a :: as, [], _, hab, _ => by cases hab
  | _, b :: bs, [], _, hbc => by cases hbc
  | _, [], c :: cs, _, hbc => by cases hbc

/-- One successful read of a device. -/
structure DeviceState where
  enabled : Bool
  power : Percent
  mode : String := "constant"
  frequency : Option Percent := none
  error : Option String := none
  schedule : Option DeviceSchedule := none
  observedAttributes : Dict String Scalar := Dict.empty
  observedAt : Datetime

/-- The desired output of one device. -/
structure DeviceTarget where
  enabled : Bool := true
  power : Percent
  mode : Option String := none
  frequency : Option Percent := none
  deriving DecidableEq

/-- The range validator of `DeviceTarget.power`. -/
def DeviceTarget.validate (enabled : Bool) (power : ℤ) : Except PyError DeviceTarget :=
  if h : 0 ≤ power ∧ power ≤ 100 then
    .ok { enabled, power := ⟨power.toNat, by omega⟩ }
  else .error (.validationError "power: Input should be between 0 and 100")

theorem DeviceTarget.validate_nat (enabled : Bool) {power : ℕ} (h : power ≤ 100) :
    DeviceTarget.validate enabled (power : ℤ) = .ok { enabled, power := ⟨power, h⟩ } := by
  unfold DeviceTarget.validate
  rw [dif_pos ⟨Int.natCast_nonneg _, by omega⟩]
  rfl

end JebaoFlow
