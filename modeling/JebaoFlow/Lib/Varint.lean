import Mathlib.Data.Nat.Bitwise
import JebaoFlow.Lib.Bytes

/-!
# Base-128 numbers

A number written in groups of seven bits, lowest first, where every byte but the
last carries a continuation bit. The numbers are prefix-free: where a terminated
string ends inside a longer one is read off its own bytes.
-/

namespace Bytes

/-- Every byte but the last continues, and the last does not. -/
def Terminated : Bytes → Prop
  | [] => False
  | [last] => last.toNat < 128
  | byte :: bytes => 128 ≤ byte.toNat ∧ Terminated bytes

/-- The number the groups of seven bits spell, lowest first; padding with zero groups is free. -/
def base128 : Bytes → ℕ
  | [] => 0
  | byte :: bytes => byte.toNat % 128 + 128 * base128 bytes

theorem Terminated.ne_nil {bytes : Bytes} (h : Terminated bytes) : bytes ≠ [] := by
  rintro rfl
  exact h

theorem terminated_cons_iff {byte : UInt8} {bytes : Bytes} :
    Terminated (byte :: bytes)
      ↔ (byte.toNat < 128 ∧ bytes = []) ∨ (128 ≤ byte.toNat ∧ Terminated bytes) := by
  cases bytes with
  | nil =>
      refine ⟨fun h => Or.inl ⟨h, rfl⟩, ?_⟩
      rintro (⟨h, _⟩ | ⟨_, h⟩)
      · exact h
      · exact absurd h id
  | cons next bytes =>
      refine ⟨Or.inr, ?_⟩
      rintro (⟨_, h⟩ | h)
      · cases h
      · exact h

/-- **Terminated strings are prefix-free.** -/
theorem Terminated.prefix_free : ∀ {a b r s : Bytes}, Terminated a → Terminated b →
    a ++ r = b ++ s → a = b ∧ r = s
  | [], _, _, _, ha, _, _ => absurd ha id
  | _ :: _, [], _, _, _, hb, _ => absurd hb id
  | x :: a, y :: b, r, s, ha, hb, h => by
      rw [List.cons_append, List.cons_append, List.cons.injEq] at h
      obtain ⟨rfl, hrest⟩ := h
      rcases terminated_cons_iff.mp ha with ⟨hlt, rfl⟩ | ⟨hge, ha⟩
      · rcases terminated_cons_iff.mp hb with ⟨_, rfl⟩ | ⟨hge, _⟩
        · exact ⟨rfl, hrest⟩
        · omega
      · rcases terminated_cons_iff.mp hb with ⟨hlt, _⟩ | ⟨_, hb⟩
        · omega
        · obtain ⟨rfl, hrs⟩ := Terminated.prefix_free ha hb hrest
          exact ⟨rfl, hrs⟩

/--
Within a limit, a string starts with a terminated one, or with `limit` bytes that
all continue, or it ends before either.
-/
theorem terminated_cases : ∀ (limit : ℕ) (bytes : Bytes),
    (∃ taken rest, bytes = taken ++ rest ∧ Terminated taken ∧ taken.length ≤ limit)
      ∨ (∃ front rest, bytes = front ++ rest ∧ front.length = limit ∧ ∀ b ∈ front, 128 ≤ b.toNat)
      ∨ (bytes.length < limit ∧ ∀ b ∈ bytes, 128 ≤ b.toNat)
  | 0, bytes => Or.inr (Or.inl ⟨[], bytes, rfl, rfl, fun _ h => absurd h List.not_mem_nil⟩)
  | limit + 1, [] => Or.inr (Or.inr ⟨Nat.succ_pos limit, fun _ h => absurd h List.not_mem_nil⟩)
  | limit + 1, byte :: bytes => by
      by_cases hlast : byte.toNat < 128
      · exact Or.inl ⟨[byte], bytes, rfl, hlast, Nat.le_add_left ..⟩
      · have hmore := not_lt.mp hlast
        have hcons : ∀ l : Bytes, (∀ b ∈ l, 128 ≤ b.toNat) → ∀ b ∈ byte :: l, 128 ≤ b.toNat := by
          intro l hall b hb
          rcases List.mem_cons.mp hb with rfl | hb
          · exact hmore
          · exact hall b hb
        rcases terminated_cases limit bytes with ⟨taken, rest, rfl, hterm, hlen⟩
          | ⟨front, rest, rfl, hlen, hall⟩ | ⟨hlen, hall⟩
        · exact Or.inl ⟨byte :: taken, rest, rfl, terminated_cons_iff.mpr (Or.inr ⟨hmore, hterm⟩),
            Nat.succ_le_succ hlen⟩
        · exact Or.inr (Or.inl ⟨byte :: front, rest, rfl, congrArg Nat.succ hlen, hcons front hall⟩)
        · exact Or.inr (Or.inr ⟨Nat.succ_lt_succ hlen, hcons bytes hall⟩)

/-- A terminated string does not continue throughout. -/
theorem Terminated.not_continues : ∀ {bytes : Bytes}, Terminated bytes →
    ∃ b ∈ bytes, b.toNat < 128
  | [], h => absurd h id
  | byte :: bytes, h => by
      rcases terminated_cons_iff.mp h with ⟨hlt, _⟩ | ⟨_, h⟩
      · exact ⟨byte, List.mem_cons_self .., hlt⟩
      · obtain ⟨b, hb, hlt⟩ := h.not_continues
        exact ⟨b, List.mem_cons_of_mem _ hb, hlt⟩

/-- So it does not fit in front of bytes that all continue. -/
theorem Terminated.not_within {bytes front r s : Bytes} (h : Terminated bytes)
    (hlen : bytes.length ≤ front.length) (hall : ∀ b ∈ front, 128 ≤ b.toNat)
    (heq : bytes ++ r = front ++ s) : False := by
  obtain ⟨b, hb, hlt⟩ := h.not_continues
  have hprefix : front <+: bytes ++ r := ⟨s, heq.symm⟩
  obtain ⟨tail, rfl⟩ := List.prefix_of_prefix_length_le (List.prefix_append bytes r) hprefix hlen
  exact absurd (hall b (List.mem_append_left _ hb)) (not_le.mpr hlt)

/-! ## Masks -/

theorem toNat_and_0x7F (b : UInt8) : (b &&& 0x7F).toNat = b.toNat % 128 := by
  rw [UInt8.toNat_and]
  exact Nat.and_two_pow_sub_one_eq_mod b.toNat 7

theorem and_0x80_eq_zero_iff (b : UInt8) : b &&& 0x80 = 0 ↔ b.toNat < 128 := by
  have hall : ∀ n : Fin 256, UInt8.ofNat n &&& 0x80 = 0 ↔ n.val < 128 := by decide +kernel
  have h := hall ⟨b.toNat, b.toNat_lt⟩
  rwa [UInt8.ofNat_toNat] at h

/-- Adding a group of seven bits above the `index` groups already read. -/
theorem or_base128 (value index : ℕ) (byte : UInt8) (bytes : Bytes) :
    value ||| ((byte &&& 0x7F).toNat <<< (7 * index)) ||| (base128 bytes <<< (7 * (index + 1)))
      = value ||| (base128 (byte :: bytes) <<< (7 * index)) := by
  have hgroup : byte.toNat % 128 + 128 * base128 bytes
      = byte.toNat % 128 ||| base128 bytes <<< 7 := by
    have hlow : byte.toNat % 128 < 2 ^ 7 := Nat.mod_lt _ (by decide)
    rw [Nat.shiftLeft_eq, Nat.or_comm, Nat.mul_comm (base128 bytes), Nat.add_comm]
    exact Nat.two_pow_add_eq_or_of_lt hlow _
  rw [base128, hgroup, toNat_and_0x7F, Nat.or_assoc, Nat.shiftLeft_or_distrib, ← Nat.shiftLeft_add]
  congr 3
  omega

end Bytes
