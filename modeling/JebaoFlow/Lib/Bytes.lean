import Mathlib.Data.List.Induction
import Mathlib.Data.Nat.Bitwise
import JebaoFlow.Lib.Python

/-!
# Byte strings

A byte string is a list of bytes. `fromBytesBig` and `toBytesBig` are the host's
`int.from_bytes(_, "big")` and `int.to_bytes(_, "big")`, `slice` and `patch` are
reading and assigning `b[start:start + length]`.

What a write leaves alone is stated bit by bit. A big-endian group numbers its
bits from the last byte; `groupBit` translates.
-/

abbrev Bytes := List UInt8

namespace Bytes

/-- `bytes(n)` and `bytearray(n)`: `n` zero bytes. -/
def zeros (n : ℕ) : Bytes := List.replicate n 0

def fromBytesBig (bytes : Bytes) : ℕ := bytes.foldl (fun value b => value * 256 + b.toNat) 0

/-- The integer as `width` bytes; it has to fit. -/
def toBytesBig (width value : ℕ) : Except PyError Bytes :=
  if value < 256 ^ width then
    .ok ((List.range width).map (fun i => UInt8.ofNat (value / 256 ^ (width - 1 - i))))
  else .error (.overflowError "int too big to convert")

def slice (bytes : Bytes) (start length : ℕ) : Bytes := (bytes.drop start).take length

/-- `b[start:start + length] = chunk`. -/
def patch (bytes : Bytes) (start length : ℕ) (chunk : Bytes) : Bytes :=
  bytes.take start ++ chunk ++ bytes.drop (start + length)

/-- Bit `i` of the string, counted from the lowest bit of the first byte. -/
def bit (bytes : Bytes) (i : ℕ) : Bool := (bytes.getD (i / 8) 0).toNat.testBit (i % 8)

/-- Set or clear one bit of one byte. -/
def setBit (bytes : Bytes) (byte index : ℕ) (value : Bool) : Bytes :=
  let mask : UInt8 := 1 <<< UInt8.ofNat index
  bytes.modify byte (fun b => if value then b ||| mask else b &&& ~~~mask)

theorem foldl_lt (bytes : Bytes) (value : ℕ) :
    bytes.foldl (fun value b => value * 256 + b.toNat) value < (value + 1) * 256 ^ bytes.length := by
  induction bytes generalizing value with
  | nil => simp
  | cons b bytes ih =>
      have hb : b.toNat < 256 := b.toNat_lt
      calc (b :: bytes).foldl (fun value b => value * 256 + b.toNat) value
          < (value * 256 + b.toNat + 1) * 256 ^ bytes.length := ih _
        _ ≤ ((value + 1) * 256) * 256 ^ bytes.length := Nat.mul_le_mul_right _ (by omega)
        _ = (value + 1) * 256 ^ (b :: bytes).length := by
            rw [List.length_cons, Nat.pow_succ]
            ring

/-- A byte has eight bits. -/
theorem pow_byte (width : ℕ) : 256 ^ width = 2 ^ (8 * width) := (Nat.pow_mul 2 8 width).symm

/-- A byte string of `n` bytes is below `256 ^ n`. -/
theorem fromBytesBig_lt (bytes : Bytes) : fromBytesBig bytes < 256 ^ bytes.length := by
  have h := foldl_lt bytes 0
  rw [Nat.zero_add, Nat.one_mul] at h
  exact h

theorem toBytesBig_ok_iff {width value : ℕ} :
    (∃ bytes, toBytesBig width value = .ok bytes) ↔ value < 256 ^ width := by
  unfold toBytesBig
  constructor
  · rintro ⟨bytes, h⟩
    split at h
    · assumption
    · cases h
  · intro h
    rw [if_pos h]
    exact ⟨_, rfl⟩

/-- Whether a group fits its bytes after new bits are written does not depend on the old ones. -/
theorem group_lt {width mask bits : ℕ} (h : bits < 256 ^ width) (old : Bytes) :
    (fromBytesBig (old.take width)).ldiff mask ||| bits < 256 ^ width := by
  have hkept : (fromBytesBig (old.take width)).ldiff mask ≤ fromBytesBig (old.take width) := by
    refine Nat.le_of_testBit (fun i hi => ?_)
    rw [Nat.testBit_ldiff, Bool.and_eq_true] at hi
    exact hi.1
  have hlen : 256 ^ (old.take width).length ≤ 256 ^ width :=
    Nat.pow_le_pow_right (by decide) (List.length_take_le ..)
  have hold := lt_of_le_of_lt hkept (lt_of_lt_of_le (fromBytesBig_lt _) hlen)
  rw [pow_byte] at h hold ⊢
  exact Nat.or_lt_two_pow hold h

/-! ## Single bits -/

theorem setBit_length (bytes : Bytes) (byte index : ℕ) (value : Bool) :
    (setBit bytes byte index value).length = bytes.length := List.length_modify ..

theorem zeros_length (n : ℕ) : (zeros n).length = n := List.length_replicate

theorem bit_zeros (n i : ℕ) : bit (zeros n) i = false := by
  have hbyte : (zeros n).getD (i / 8) 0 = 0 := by
    unfold zeros
    rw [List.getD_eq_getElem?_getD, List.getElem?_replicate]
    split <;> rfl
  unfold bit
  rw [hbyte]
  exact Nat.zero_testBit _

/-- A byte with one bit rewritten. -/
theorem testBit_rewritten (b : UInt8) {index j : ℕ} (hindex : index < 8) (hj : j < 8)
    (value : Bool) :
    (if value then b ||| (1 : UInt8) <<< UInt8.ofNat index
      else b &&& ~~~((1 : UInt8) <<< UInt8.ofNat index)).toNat.testBit j
      = if j = index then value else b.toNat.testBit j := by
  have hset : ∀ index j : Fin 8, ((1 : UInt8) <<< UInt8.ofNat index).toNat.testBit j
      = decide (j = index) := by decide
  have hclear : ∀ index j : Fin 8, (~~~((1 : UInt8) <<< UInt8.ofNat index)).toNat.testBit j
      = !decide (j = index) := by decide
  have hset := hset ⟨index, hindex⟩ ⟨j, hj⟩
  have hclear := hclear ⟨index, hindex⟩ ⟨j, hj⟩
  dsimp only at hset hclear
  simp only [Fin.mk.injEq] at hset hclear
  cases value with
  | true =>
      rw [if_pos rfl, UInt8.toNat_or, Nat.testBit_or, hset]
      by_cases h : j = index <;> simp [h]
  | false =>
      rw [if_neg Bool.false_ne_true, UInt8.toNat_and, Nat.testBit_and, hclear]
      by_cases h : j = index <;> simp [h]

/-- Rewriting a bit changes no other. -/
theorem bit_setBit_of_ne {bytes : Bytes} {byte index i : ℕ} (hindex : index < 8) (value : Bool)
    (hne : i ≠ byte * 8 + index) : bit (setBit bytes byte index value) i = bit bytes i := by
  unfold bit setBit
  rw [List.getD_eq_getElem?_getD, List.getD_eq_getElem?_getD, List.getElem?_modify]
  cases bytes[i / 8]? with
  | none => rfl
  | some b =>
      by_cases hbyte : byte = i / 8
      · simp only [if_pos hbyte, Option.map_eq_map, Option.map_some, Option.getD_some]
        rw [testBit_rewritten b hindex (Nat.mod_lt _ (by decide)), if_neg (by omega)]
      · simp only [if_neg hbyte, Option.map_eq_map, Option.map_some]

theorem bit_setBit_self {bytes : Bytes} {byte index : ℕ} (hindex : index < 8) (value : Bool)
    (hbyte : byte < bytes.length) :
    bit (setBit bytes byte index value) (byte * 8 + index) = value := by
  have hdiv : (byte * 8 + index) / 8 = byte := by omega
  have hmod : (byte * 8 + index) % 8 = index := by omega
  unfold bit setBit
  rw [hdiv, hmod, List.getD_eq_getElem?_getD, List.getElem?_modify, List.getElem?_eq_getElem hbyte]
  simp only [if_true, Option.map_eq_map, Option.map_some, Option.getD_some]
  rw [testBit_rewritten _ hindex hindex, if_pos rfl]

/-! ## Big-endian groups -/

theorem fromBytesBig_append (bytes : Bytes) (b : UInt8) :
    fromBytesBig (bytes ++ [b]) = fromBytesBig bytes * 256 + b.toNat := by
  unfold fromBytesBig
  rw [List.foldl_append]
  rfl

/-- The last byte is the remainder, the ones before it are the quotient's. -/
theorem toBytesBig_succ {width value : ℕ} {bytes : Bytes}
    (h : toBytesBig (width + 1) value = .ok bytes) :
    ∃ front, toBytesBig width (value / 256) = .ok front
      ∧ bytes = front ++ [UInt8.ofNat value] := by
  unfold toBytesBig at h ⊢
  split at h
  · rename_i hlt
    cases h
    have hdiv : value / 256 < 256 ^ width :=
      Nat.div_lt_of_lt_mul (by rw [Nat.mul_comm, ← Nat.pow_succ]; exact hlt)
    rw [if_pos hdiv]
    refine ⟨_, rfl, ?_⟩
    rw [List.range_succ, List.map_append]
    congr 1
    · refine List.map_congr_left (fun i hi => ?_)
      have hstep : width + 1 - 1 - i = width - 1 - i + 1 := by
        have := List.mem_range.mp hi
        omega
      rw [hstep, Nat.pow_succ, Nat.mul_comm, Nat.div_div_eq_div_mul]
    · rw [List.map_singleton, Nat.add_sub_cancel, Nat.sub_self, Nat.pow_zero, Nat.div_one]
  · cases h

theorem toBytesBig_length {width value : ℕ} {bytes : Bytes} (h : toBytesBig width value = .ok bytes) :
    bytes.length = width := by
  unfold toBytesBig at h
  split at h
  · cases h
    rw [List.length_map, List.length_range]
  · cases h

/-- Reading back what was written. -/
theorem fromBytesBig_toBytesBig : ∀ {width value : ℕ} {bytes : Bytes},
    toBytesBig width value = .ok bytes → fromBytesBig bytes = value := by
  intro width
  induction width with
  | zero =>
      intro value bytes h
      have hlt := toBytesBig_ok_iff.mp ⟨bytes, h⟩
      rw [List.length_eq_zero_iff.mp (toBytesBig_length h)]
      show 0 = value
      omega
  | succ width ih =>
      intro value bytes h
      obtain ⟨front, hfront, rfl⟩ := toBytesBig_succ h
      rw [fromBytesBig_append, ih hfront, UInt8.toNat_ofNat']
      omega

/-- Where bit `i` of a big-endian group stands in its number. -/
def groupBit (width i : ℕ) : ℕ := (width - 1 - i / 8) * 8 + i % 8

theorem bit_eq_testBit (bytes : Bytes) : ∀ {i : ℕ}, i < 8 * bytes.length →
    bit bytes i = (fromBytesBig bytes).testBit (groupBit bytes.length i) := by
  induction bytes using List.reverseRecOn with
  | nil => exact fun h => absurd h (Nat.not_lt_zero _)
  | append_singleton bytes b ih =>
      intro i hi
      have hlen : (bytes ++ [b]).length = bytes.length + 1 := List.length_append
      rw [hlen] at hi
      have hsplit : fromBytesBig (bytes ++ [b]) = 2 ^ 8 * fromBytesBig bytes + b.toNat := by
        rw [fromBytesBig_append, Nat.mul_comm]
        rfl
      rw [hsplit, hlen, Nat.testBit_two_pow_mul_add _ b.toNat_lt]
      by_cases hlast : i / 8 = bytes.length
      · -- a bit of the last byte
        have hpos : groupBit (bytes.length + 1) i = i % 8 := by unfold groupBit; omega
        rw [hpos, if_pos (Nat.mod_lt _ (by decide))]
        unfold bit
        rw [List.getD_append_right _ _ _ _ (by omega), hlast, Nat.sub_self]
        rfl
      · have hfront : i < 8 * bytes.length := by omega
        have hpos : groupBit (bytes.length + 1) i = groupBit bytes.length i + 8 := by
          unfold groupBit; omega
        rw [hpos, if_neg (by omega), Nat.add_sub_cancel, ← ih hfront]
        unfold bit
        rw [List.getD_append _ _ _ _ (by omega)]

/-! ## Slices -/

theorem patch_length {bytes chunk : Bytes} {start length : ℕ} (hchunk : chunk.length = length)
    (hfits : start + length ≤ bytes.length) : (patch bytes start length chunk).length
      = bytes.length := by
  unfold patch
  rw [List.length_append, List.length_append, List.length_take, List.length_drop]
  omega

theorem slice_patch {bytes chunk : Bytes} {start length : ℕ} (hchunk : chunk.length = length)
    (hfits : start + length ≤ bytes.length) :
    slice (patch bytes start length chunk) start length = chunk := by
  have hstart : (bytes.take start).length = start := by
    rw [List.length_take]
    omega
  unfold slice patch
  rw [List.append_assoc, List.drop_left' hstart, List.take_left' hchunk]

/-- A byte in front of or behind the written part is as it was. -/
theorem getD_patch {bytes chunk : Bytes} {start length k : ℕ} (hchunk : chunk.length = length)
    (hfits : start + length ≤ bytes.length) (hout : k < start ∨ start + length ≤ k) :
    (patch bytes start length chunk).getD k 0 = bytes.getD k 0 := by
  have hstart : (bytes.take start).length = start := by
    rw [List.length_take]
    omega
  unfold patch
  rw [List.getD_eq_getElem?_getD, List.getD_eq_getElem?_getD]
  rcases hout with hfront | hbehind
  · rw [List.append_assoc, List.getElem?_append_left (by omega), List.getElem?_take_of_lt hfront]
  · have hskip : (bytes.take start ++ chunk).length = start + length := by
      rw [List.length_append]
      omega
    rw [List.getElem?_append_right (by omega), hskip, List.getElem?_drop]
    congr 2
    omega

theorem bit_patch_of_out {bytes chunk : Bytes} {start length i : ℕ} (hchunk : chunk.length = length)
    (hfits : start + length ≤ bytes.length) (hout : i < start * 8 ∨ (start + length) * 8 ≤ i) :
    bit (patch bytes start length chunk) i = bit bytes i := by
  unfold bit
  rw [getD_patch hchunk hfits (by omega)]

/-- Equal bits make an equal byte. -/
theorem getD_eq_of_bits {a b : Bytes} {k : ℕ}
    (h : ∀ j < 8, bit a (k * 8 + j) = bit b (k * 8 + j)) : a.getD k 0 = b.getD k 0 := by
  refine UInt8.toNat_inj.mp (Nat.eq_of_testBit_eq (fun j => ?_))
  by_cases hj : j < 8
  · have hbit := h j hj
    unfold bit at hbit
    have hdiv : (k * 8 + j) / 8 = k := by omega
    have hmod : (k * 8 + j) % 8 = j := by omega
    rw [hdiv, hmod] at hbit
    exact hbit
  · have hlt : ∀ x : UInt8, x.toNat.testBit j = false := fun x =>
      Nat.testBit_lt_two_pow (lt_of_lt_of_le x.toNat_lt (Nat.pow_le_pow_right (by decide) (by omega)))
    rw [hlt, hlt]

/-- Two strings of one length that agree on the bits of a slice agree on the slice. -/
theorem slice_eq_of_bits {a b : Bytes} {start length : ℕ} (hlen : a.length = b.length)
    (h : ∀ i, start * 8 ≤ i → i < (start + length) * 8 → bit a i = bit b i) :
    slice a start length = slice b start length := by
  unfold slice
  refine List.ext_getElem (by rw [List.length_take, List.length_take, List.length_drop,
    List.length_drop, hlen]) (fun k ha hb => ?_)
  rw [List.length_take, List.length_drop] at ha hb
  have hbyte : a.getD (start + k) 0 = b.getD (start + k) 0 :=
    getD_eq_of_bits (fun j hj => h _ (by omega) (by omega))
  rw [List.getD_eq_getElem _ _ (by omega), List.getD_eq_getElem _ _ (by omega)] at hbyte
  rw [List.getElem_take, List.getElem_take, List.getElem_drop, List.getElem_drop]
  exact hbyte

end Bytes
