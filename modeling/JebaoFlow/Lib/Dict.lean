import Mathlib.Data.List.Basic
import Mathlib.Data.List.DropRight
import Mathlib.Data.List.Nodup
import Mathlib.Logic.Function.Iterate

/-!
# Insertion-ordered dictionaries

A dictionary that remembers the order in which its keys were first written: an
association list whose keys are pairwise distinct, with the distinctness carried
as a field. Overwriting a key keeps its place, a new key goes to the end, and
`moveToEnd` followed by `popFirst` gives the usual bounded first-in-first-out
cache.

Every reader goes through `get?`; `get?_set` and `get?_setAll` are the only
facts about writing that later proofs need.
-/

/-- An association list with pairwise distinct keys, in insertion order. -/
structure Dict (κ ν : Type) where
  entries : List (κ × ν)
  nodup : (entries.map Prod.fst).Nodup

namespace Dict

variable {κ ν α ε : Type}

@[ext] theorem ext {d₁ d₂ : Dict κ ν} (h : d₁.entries = d₂.entries) : d₁ = d₂ := by
  cases d₁; cases d₂; cases h; rfl

instance [DecidableEq κ] [DecidableEq ν] : DecidableEq (Dict κ ν) := fun d₁ d₂ =>
  decidable_of_iff (d₁.entries = d₂.entries) ⟨ext, fun h => h ▸ rfl⟩

/-- The dictionary without entries. -/
def empty : Dict κ ν := ⟨[], List.nodup_nil⟩

def keys (d : Dict κ ν) : List κ := d.entries.map Prod.fst

variable [DecidableEq κ]

/-! ## Reading -/

def lookupEntries (k : κ) : List (κ × ν) → Option ν
  | [] => none
  | (k', v) :: es => if k' = k then some v else lookupEntries k es

def get? (d : Dict κ ν) (k : κ) : Option ν := lookupEntries k d.entries

def contains (d : Dict κ ν) (k : κ) : Bool := (d.get? k).isSome

theorem lookupEntries_isSome_iff {k : κ} : ∀ {es : List (κ × ν)},
    (lookupEntries k es).isSome ↔ k ∈ es.map Prod.fst
  | [] => by simp [lookupEntries]
  | (k', v) :: es => by
      rw [lookupEntries]
      by_cases h : k' = k
      · subst h; simp
      · rw [if_neg h, lookupEntries_isSome_iff]
        simp [Ne.symm h]

theorem mem_keys_iff {d : Dict κ ν} {k : κ} : k ∈ d.keys ↔ (d.get? k).isSome :=
  lookupEntries_isSome_iff.symm

/-- What some value at a key satisfies, the value read there satisfies. -/
theorem holds_of_get? {P : ν → Prop} {d : Dict κ ν} {k : κ} {v : ν}
    (h : ∃ v, d.get? k = some v ∧ P v) (hget : d.get? k = some v) : P v := by
  obtain ⟨v', hget', hp⟩ := h
  rw [hget] at hget'
  cases hget'
  exact hp

/-- Nothing but the items is in a dictionary that has one entry for each of them. -/
theorem item_of_get? {P : α → ν → Prop} {key : α → κ} {items : List α} {d : Dict κ ν}
    (hnone : ∀ k, k ∉ items.map key → d.get? k = none)
    (hall : ∀ x ∈ items, ∃ v, d.get? (key x) = some v ∧ P x v) {k : κ} {v : ν}
    (hget : d.get? k = some v) : ∃ x ∈ items, key x = k ∧ P x v := by
  by_cases hk : k ∈ items.map key
  · obtain ⟨x, hx, rfl⟩ := List.mem_map.mp hk
    exact ⟨x, hx, rfl, holds_of_get? (hall x hx) hget⟩
  · rw [hnone k hk] at hget
    cases hget

theorem lookupEntries_of_mem {k : κ} {v : ν} : ∀ {es : List (κ × ν)},
    (es.map Prod.fst).Nodup → (k, v) ∈ es → lookupEntries k es = some v
  | (k', v') :: es, hnd, h => by
      rw [List.map_cons, List.nodup_cons] at hnd
      rw [lookupEntries]
      rcases List.mem_cons.mp h with heq | htl
      · cases heq; rw [if_pos rfl]
      · have hne : k' ≠ k := by
          intro he
          exact hnd.1 (List.mem_map.mpr ⟨(k, v), htl, he.symm⟩)
        rw [if_neg hne]
        exact lookupEntries_of_mem hnd.2 htl

theorem mem_of_lookupEntries {k : κ} {v : ν} : ∀ {es : List (κ × ν)},
    lookupEntries k es = some v → (k, v) ∈ es
  | [], h => by simp [lookupEntries] at h
  | (k', v') :: es, h => by
      rw [lookupEntries] at h
      by_cases hk : k' = k
      · rw [if_pos hk] at h
        cases h; subst hk; exact List.mem_cons_self ..
      · rw [if_neg hk] at h
        exact List.mem_cons_of_mem _ (mem_of_lookupEntries h)

/-- Reading a key and listing an entry are the same thing. -/
theorem get?_eq_some_iff {d : Dict κ ν} {k : κ} {v : ν} :
    d.get? k = some v ↔ (k, v) ∈ d.entries :=
  ⟨mem_of_lookupEntries, lookupEntries_of_mem d.nodup⟩

/-- Listing the values is reading the keys in order. -/
theorem map_values {β : Type} (f : ν → β) (d : Dict κ ν) :
    d.entries.map (fun e => f e.2) = d.keys.filterMap (fun k => (d.get? k).map f) := by
  have hread : ∀ e ∈ d.entries, (d.get? e.1).map f = some (f e.2) := by
    intro e he
    rw [get?_eq_some_iff.mpr he, Option.map_some]
  unfold keys
  rw [List.filterMap_map, ← List.filterMap_eq_map]
  exact List.filterMap_congr fun e he => (hread e he).symm

/-! ## Writing -/

def setEntries (k : κ) (v : ν) : List (κ × ν) → List (κ × ν)
  | [] => [(k, v)]
  | (k', v') :: es => if k' = k then (k, v) :: es else (k', v') :: setEntries k v es

theorem setEntries_keys (k : κ) (v : ν) : ∀ es : List (κ × ν),
    (setEntries k v es).map Prod.fst
      = if k ∈ es.map Prod.fst then es.map Prod.fst else es.map Prod.fst ++ [k]
  | [] => by simp [setEntries]
  | (k', v') :: es => by
      rw [setEntries]
      by_cases h : k' = k
      · subst h; simp
      · have hk : k ≠ k' := Ne.symm h
        rw [if_neg h, List.map_cons, setEntries_keys k v es]
        by_cases hm : k ∈ es.map Prod.fst
        · rw [if_pos hm, List.map_cons, if_pos (List.mem_cons_of_mem _ hm)]
        · have hm' : k ∉ (k', v').1 :: es.map Prod.fst := by simpa [hk] using hm
          rw [if_neg hm, List.map_cons, if_neg hm', List.cons_append]

/-- `d[k] = v`: an existing key keeps its place, a new one goes to the end. -/
def set (d : Dict κ ν) (k : κ) (v : ν) : Dict κ ν where
  entries := setEntries k v d.entries
  nodup := by
    rw [setEntries_keys]
    split
    · exact d.nodup
    · rename_i h
      exact List.nodup_append.mpr ⟨d.nodup, List.nodup_singleton k, by
        intro a ha b hb
        rw [List.mem_singleton] at hb
        exact fun he => h (hb ▸ he ▸ ha)⟩

theorem keys_set (d : Dict κ ν) (k : κ) (v : ν) :
    (d.set k v).keys = if k ∈ d.keys then d.keys else d.keys ++ [k] :=
  setEntries_keys k v d.entries

theorem lookupEntries_setEntries (k k' : κ) (v : ν) : ∀ es : List (κ × ν),
    lookupEntries k' (setEntries k v es) = if k = k' then some v else lookupEntries k' es
  | [] => by simp [setEntries, lookupEntries]
  | (k₀, v₀) :: es => by
      rw [setEntries]
      by_cases h : k₀ = k
      · subst h
        rw [if_pos rfl, lookupEntries, lookupEntries]
        by_cases hk : k₀ = k' <;> simp [hk]
      · rw [if_neg h, lookupEntries, lookupEntries, lookupEntries_setEntries k k' v es]
        by_cases hk : k₀ = k'
        · subst hk; rw [if_pos rfl, if_pos rfl, if_neg (Ne.symm h)]
        · rw [if_neg hk, if_neg hk]

/-- What a write leaves behind, at every key. -/
@[simp] theorem get?_set (d : Dict κ ν) (k k' : κ) (v : ν) :
    (d.set k v).get? k' = if k = k' then some v else d.get? k' :=
  lookupEntries_setEntries k k' v d.entries

theorem get?_set_self (d : Dict κ ν) (k : κ) (v : ν) : (d.set k v).get? k = some v := by
  rw [get?_set, if_pos rfl]

theorem get?_set_ne (d : Dict κ ν) {k k' : κ} (v : ν) (h : k ≠ k') :
    (d.set k v).get? k' = d.get? k' := by
  rw [get?_set, if_neg h]

theorem setEntries_setEntries (k : κ) (v w : ν) : ∀ es : List (κ × ν),
    setEntries k w (setEntries k v es) = setEntries k w es
  | [] => by simp [setEntries]
  | (k₀, v₀) :: es => by
      by_cases h : k₀ = k
      · simp [setEntries, h]
      · simp [setEntries, h, setEntries_setEntries k v w es]

/-- Writing a key twice is writing it once. -/
theorem set_set (d : Dict κ ν) (k : κ) (v w : ν) : (d.set k v).set k w = d.set k w :=
  ext (setEntries_setEntries k v w d.entries)

/-! ## Writing in a loop -/

/-- The loop `for a in l: d[key a] = val a`. -/
def setAll (key : α → κ) (val : α → ν) (l : List α) (d : Dict κ ν) : Dict κ ν :=
  l.foldl (fun acc a => acc.set (key a) (val a)) d

/-- A loop over distinct keys writes each key once and touches no other. -/
theorem get?_setAll {key : α → κ} {val : α → ν} : ∀ {l : List α} {d : Dict κ ν} {k : κ},
    (l.map key).Nodup →
    (setAll key val l d).get? k
      = match l.find? (fun a => key a = k) with
        | some a => some (val a)
        | none => d.get? k
  | [], _, _, _ => rfl
  | a :: l, d, k, hnd => by
      rw [List.map_cons, List.nodup_cons] at hnd
      have ih : (setAll key val l (d.set (key a) (val a))).get? k
          = match l.find? (fun b => key b = k) with
            | some b => some (val b)
            | none => (d.set (key a) (val a)).get? k := get?_setAll hnd.2
      have hstep : setAll key val (a :: l) d = setAll key val l (d.set (key a) (val a)) := rfl
      rw [hstep, ih, List.find?_cons]
      by_cases hk : key a = k
      · have hnone : l.find? (fun b => decide (key b = k)) = none := by
          rw [List.find?_eq_none]
          intro b hb
          simp only [decide_eq_true_eq]
          exact fun he => hnd.1 (hk ▸ he ▸ List.mem_map_of_mem hb)
        rw [hnone]; simp [hk]
      · simp only [decide_eq_false hk, get?_set, if_neg hk]

theorem get?_setAll_of_mem {key : α → κ} {val : α → ν} {l : List α} {d : Dict κ ν} {a : α}
    (hnd : (l.map key).Nodup) (ha : a ∈ l) : (setAll key val l d).get? (key a) = some (val a) := by
  rw [get?_setAll hnd]
  have hfind : l.find? (fun b => decide (key b = key a)) = some a := by
    cases hf : l.find? (fun b => decide (key b = key a)) with
    | none =>
        have hne := List.find?_eq_none.mp hf a ha
        simp at hne
    | some b =>
        have hb : key b = key a := by simpa using List.find?_some hf
        have : b = a := List.inj_on_of_nodup_map hnd (List.mem_of_find?_eq_some hf) ha hb
        rw [this]
  rw [hfind]

theorem get?_setAll_of_notMem {key : α → κ} {val : α → ν} {l : List α} {d : Dict κ ν} {k : κ}
    (hnd : (l.map key).Nodup) (hk : k ∉ l.map key) : (setAll key val l d).get? k = d.get? k := by
  rw [get?_setAll hnd]
  have hfind : l.find? (fun b => decide (key b = k)) = none := by
    rw [List.find?_eq_none]
    intro b hb
    simp only [decide_eq_true_eq]
    exact fun he => hk (he ▸ List.mem_map_of_mem hb)
  rw [hfind]

/-- The keys a loop leaves: the old ones, then the new ones in loop order. -/
theorem keys_setAll {key : α → κ} {val : α → ν} : ∀ {l : List α} {d : Dict κ ν},
    (d.keys ++ l.map key).Nodup → (setAll key val l d).keys = d.keys ++ l.map key
  | [], d, _ => by simp [setAll]
  | a :: l, d, hnd => by
      have hstep : setAll key val (a :: l) d = setAll key val l (d.set (key a) (val a)) := rfl
      have hnew : key a ∉ d.keys := by
        intro hm
        rw [List.nodup_append] at hnd
        exact hnd.2.2 _ hm (key a) (by simp) rfl
      have hkeys : (d.set (key a) (val a)).keys = d.keys ++ [key a] := by
        rw [keys_set, if_neg hnew]
      rw [hstep, keys_setAll (by rw [hkeys]; simpa using hnd), hkeys]
      simp

/--
The loop `for a in l: d[key a] = body a`, whose body may raise, or may skip the
element with `none`.
-/
def collect (key : α → κ) (body : α → Except ε (Option ν)) :
    List α → Dict κ ν → Except ε (Dict κ ν)
  | [], d => .ok d
  | a :: l, d =>
      match body a with
      | .error e => .error e
      | .ok none => collect key body l d
      | .ok (some v) => collect key body l (d.set (key a) v)

/-- When no iteration raises or skips, the loop is `setAll`. -/
theorem collect_eq_setAll {key : α → κ} {body : α → Except ε (Option ν)} {val : α → ν} :
    ∀ {l : List α} {d : Dict κ ν}, (∀ a ∈ l, body a = .ok (some (val a))) →
      collect key body l d = .ok (setAll key val l d)
  | [], _, _ => rfl
  | a :: l, d, h => by
      rw [collect, h a (List.mem_cons_self ..)]
      exact collect_eq_setAll (fun b hb => h b (List.mem_cons_of_mem _ hb))

/-- What the loop leaves at a key, one of its iterations put there. -/
theorem collect_inv {key : α → κ} {body : α → Except ε (Option ν)} {k : κ} {v : ν} :
    ∀ {l : List α} {d d' : Dict κ ν}, collect key body l d = .ok d' → d'.get? k = some v →
      d.get? k = some v ∨ ∃ a ∈ l, key a = k ∧ body a = .ok (some v)
  | [], d, d', h, hget => by cases h; exact Or.inl hget
  | a :: l, d, d', h, hget => by
      rw [collect] at h
      cases hbody : body a with
      | error e => rw [hbody] at h; cases h
      | ok r =>
          rw [hbody] at h
          cases r with
          | none =>
              rcases collect_inv h hget with hold | ⟨b, hb, hkey, hval⟩
              · exact Or.inl hold
              · exact Or.inr ⟨b, List.mem_cons_of_mem _ hb, hkey, hval⟩
          | some w =>
              rcases collect_inv h hget with hset | ⟨b, hb, hkey, hval⟩
              · rw [get?_set] at hset
                split at hset
                · rename_i hkey
                  cases hset
                  exact Or.inr ⟨a, List.mem_cons_self .., hkey, hbody⟩
                · exact Or.inl hset
              · exact Or.inr ⟨b, List.mem_cons_of_mem _ hb, hkey, hval⟩

/-! ## The ordered cache operations -/

def erase (d : Dict κ ν) (k : κ) : Dict κ ν where
  entries := d.entries.filter (fun e => e.1 ≠ k)
  nodup := by
    have hsub : (d.entries.filter (fun e => decide (e.1 ≠ k))).Sublist d.entries :=
      List.filter_sublist
    exact d.nodup.sublist (hsub.map Prod.fst)

theorem lookupEntries_filter (k k' : κ) : ∀ es : List (κ × ν),
    lookupEntries k' (es.filter (fun e => e.1 ≠ k)) = if k = k' then none else lookupEntries k' es
  | [] => by simp [lookupEntries]
  | (k₀, v₀) :: es => by
      by_cases h : k₀ = k
      · subst h
        rw [List.filter_cons_of_neg (by simp), lookupEntries_filter k₀ k' es, lookupEntries]
        by_cases hk : k₀ = k' <;> simp [hk]
      · rw [List.filter_cons_of_pos (by simp [h]), lookupEntries, lookupEntries,
          lookupEntries_filter k k' es]
        by_cases hk : k₀ = k'
        · subst hk; rw [if_pos rfl, if_pos rfl, if_neg (Ne.symm h)]
        · rw [if_neg hk, if_neg hk]

@[simp] theorem get?_erase (d : Dict κ ν) (k k' : κ) :
    (d.erase k).get? k' = if k = k' then none else d.get? k' :=
  lookupEntries_filter k k' d.entries

/-- `d.move_to_end(k)`. -/
def moveToEnd (d : Dict κ ν) (k : κ) : Dict κ ν :=
  match d.get? k with
  | none => d
  | some v => (d.erase k).set k v

/-- `d.popitem(last=False)`, dropping the oldest entry. -/
def popFirst (d : Dict κ ν) : Dict κ ν where
  entries := d.entries.tail
  nodup := by
    rw [List.map_tail]
    exact d.nodup.tail

/-- The loop `while len(d) > n: d.popitem(last=False)`. -/
def trimTo (n : Nat) (d : Dict κ ν) : Dict κ ν :=
  Nat.iterate popFirst (d.entries.length - n) d

/-! ## The bounded cache -/

theorem entries_set_of_new {d : Dict κ ν} {k : κ} (h : d.get? k = none) (v : ν) :
    (d.set k v).entries = d.entries ++ [(k, v)] := by
  have key : ∀ es : List (κ × ν), lookupEntries k es = none →
      setEntries k v es = es ++ [(k, v)] := by
    intro es
    induction es with
    | nil => exact fun _ => rfl
    | cons e es ih =>
        intro hes
        rw [lookupEntries] at hes
        by_cases he : e.1 = k
        · rw [if_pos he] at hes
          cases hes
        · rw [if_neg he] at hes
          rw [setEntries, if_neg he, ih hes, List.cons_append]
  exact key d.entries h

/-- The newest key is at the end already. -/
theorem entries_moveToEnd_new {d : Dict κ ν} {k : κ} (h : d.get? k = none) (v : ν) :
    ((d.set k v).moveToEnd k).entries = d.entries ++ [(k, v)] := by
  have hkeep : d.entries.filter (fun e => e.1 ≠ k) = d.entries := by
    refine List.filter_eq_self.mpr (fun e he => ?_)
    rw [decide_eq_true_eq]
    rintro rfl
    rw [get?_eq_some_iff.mpr he] at h
    cases h
  have herase : ((d.set k v).erase k).entries = d.entries := by
    show (d.set k v).entries.filter (fun e => e.1 ≠ k) = d.entries
    rw [entries_set_of_new h, List.filter_append, hkeep, List.filter_cons_of_neg (by simp),
      List.filter_nil, List.append_nil]
  have hnone : ((d.set k v).erase k).get? k = none := by rw [get?_erase, if_pos rfl]
  unfold moveToEnd
  rw [get?_set_self]
  dsimp only
  rw [entries_set_of_new hnone, herase]

omit [DecidableEq κ] in
theorem entries_trimTo (n : ℕ) (d : Dict κ ν) : (d.trimTo n).entries = d.entries.rtake n := by
  have key : ∀ (m : ℕ) (d : Dict κ ν), (popFirst^[m] d).entries = d.entries.drop m := by
    intro m
    induction m with
    | zero => intro d; rfl
    | succ m ih =>
        intro d
        rw [Function.iterate_succ_apply, ih]
        exact List.drop_tail ..
  exact key _ d

/-- A further entry behind a window of the newest `n` moves the window. -/
theorem rtake_rtake_concat {n : ℕ} (l : List α) (a : α) :
    (l.rtake n ++ [a]).rtake n = (l ++ [a]).rtake n := by
  cases n with
  | zero => rw [List.rtake_zero, List.rtake_zero]
  | succ n =>
      rw [List.rtake_concat_succ, List.rtake_concat_succ, List.rtake_eq_reverse_take_reverse,
        List.rtake_eq_reverse_take_reverse, List.rtake_eq_reverse_take_reverse,
        List.reverse_reverse, List.take_take, Nat.min_eq_left (Nat.le_succ n)]

/--
**Recording a new key keeps the newest `n` of everything recorded**: if the cache
holds the newest `n` entries of a log, it still does for the log with the new one.
-/
theorem entries_record {n : ℕ} {d : Dict κ ν} {log : List (κ × ν)} {k : κ}
    (hd : d.entries = log.rtake n) (hnew : d.get? k = none) (v : ν) :
    (((d.set k v).moveToEnd k).trimTo n).entries = (log ++ [(k, v)]).rtake n := by
  rw [entries_trimTo, entries_moveToEnd_new hnew, hd, rtake_rtake_concat]

end Dict
