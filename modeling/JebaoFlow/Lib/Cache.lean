import JebaoFlow.Lib.Dict
import JebaoFlow.Lib.Run

/-!
# A cache of the newest results

A machine that keeps a bounded first-in-first-out cache: a step either leaves the
cache alone or records one result under a key the cache does not hold. Then the
cache is, at any point of any run, the tail of the log of everything recorded, and
a result stays readable until `n` others were recorded after it.

Two caches that are alike, up to a function of the values, stay alike when the same
key is recorded in both.
-/

namespace Dict

variable {κ ν μ : Type} [DecidableEq κ]

/-- The same keys in the same order, the values the same under `f`. -/
def Alike (f : ν → μ) (d e : Dict κ ν) : Prop :=
  d.entries.map (fun p => (p.1, f p.2)) = e.entries.map (fun p => (p.1, f p.2))

omit [DecidableEq κ] in
theorem Alike.refl (f : ν → μ) (d : Dict κ ν) : Alike f d d := rfl

theorem lookupEntries_map (f : ν → μ) (k : κ) : ∀ es : List (κ × ν),
    (lookupEntries k es).map f = lookupEntries k (es.map (fun p => (p.1, f p.2)))
  | [] => rfl
  | (k', v) :: es => by
      rw [List.map_cons, lookupEntries, lookupEntries]
      by_cases h : k' = k
      · rw [if_pos h, if_pos h, Option.map_some]
      · rw [if_neg h, if_neg h, lookupEntries_map f k es]

theorem Alike.get? {f : ν → μ} {d e : Dict κ ν} (h : Alike f d e) (k : κ) :
    (d.get? k).map f = (e.get? k).map f := by
  show (lookupEntries k d.entries).map f = (lookupEntries k e.entries).map f
  rw [lookupEntries_map, lookupEntries_map, h]

/-- A key is on both sides or on neither. -/
theorem Alike.lookup {f : ν → μ} {d e : Dict κ ν} (h : Alike f d e) (k : κ) :
    (d.get? k = none ∧ e.get? k = none)
      ∨ ∃ v w, d.get? k = some v ∧ e.get? k = some w ∧ f v = f w := by
  have hmap := h.get? k
  cases hd : d.get? k with
  | none =>
      rw [hd] at hmap
      exact Or.inl ⟨rfl, Option.map_eq_none_iff.mp hmap.symm⟩
  | some v =>
      rw [hd] at hmap
      obtain ⟨w, he, hw⟩ := Option.map_eq_some_iff.mp hmap.symm
      exact Or.inr ⟨v, w, rfl, he, hw.symm⟩

/-- Recording values that are the same under `f`. -/
theorem Alike.record {f : ν → μ} {d e : Dict κ ν} {n : ℕ} {k : κ} {v w : ν} (h : Alike f d e)
    (hd : d.get? k = none) (he : e.get? k = none) (hv : f v = f w) :
    Alike f (((d.set k v).moveToEnd k).trimTo n) (((e.set k w).moveToEnd k).trimTo n) := by
  have hlen : d.entries.length = e.entries.length := by
    have := congrArg List.length h
    rwa [List.length_map, List.length_map] at this
  unfold Alike at h ⊢
  rw [entries_trimTo, entries_trimTo, entries_moveToEnd_new hd, entries_moveToEnd_new he]
  unfold List.rtake
  rw [List.map_drop, List.map_drop, List.map_append, List.map_append, h, List.length_append,
    List.length_append, hlen, List.map_singleton, List.map_singleton, hv]
  rfl

end Dict

namespace Run

variable {σ α κ ν : Type} [DecidableEq κ] {step : σ → α → σ} {cache : σ → Dict κ ν}
  {out : σ → α → Option ν} {key : ν → κ} {n : ℕ}

/-- What a step does to the cache, given what it records. -/
def Caches (n : ℕ) (key : ν → κ) (before after : Dict κ ν) : Option ν → Prop
  | none => after = before
  | some r => before.get? (key r) = none
      ∧ after = ((before.set (key r) r).moveToEnd (key r)).trimTo n

/-- What every recorded value satisfies, every value in the cache satisfies. -/
theorem Caches.forall {P : ν → Prop} {before after : Dict κ ν} {result : Option ν}
    (h : Caches n key before after result) (hbefore : ∀ k v, before.get? k = some v → P v)
    (hresult : ∀ r, result = some r → P r) : ∀ k v, after.get? k = some v → P v := by
  cases result with
  | none =>
      have hsame : after = before := h
      rw [hsame]
      exact hbefore
  | some r =>
      obtain ⟨hnew, rfl⟩ := h
      intro k v hget
      rw [Dict.get?_eq_some_iff, Dict.entries_trimTo, Dict.entries_moveToEnd_new hnew] at hget
      rcases List.mem_append.mp (List.mem_of_mem_drop hget) with hold | hlast
      · exact hbefore k v (Dict.get?_eq_some_iff.mpr hold)
      · cases List.mem_singleton.mp hlast
        exact hresult _ rfl

/-- A cache whose values name their keys goes on to. -/
theorem Caches.keyed {before after : Dict κ ν} {result : Option ν}
    (h : Caches n key before after result) (hbefore : ∀ k v, before.get? k = some v → key v = k) :
    ∀ k v, after.get? k = some v → key v = k := by
  cases result with
  | none =>
      have hsame : after = before := h
      rw [hsame]
      exact hbefore
  | some r =>
      obtain ⟨hnew, rfl⟩ := h
      intro k v hget
      rw [Dict.get?_eq_some_iff, Dict.entries_trimTo, Dict.entries_moveToEnd_new hnew] at hget
      rcases List.mem_append.mp (List.mem_of_mem_drop hget) with hold | hlast
      · exact hbefore k v (Dict.get?_eq_some_iff.mpr hold)
      · cases List.mem_singleton.mp hlast
        rfl

/-- The entries a log of results leaves. -/
def logged (key : ν → κ) (log : List ν) : List (κ × ν) := log.map (fun r => (key r, r))

/-- **The cache is the tail of the log.** -/
theorem cache_entries
    (hstep : ∀ s a, Caches n key (cache s) (cache (step s a)) (out s a)) (as : List α) (s : σ)
    (log : List ν) (h : (cache s).entries = (logged key log).rtake n) :
    (cache (exec step s as)).entries = (logged key (log ++ trace step out s as)).rtake n := by
  refine trace_invariant (R := fun s log => (cache s).entries = (logged key log).rtake n)
    (fun s a log h => ?_) as h
  have hs := hstep s a
  cases hout : out s a with
  | none =>
      rw [hout] at hs
      have hsame : cache (step s a) = cache s := hs
      rw [hsame, Option.toList_none, List.append_nil]
      exact h
  | some r =>
      rw [hout] at hs
      obtain ⟨hnew, hafter⟩ := hs
      rw [hafter, Dict.entries_record h hnew]
      unfold logged
      rw [List.map_append]
      rfl

omit [DecidableEq κ] in
theorem logged_rtake (key : ν → κ) (log : List ν) (n : ℕ) :
    (logged key log).rtake n = logged key (log.rtake n) := by
  unfold logged List.rtake
  rw [List.length_map, List.map_drop]

omit [DecidableEq κ] in
/-- Where the cache is the tail of a log, its results have pairwise distinct keys. -/
theorem nodup_of_entries {d : Dict κ ν} {log : List ν}
    (h : d.entries = (logged key log).rtake n) : ((log.rtake n).map key).Nodup := by
  have hnd := d.nodup
  rw [h, logged_rtake] at hnd
  unfold logged at hnd
  rw [List.map_map] at hnd
  exact hnd

/-- A result with fewer than `n` behind it is still in the tail. -/
theorem mem_rtake {before after : List ν} {r : ν} (h : after.length < n) :
    r ∈ (before ++ r :: after).rtake n := by
  unfold List.rtake
  rw [List.length_append, List.length_cons, List.drop_append_of_le_length (by omega)]
  exact List.mem_append_right _ (List.mem_cons_self ..)

/-- **A result is readable until `n` others were recorded after it.** -/
theorem get?_of_entries {d : Dict κ ν} {before after : List ν} {r : ν}
    (h : d.entries = (logged key (before ++ r :: after)).rtake n) (hlen : after.length < n) :
    d.get? (key r) = some r := by
  rw [Dict.get?_eq_some_iff, h, logged_rtake]
  unfold logged
  exact List.mem_map.mpr ⟨r, mem_rtake hlen, rfl⟩

end Run
