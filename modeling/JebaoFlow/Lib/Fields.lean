import Mathlib.Data.List.Basic

/-!
# Fields of a store

A field is a family of keys with a place for each in a store of cells. To write a field is
to give the cells at its places their values and to leave every other cell alone. Two
writes of one field leave what the second one leaves, and a loop that writes the keys one
by one writes the field.

Cells are only ever looked at through `read`, so the store can be anything.
-/

namespace Fields

variable {S ι κ β : Type} {read : S → ι → β} {place : κ → ι} {keys : κ → Prop} {v w : κ → β}
  {s s' s'' : S}

/-- The store `s'` is `s` with the values of a field written to its places. -/
structure Written (read : S → ι → β) (place : κ → ι) (keys : κ → Prop) (v : κ → β) (s s' : S) :
    Prop where
  inside : ∀ k, keys k → read s' (place k) = v k
  outside : ∀ i, (∀ k, keys k → place k ≠ i) → read s' i = read s i

/-- The later of two writes is the one that counts. -/
theorem Written.overwrite (h : Written read place keys v s s')
    (h' : Written read place keys w s' s'') : Written read place keys w s s'' :=
  ⟨h'.inside, fun i hi => (h'.outside i hi).trans (h.outside i hi)⟩

/-- What a field was written to is determined cell by cell. -/
theorem Written.unique (h : Written read place keys v s s') (h' : Written read place keys v s s'')
    (i : ι) : read s' i = read s'' i := by
  by_cases hi : ∃ k, keys k ∧ place k = i
  · obtain ⟨k, hk, rfl⟩ := hi
    rw [h.inside k hk, h'.inside k hk]
  · have hout : ∀ k, keys k → place k ≠ i := fun k hk heq => hi ⟨k, hk, heq⟩
    rw [h.outside i hout, h'.outside i hout]

/--
A loop that writes one key after the other, each at a place of its own. `P` is what a store
needs for a write to reach it, such as being large enough.
-/
theorem Written.foldl {write : S → κ → S} {P : S → Prop}
    (hkept : ∀ s k, P s → P (write s k))
    (hother : ∀ s k i, place k ≠ i → read (write s k) i = read s i) : ∀ {ks : List κ} {s : S},
    (∀ s, P s → ∀ k ∈ ks, read (write s k) (place k) = v k) →
    (∀ k ∈ ks, ∀ k' ∈ ks, place k = place k' → k = k') → P s →
    Written read place (· ∈ ks) v s (ks.foldl write s)
  | [], s, _, _, _ => ⟨fun _ hk => absurd hk List.not_mem_nil, fun _ _ => rfl⟩
  | k :: ks, s, hself, hinj, hs => by
      have ih : Written read place (· ∈ ks) v (write s k) (ks.foldl write (write s k)) :=
        Written.foldl hkept hother
          (fun s hs k' hk' => hself s hs k' (List.mem_cons_of_mem _ hk'))
          (fun k' hk' k'' hk'' => hinj k' (List.mem_cons_of_mem _ hk') k'' (List.mem_cons_of_mem _ hk''))
          (hkept s k hs)
      rw [List.foldl_cons]
      refine ⟨fun k' hk' => ?_, fun i hi => ?_⟩
      · by_cases hlater : k' ∈ ks
        · exact ih.inside k' hlater
        · -- written first, and no later place is the same
          obtain rfl : k' = k := (List.mem_cons.mp hk').resolve_right hlater
          rw [ih.outside (place k') (fun k'' hk'' heq => hlater
            (hinj k'' (List.mem_cons_of_mem _ hk'') k' List.mem_cons_self heq ▸ hk''))]
          exact hself s hs k' List.mem_cons_self
      · rw [ih.outside i (fun k' hk' => hi k' (List.mem_cons_of_mem _ hk'))]
        exact hother s k i (hi k List.mem_cons_self)

end Fields
