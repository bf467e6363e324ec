import Mathlib.Data.List.Nodup
import Mathlib.Data.List.Pairwise

/-!
# First come, first served

Items want resources and take them one after the other. An item that finds one of them
taken gets nothing, yet keeps what it took before: nothing is given back. What is served
depends on the order of the items exactly when two of them want the same resource.
-/

namespace Claims

variable {α ρ : Type} {wants : α → Option (List ρ)} {a b : α}

/-- The two items want nothing in common. -/
def Apart (wants : α → Option (List ρ)) (a b : α) : Prop :=
  ∀ wanted wanted', wants a = some wanted → wants b = some wanted' → ∀ r ∈ wanted, r ∉ wanted'

theorem Apart.symm (h : Apart wants a b) : Apart wants b a :=
  fun wanted wanted' hb ha r hr hr' => h wanted' wanted ha hb r hr' hr

instance : Std.Symm (Apart wants) := ⟨fun _ _ h => Apart.symm h⟩

/-- Nobody wants a resource twice. -/
def Sensible (wants : α → Option (List ρ)) : Prop :=
  ∀ a wanted, wants a = some wanted → wanted.Nodup

variable [DecidableEq ρ]

/-- Take the resources in turn, up to the first that is taken, and say whether all were free. -/
def acquire : List ρ → List ρ → List ρ × Bool
  | [], taken => (taken, true)
  | r :: wanted, taken => if r ∈ taken then (taken, false) else acquire wanted (r :: taken)

/-- The items that get all they want; an item without a claim gets nothing and takes nothing. -/
def served (wants : α → Option (List ρ)) : List α → List ρ → List α
  | [], _ => []
  | a :: items, taken =>
      match wants a with
      | none => served wants items taken
      | some wanted =>
          if (acquire wanted taken).2 then a :: served wants items (acquire wanted taken).1
          else served wants items (acquire wanted taken).1

variable {items : List α} {r : ρ}

/-! ## One item -/

theorem taken_acquire : ∀ {wanted taken : List ρ}, r ∈ taken → r ∈ (acquire wanted taken).1
  | [], _, h => h
  | w :: wanted, taken, h => by
      rw [acquire]
      split
      · exact h
      · exact taken_acquire (List.mem_cons_of_mem _ h)

theorem acquire_subset : ∀ {wanted taken : List ρ}, r ∈ (acquire wanted taken).1 →
    r ∈ taken ∨ r ∈ wanted
  | [], _, h => Or.inl h
  | w :: wanted, taken, h => by
      rw [acquire] at h
      split at h
      · exact Or.inl h
      · rcases acquire_subset h with hmem | hmem
        · rcases List.mem_cons.mp hmem with rfl | hmem
          · exact Or.inr (List.mem_cons_self ..)
          · exact Or.inl hmem
        · exact Or.inr (List.mem_cons_of_mem _ hmem)

theorem acquire_all : ∀ {wanted taken : List ρ}, (acquire wanted taken).2 = true →
    ∀ r ∈ wanted, r ∈ (acquire wanted taken).1
  | [], _, _ => fun _ h => absurd h List.not_mem_nil
  | w :: wanted, taken, h => by
      rw [acquire] at h ⊢
      split at h
      · cases h
      · rename_i hfree
        rw [if_neg hfree]
        exact List.forall_mem_cons.mpr
          ⟨taken_acquire (List.mem_cons_self ..), acquire_all h⟩

/-- An item gets what it wants exactly when all of it is free. -/
theorem acquire_iff : ∀ {wanted taken : List ρ}, wanted.Nodup →
    ((acquire wanted taken).2 = true ↔ ∀ r ∈ wanted, r ∉ taken)
  | [], _, _ => ⟨fun _ _ h => absurd h List.not_mem_nil, fun _ => rfl⟩
  | w :: wanted, taken, hnodup => by
      rw [List.nodup_cons] at hnodup
      rw [acquire, List.forall_mem_cons]
      split
      · rename_i htaken
        exact iff_of_false Bool.false_ne_true (fun h => h.1 htaken)
      · rename_i hfree
        rw [acquire_iff hnodup.2]
        constructor
        · exact fun h => ⟨hfree, fun r hr hmem => h r hr (List.mem_cons_of_mem _ hmem)⟩
        · intro h r hr hmem
          rcases List.mem_cons.mp hmem with rfl | hmem
          · exact hnodup.1 hr
          · exact h.2 r hr hmem

/-! ## All items -/

theorem served_sublist : ∀ {items : List α} {taken : List ρ},
    (served wants items taken).Sublist items
  | [], _ => .slnil
  | a :: items, taken => by
      rw [served]
      split
      · exact served_sublist.cons a
      · split
        · exact served_sublist.cons_cons a
        · exact served_sublist.cons a

/-- What was served found its resources free. -/
theorem served_free (hsensible : Sensible wants) : ∀ {items : List α} {taken : List ρ} {a : α},
    a ∈ served wants items taken → ∃ wanted, wants a = some wanted ∧ ∀ r ∈ wanted, r ∉ taken
  | [], _, _, h => absurd h List.not_mem_nil
  | b :: items, taken, a, h => by
      rw [served] at h
      split at h
      · exact served_free hsensible h
      · rename_i wanted hwants
        have hlater : a ∈ served wants items (acquire wanted taken).1 →
            ∃ wanted, wants a = some wanted ∧ ∀ r ∈ wanted, r ∉ taken := by
          intro h
          obtain ⟨wanted', hwants', hfree⟩ := served_free hsensible h
          exact ⟨wanted', hwants', fun r hr hmem => hfree r hr (taken_acquire hmem)⟩
        split at h
        · rename_i hok
          rcases List.mem_cons.mp h with rfl | h
          · exact ⟨wanted, hwants, (acquire_iff (hsensible a wanted hwants)).mp hok⟩
          · exact hlater h
        · exact hlater h

/-- **No resource is served twice.** -/
theorem served_apart (hsensible : Sensible wants) : ∀ {items : List α} {taken : List ρ},
    (served wants items taken).Pairwise (Apart wants)
  | [], _ => .nil
  | a :: items, taken => by
      rw [served]
      split
      · exact served_apart hsensible
      · rename_i wanted hwants
        split
        · rename_i hok
          refine List.pairwise_cons.mpr ⟨fun b hb => ?_, served_apart hsensible⟩
          obtain ⟨wanted', hwants', hfree⟩ := served_free hsensible hb
          intro w w' hw hw' r hr hr'
          cases hwants.symm.trans hw
          cases hwants'.symm.trans hw'
          exact hfree r hr' (acquire_all hok r hr)
        · exact served_apart hsensible

/-- Items that want nothing in common, and nothing that is taken, are all served. -/
theorem served_of_apart (hsensible : Sensible wants) : ∀ {items : List α} {taken : List ρ},
    items.Pairwise (Apart wants) →
      (∀ a ∈ items, ∀ wanted, wants a = some wanted → ∀ r ∈ wanted, r ∉ taken) →
      ∀ a ∈ items, (wants a).isSome = true → a ∈ served wants items taken
  | [], _, _, _ => fun _ h _ => absurd h List.not_mem_nil
  | b :: items, taken, hapart, hfree => by
      intro a ha hsome
      rw [List.pairwise_cons] at hapart
      have hfreeLater := fun c (hc : c ∈ items) => hfree c (List.mem_cons_of_mem _ hc)
      rw [served]
      split
      · rename_i hnone
        rcases List.mem_cons.mp ha with rfl | ha
        · rw [hnone] at hsome
          cases hsome
        · exact served_of_apart hsensible hapart.2 hfreeLater a ha hsome
      · rename_i wanted hwants
        have hok := (acquire_iff (hsensible b wanted hwants)).mpr
          (hfree b (List.mem_cons_self ..) wanted hwants)
        rw [if_pos hok]
        rcases List.mem_cons.mp ha with rfl | ha
        · exact List.mem_cons_self ..
        · refine List.mem_cons_of_mem _ (served_of_apart hsensible hapart.2 ?_ a ha hsome)
          intro c hc wanted' hwants' r hr hmem
          rcases acquire_subset hmem with hmem | hmem
          · exact hfreeLater c hc wanted' hwants' r hr hmem
          · exact hapart.1 c hc wanted wanted' hwants hwants' r hmem hr

/-- Who comes first is served. -/
theorem served_head (hsensible : Sensible wants) (h : (wants a).isSome = true) :
    a ∈ served wants (a :: items) [] := by
  obtain ⟨wanted, hwants⟩ := Option.isSome_iff_exists.mp h
  have hok : (acquire wanted []).2 = true :=
    (acquire_iff (hsensible a wanted hwants)).mpr (fun _ _ h => absurd h List.not_mem_nil)
  rw [served, hwants]
  dsimp only
  rw [if_pos hok]
  exact List.mem_cons_self ..

/-- **The order does not matter exactly when no two items want the same.** -/
theorem served_order_iff (hsensible : Sensible wants) (hnodup : items.Nodup) :
    (∀ items' : List α, items'.Perm items → ∀ a, a ∈ served wants items' []
        ↔ a ∈ served wants items [])
      ↔ items.Pairwise (Apart wants) := by
  constructor
  · intro h
    have hfirst : ∀ a ∈ items, (wants a).isSome = true → a ∈ served wants items [] := by
      intro a ha hsome
      obtain ⟨before, after, rfl⟩ := List.append_of_mem ha
      exact (h _ List.perm_middle.symm a).mp (served_head hsensible hsome)
    refine hnodup.pairwise_of_forall_ne (fun a ha b hb hne wanted wanted' hwa hwb => ?_)
    have hapart : (served wants items []).Pairwise (Apart wants) := served_apart hsensible
    exact hapart.forall (hfirst a ha (hwa ▸ rfl)) (hfirst b hb (hwb ▸ rfl)) hne
      wanted wanted' hwa hwb
  · intro hapart items' hperm a
    have hapart' : items'.Pairwise (Apart wants) :=
      (hperm.pairwise_iff (fun h => Apart.symm h)).mpr hapart
    have hserved : ∀ {list : List α}, list.Pairwise (Apart wants) →
        (a ∈ served wants list [] ↔ a ∈ list ∧ (wants a).isSome = true) := by
      intro list hlist
      constructor
      · intro h
        obtain ⟨wanted, hwants, _⟩ := served_free hsensible h
        exact ⟨served_sublist.subset h, hwants ▸ rfl⟩
      · exact fun h => served_of_apart hsensible hlist
          (fun _ _ _ _ _ _ hmem => absurd hmem List.not_mem_nil) a h.1 h.2
    rw [hserved hapart', hserved hapart, hperm.mem_iff]

end Claims
