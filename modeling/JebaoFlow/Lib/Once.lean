import Mathlib.Data.List.Basic
import Mathlib.Data.List.Nodup

/-!
# Made once for every key

A list of items comes again and again, longer, shorter or changed, and of an item something
is made when its key is seen for the first time. Making can fail. A key counts as known from
the moment something was made of its item; if a later item of the same list fails, what was
made in this round is lost.

`Batched` holds of any sequence of lists: what was handed over consists of batches of
different keys. `Settled` is about lists that say the same: their items are handed over
together, and never again.
-/

namespace Once

variable {κ α β ε : Type} [DecidableEq κ]

/-- The keys that are known in the end, and what was made of the items with a new key. -/
def discover (key : α → Option κ) (make : α → Except ε (List β)) :
    List α → List κ → List κ × Except ε (List β)
  | [], known => (known, .ok [])
  | item :: rest, known =>
    match key item with
    | none => discover key make rest known
    | some k =>
      if k ∈ known then discover key make rest known
      else
        match make item with
        | .error e => (known, .error e)
        | .ok [] => discover key make rest known
        | .ok made =>
          let later := discover key make rest (known ++ [k])
          (later.1, later.2.map (made ++ ·))

/-- What is known, and everything that was handed over. -/
structure Seen (κ β : Type) where
  known : List κ := []
  added : List β := []

variable {key : α → Option κ} {make : α → Except ε (List β)} {items : List α} {s : Seen κ β}

/-- One more list; nothing is handed over when an item fails. -/
def Seen.call (key : α → Option κ) (make : α → Except ε (List β)) (items : List α)
    (s : Seen κ β) : Seen κ β × Option ε :=
  let found := discover key make items s.known
  match found.2 with
  | .ok made => ({ known := found.1, added := s.added ++ made }, none)
  | .error e => ({ s with known := found.1 }, some e)

theorem discover_map {γ : Type} (f : γ → α) : ∀ {items : List γ} {known : List κ},
    discover key make (items.map f) known = discover (key ∘ f) (make ∘ f) items known
  | [], _ => rfl
  | item :: rest, known => by
      rw [List.map_cons]
      unfold discover
      simp only [Function.comp_apply, discover_map f]

theorem call_map {γ : Type} (f : γ → α) {items : List γ} :
    s.call key make (items.map f) = s.call (key ∘ f) (make ∘ f) items := by
  unfold Seen.call
  rw [discover_map]

/-! ## Any sequence of lists -/

section Batches

variable {P : κ → List β → Prop}

/-- What was handed over, split into batches of different keys. -/
def Batched (P : κ → List β → Prop) (s : Seen κ β) : Prop :=
  ∃ batches : List (κ × List β), s.added = batches.flatMap Prod.snd
    ∧ (batches.map Prod.fst).Nodup ∧ (∀ b ∈ batches, b.1 ∈ s.known)
    ∧ ∀ b ∈ batches, P b.1 b.2

/-- What is known stays known. -/
theorem known_subset : ∀ {items : List α} {known : List κ},
    ∀ k ∈ known, k ∈ (discover key make items known).1
  | [], _, _, hk => hk
  | item :: rest, known, k, hk => by
      unfold discover
      split
      · exact known_subset k hk
      · split
        · exact known_subset k hk
        · split
          · exact hk
          · exact known_subset k hk
          · exact known_subset k (List.mem_append_left _ hk)

/-- What a round hands over is made of new keys, one batch each. -/
theorem discover_batches : ∀ {items : List α} {known : List κ} {made : List β},
    (∀ item ∈ items, ∀ k made, key item = some k → make item = .ok made → P k made) →
    (discover key make items known).2 = .ok made →
      ∃ batches : List (κ × List β), made = batches.flatMap Prod.snd
        ∧ (batches.map Prod.fst).Nodup
        ∧ (∀ b ∈ batches, b.1 ∉ known ∧ b.1 ∈ (discover key make items known).1)
        ∧ ∀ b ∈ batches, P b.1 b.2
  | [], _, _, _, hmade => by
      cases hmade
      exact ⟨[], rfl, List.nodup_nil, by simp, by simp⟩
  | item :: rest, known, made, hP, hmade => by
      have hrest : ∀ item ∈ rest, ∀ k made, key item = some k → make item = .ok made → P k made :=
        fun i hi => hP i (List.mem_cons_of_mem _ hi)
      unfold discover at hmade ⊢
      split at hmade
      · exact discover_batches hrest hmade
      · rename_i k hkey
        split at hmade
        · rename_i hknown
          rw [if_pos hknown]
          exact discover_batches hrest hmade
        · rename_i hnew
          rw [if_neg hnew]
          split at hmade
          · cases hmade
          · exact discover_batches hrest hmade
          · rename_i first hne hmake
            cases hlater : (discover key make rest (known ++ [k])).2 with
            | error e =>
                simp only [hlater] at hmade
                cases hmade
            | ok others =>
                simp only [hlater] at hmade
                cases hmade
                obtain ⟨batches, rfl, hnodup, hfresh, hkeeps⟩ := discover_batches hrest hlater
                refine ⟨(k, first) :: batches, rfl, ?_, ?_, ?_⟩
                · rw [List.map_cons, List.nodup_cons]
                  refine ⟨fun hmem => ?_, hnodup⟩
                  obtain ⟨b, hb, hsame⟩ := List.mem_map.mp hmem
                  exact (hfresh b hb).1 (List.mem_append_right _ (hsame ▸ List.mem_singleton_self _))
                · intro b hb
                  rcases List.mem_cons.mp hb with rfl | hb
                  · exact ⟨hnew, known_subset k (List.mem_append_right _ (List.mem_singleton_self k))⟩
                  · exact ⟨fun hold => (hfresh b hb).1 (List.mem_append_left _ hold), (hfresh b hb).2⟩
                · intro b hb
                  rcases List.mem_cons.mp hb with rfl | hb
                  · exact hP item (List.mem_cons_self ..) k first hkey hmake
                  · exact hkeeps b hb

omit [DecidableEq κ] in
theorem batched_nil : Batched P ({} : Seen κ β) :=
  ⟨[], rfl, List.nodup_nil, by simp, by simp⟩

/-- **No key is handed over twice, whatever the lists are and whichever of them fail.** -/
theorem Batched.call (hP : ∀ item ∈ items, ∀ k made, key item = some k → make item = .ok made →
    P k made) (h : Batched P s) : Batched P (s.call key make items).1 := by
  obtain ⟨batches, hadded, hnodup, hknown, hkeeps⟩ := h
  unfold Seen.call
  dsimp only
  split
  · rename_i made hmade
    obtain ⟨more, rfl, hnodup', hfresh, hkeeps'⟩ := discover_batches hP hmade
    refine ⟨batches ++ more, ?_, ?_, ?_, ?_⟩
    · rw [hadded, List.flatMap_append]
    · rw [List.map_append, List.nodup_append]
      refine ⟨hnodup, hnodup', fun k hk k' hk' hsame => ?_⟩
      obtain ⟨b, hb, rfl⟩ := List.mem_map.mp hk
      obtain ⟨b', hb', rfl⟩ := List.mem_map.mp hk'
      exact (hfresh b' hb').1 (hsame ▸ hknown b hb)
    · intro b hb
      rcases List.mem_append.mp hb with hold | hnew
      · exact known_subset _ (hknown b hold)
      · exact (hfresh b hnew).2
    · intro b hb
      rcases List.mem_append.mp hb with hold | hnew
      · exact hkeeps b hold
      · exact hkeeps' b hnew
  · exact ⟨batches, hadded, hnodup, fun b hb => known_subset _ (hknown b hb), hkeeps⟩

end Batches

/-! ## Lists that say the same -/

section Settled

variable {name : α → κ} {parts : α → List β}

/-- What is known and made of a list of items with different keys, none of which fails. -/
theorem discover_ok : ∀ {items : List α} {known : List κ},
    (∀ item ∈ items, key item = some (name item) ∧ make item = .ok (parts item)) →
    (items.map name).Nodup →
    discover key make items known
      = (known ++ (items.filter (fun item => name item ∉ known ∧ parts item ≠ [])).map name,
          .ok ((items.filter (fun item => name item ∉ known)).flatMap parts))
  | [], known, _, _ => by simp [discover]
  | item :: rest, known, hitems, hnodup => by
      obtain ⟨hkey, hmake⟩ := hitems item (List.mem_cons_self ..)
      have hrest := fun i hi => hitems i (List.mem_cons_of_mem item hi)
      rw [List.map_cons, List.nodup_cons] at hnodup
      unfold discover
      rw [hkey]
      dsimp only
      by_cases hknown : name item ∈ known
      · rw [if_pos hknown, discover_ok hrest hnodup.2, List.filter_cons_of_neg (by simp [hknown]),
          List.filter_cons_of_neg (by simp [hknown])]
      rw [if_neg hknown, hmake]
      cases hparts : parts item with
      | nil =>
          dsimp only
          rw [discover_ok hrest hnodup.2, List.filter_cons_of_neg (by simp [hparts]),
            List.filter_cons_of_pos (by simp [hknown]), List.flatMap_cons, hparts, List.nil_append]
      | cons part others =>
          dsimp only
          have hsame : ∀ i ∈ rest, (name i ∉ known ++ [name item] ↔ name i ∉ known) := by
            intro i hi
            have hne : name i ≠ name item := fun heq => hnodup.1 (heq ▸ List.mem_map_of_mem hi)
            simp [hne]
          have hboth : rest.filter (fun i => name i ∉ known ++ [name item] ∧ parts i ≠ [])
              = rest.filter (fun i => name i ∉ known ∧ parts i ≠ []) :=
            List.filter_congr fun i hi => by rw [decide_eq_decide, hsame i hi]
          have hnew : rest.filter (fun i => name i ∉ known ++ [name item])
              = rest.filter (fun i => name i ∉ known) :=
            List.filter_congr fun i hi => by rw [decide_eq_decide, hsame i hi]
          rw [discover_ok hrest hnodup.2, hboth, hnew, List.filter_cons_of_pos (by simp [hknown, hparts]),
            List.filter_cons_of_pos (by simp [hknown]), List.flatMap_cons, hparts, List.map_cons,
            List.append_assoc]
          rfl

/-- The items were seen, or none of them was. -/
inductive Settled (name : α → κ) (parts : α → List β) (items : List α) (s : Seen κ β) : Prop
  | before (hknown : s.known = []) (hadded : s.added = [])
  | after (hknown : ∀ item ∈ items, name item ∉ s.known → parts item = [])
      (hadded : s.added = items.flatMap parts)

/-- **The first round hands everything over, and no later one anything.** -/
theorem Settled.call
    (hitems : ∀ item ∈ items, key item = some (name item) ∧ make item = .ok (parts item))
    (hnodup : (items.map name).Nodup) (h : Settled name parts items s) :
    (s.call key make items).2 = none
      ∧ (s.call key make items).1.added = items.flatMap parts
      ∧ Settled name parts items (s.call key make items).1 := by
  have hseen : ∀ i ∈ items, name i ∉ s.known ++ (items.filter
      (fun item => name item ∉ s.known ∧ parts item ≠ [])).map name → parts i = [] := by
    intro i hi hnew
    by_contra hne
    refine hnew ?_
    by_cases hknown : name i ∈ s.known
    · exact List.mem_append_left _ hknown
    · exact List.mem_append_right _ (List.mem_map_of_mem
        (List.mem_filter.mpr ⟨hi, by simp [hknown, hne]⟩))
  have hcall : s.call key make items = (⟨s.known ++ (items.filter
        (fun item => name item ∉ s.known ∧ parts item ≠ [])).map name,
      s.added ++ (items.filter (fun item => name item ∉ s.known)).flatMap parts⟩, none) := by
    unfold Seen.call
    rw [discover_ok hitems hnodup]
  have hadded : s.added ++ (items.filter (fun item => name item ∉ s.known)).flatMap parts
      = items.flatMap parts := by
    cases h with
    | before hknown hadded =>
        rw [hknown, hadded, List.nil_append, List.filter_eq_self.mpr (by simp)]
    | after hknown hadded =>
        have hnone : (items.filter (fun item => name item ∉ s.known)).flatMap parts = [] := by
          rw [List.flatMap_eq_nil_iff]
          intro i hi
          obtain ⟨hmem, hnew⟩ := List.mem_filter.mp hi
          exact hknown i hmem (of_decide_eq_true hnew)
        rw [hnone, List.append_nil, hadded]
  rw [hcall]
  exact ⟨rfl, hadded, Settled.after hseen hadded⟩

end Settled

end Once
