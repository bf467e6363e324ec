import Mathlib.Data.List.Induction
import Mathlib.Order.Lattice

/-!
# Records of a sequence

Items that carry a time arrive in any order. A *record* is one that is later than
every record before it; the rest are dropped. The records come out in increasing
order of time, the last of them is the first of the latest items that arrived, and
`latestChange` is the time of the last record that differs from the one before it.

Each notion has its rule for one more item at the end, which is what an
incremental program computes.
-/

namespace Records

variable {α τ : Type} (time : α → τ)

/-- The time of the last item that differs from the one before it. -/
def latestChange (differs : α → α → Bool) (l : List α) : Option τ :=
  ((l.zip l.tail).filter (fun p => differs p.1 p.2)).getLast?.map (fun p => time p.2)

theorem consecutive_concat (x : α) : ∀ l : List α,
    (l ++ [x]).zip (l ++ [x]).tail = l.zip l.tail ++ (l.getLast?.map (·, x)).toList
  | [] => rfl
  | [a] => rfl
  | a :: b :: l => by
      have ih := consecutive_concat x (b :: l)
      simp only [List.cons_append, List.tail_cons, List.zip_cons_cons, List.getLast?_cons_cons] at ih ⊢
      rw [ih]

theorem latestChange_concat {time : α → τ} (differs : α → α → Bool) (l : List α) (x : α) :
    latestChange time differs (l ++ [x])
      = if l.getLast?.any (differs · x) then some (time x) else latestChange time differs l := by
  unfold latestChange
  rw [consecutive_concat, List.filter_append]
  cases l.getLast? with
  | none => simp
  | some p =>
      cases h : differs p x with
      | true => simp [h]
      | false => simp [h]

variable [LinearOrder τ]

/-- The items later than every record before them. -/
def records (l : List α) : List α :=
  l.foldl (fun acc x => if acc.all (time · < time x) then acc ++ [x] else acc) []

variable {time}

theorem records_concat (l : List α) (x : α) : records time (l ++ [x])
    = if (records time l).all (time · < time x) then records time l ++ [x] else records time l := by
  simp [records, List.foldl_append]

/-! ## Order -/

theorem records_pairwise (l : List α) :
    (records time l).Pairwise (fun a b => time a < time b) := by
  induction l using List.reverseRecOn with
  | nil => exact List.Pairwise.nil
  | append_singleton l x ih =>
      rw [records_concat]
      split
      · rename_i hlater
        rw [List.all_eq_true] at hlater
        rw [List.pairwise_append]
        refine ⟨ih, List.pairwise_singleton .., fun a ha b hb => ?_⟩
        rw [List.mem_singleton.mp hb]
        exact of_decide_eq_true (hlater a ha)
      · exact ih

/-- Items that arrive in order are all records. -/
theorem records_of_pairwise {l : List α} (h : l.Pairwise (fun a b => time a < time b)) :
    records time l = l := by
  induction l using List.reverseRecOn with
  | nil => rfl
  | append_singleton l x ih =>
      obtain ⟨hold, _, hlater⟩ := List.pairwise_append.mp h
      rw [records_concat, ih hold, if_pos]
      exact List.all_eq_true.mpr fun a ha =>
        decide_eq_true (hlater a ha x (List.mem_singleton.mpr rfl))

/-- An item is later than every record when it is later than the last one. -/
theorem later_iff (l : List α) (t : τ) :
    (records time l).all (time · < t) = true
      ↔ ∀ r, (records time l).getLast? = some r → time r < t := by
  rw [List.all_eq_true]
  constructor
  · intro h r hr
    exact of_decide_eq_true (h r (List.mem_of_getLast? hr))
  · intro h a ha
    rw [decide_eq_true_eq]
    obtain ⟨init, r, hr⟩ : ∃ init r, records time l = init ++ [r] :=
      ⟨_, _, (List.dropLast_concat_getLast (List.ne_nil_of_mem ha)).symm⟩
    have hlast : time r < t := h r (by rw [hr]; simp)
    have hsorted : (records time l).Pairwise (fun a b => time a < time b) := records_pairwise l
    rw [hr] at ha hsorted
    rcases List.mem_append.mp ha with hinit | hself
    · have hbefore := (List.pairwise_append.mp hsorted).2.2 a hinit r (List.mem_singleton.mpr rfl)
      exact lt_trans hbefore hlast
    · rw [List.mem_singleton.mp hself]
      exact hlast

/-- No item is later than every record. -/
theorem exists_record {l : List α} {x : α} (h : x ∈ l) : ∃ a ∈ records time l, time x ≤ time a := by
  induction l using List.reverseRecOn with
  | nil => cases h
  | append_singleton l y ih =>
      rw [records_concat]
      rcases List.mem_append.mp h with hold | hnew
      · obtain ⟨a, ha, hle⟩ := ih hold
        split
        · exact ⟨a, List.mem_append_left _ ha, hle⟩
        · exact ⟨a, ha, hle⟩
      · obtain rfl := List.mem_singleton.mp hnew
        split
        · exact ⟨x, List.mem_append_right _ hnew, le_refl _⟩
        · rename_i hearlier
          simpa using hearlier

/-- **The last record is the first of the latest items.** -/
theorem last_record {l : List α} {r : α} (h : (records time l).getLast? = some r) :
    ∃ before after, l = before ++ r :: after ∧ (∀ b ∈ before, time b < time r)
      ∧ ∀ a ∈ after, time a ≤ time r := by
  induction l using List.reverseRecOn generalizing r with
  | nil => cases h
  | append_singleton l x ih =>
      rw [records_concat] at h
      split at h
      · rename_i hlater
        rw [List.getLast?_concat] at h
        cases h
        refine ⟨l, [], rfl, fun b hb => ?_, fun a ha => absurd ha List.not_mem_nil⟩
        obtain ⟨a, ha, hle⟩ : ∃ a ∈ records time l, time b ≤ time a := exists_record hb
        rw [List.all_eq_true] at hlater
        exact lt_of_le_of_lt hle (of_decide_eq_true (hlater a ha))
      · rename_i hearlier
        obtain ⟨before, after, hl, hbefore, hafter⟩ := ih h
        refine ⟨before, after ++ [x], by rw [hl, List.append_assoc]; rfl, hbefore, fun a ha => ?_⟩
        rcases List.mem_append.mp ha with hold | hnew
        · exact hafter a hold
        · rw [List.mem_singleton.mp hnew]
          by_contra hlt
          refine hearlier ((later_iff l (time x)).mpr fun r' hr' => ?_)
          rw [h] at hr'
          cases hr'
          exact not_le.mp hlt

end Records
