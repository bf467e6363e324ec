import Mathlib.Data.List.Infix

/-!
# What stands between two affixes

A hand-written parser of delimited names: the text has to start with one string and end with
another, and what stands between them is one non-empty level. The two may overlap in the
text, in which case nothing stands between them.
-/

namespace Affix

variable {α : Type} {separator : α} {base ending text level : List α}

theorem slice_append :
    ((base ++ level ++ ending).drop base.length).take
      ((base ++ level ++ ending).length - ending.length - base.length) = level := by
  rw [List.append_assoc, List.drop_left, List.length_append, List.length_append]
  exact List.take_left' (by omega)

/-- A text with both affixes that do not overlap is cut in three. -/
theorem append_slice (hbase : base <+: text) (hending : ending <:+ text)
    (hlength : base.length + ending.length ≤ text.length) :
    base ++ (text.drop base.length).take (text.length - ending.length - base.length) ++ ending
      = text := by
  obtain ⟨rest, rfl⟩ := hbase
  rw [List.length_append] at hlength
  have hrest : ending <:+ rest :=
    List.suffix_of_suffix_length_le hending (List.suffix_append base rest) (by omega)
  obtain ⟨level, rfl⟩ := hrest
  rw [← List.append_assoc, slice_append]

/-- The first level of a text ends at its first separator. -/
theorem level_inj {level' rest rest' : List α} (h : separator ∉ level) (h' : separator ∉ level')
    (heq : level ++ separator :: rest = level' ++ separator :: rest') :
    level = level' ∧ rest = rest' := by
  induction level generalizing level' with
  | nil =>
      cases level' with
      | nil => exact ⟨rfl, (List.cons.inj heq).2⟩
      | cons a level' => exact absurd ((List.cons.inj heq).1 ▸ List.mem_cons_self) h'
  | cons a level ih =>
      cases level' with
      | nil => exact absurd ((List.cons.inj heq).1 ▸ List.mem_cons_self) h
      | cons a' level' =>
          obtain ⟨rfl, htail⟩ := List.cons.inj heq
          obtain ⟨rfl, hrest⟩ := ih (fun hmem => h (List.mem_cons_of_mem _ hmem))
            (fun hmem => h' (List.mem_cons_of_mem _ hmem)) htail
          exact ⟨rfl, hrest⟩

variable [DecidableEq α]

/-- `text[len(base):-len(ending)]`, where the text has both and the slice is one level. -/
def between (separator : α) (base ending text : List α) : Option (List α) :=
  if base.isPrefixOf text ∧ ending.isSuffixOf text then
    let level := (text.drop base.length).take (text.length - ending.length - base.length)
    if level = [] ∨ separator ∈ level then none else some level
  else none

/-- **The parser inverts the concatenation, and accepts nothing else.** -/
theorem between_eq_some_iff : between separator base ending text = some level
    ↔ text = base ++ level ++ ending ∧ level ≠ [] ∧ separator ∉ level := by
  unfold between
  constructor
  · intro h
    split at h
    · rename_i haffixes
      dsimp only at h
      split at h
      · cases h
      · rename_i hlevel
        obtain rfl := Option.some.inj h
        obtain ⟨hne, hseparator⟩ := not_or.mp hlevel
        refine ⟨(append_slice (List.isPrefixOf_iff_prefix.mp haffixes.1)
          (List.isSuffixOf_iff_suffix.mp haffixes.2) ?_).symm, hne, hseparator⟩
        -- affixes that overlap leave an empty slice
        by_contra hoverlap
        refine hne (List.take_eq_nil_iff.mpr (Or.inl ?_))
        omega
    · cases h
  · rintro ⟨rfl, hne, hseparator⟩
    have hbase : base.isPrefixOf (base ++ level ++ ending) = true :=
      List.isPrefixOf_iff_prefix.mpr ⟨level ++ ending, (List.append_assoc ..).symm⟩
    have hending : ending.isSuffixOf (base ++ level ++ ending) = true :=
      List.isSuffixOf_iff_suffix.mpr ⟨base ++ level, rfl⟩
    rw [if_pos ⟨hbase, hending⟩, slice_append]
    exact if_neg (not_or.mpr ⟨hne, hseparator⟩)

theorem between_append (hne : level ≠ []) (hseparator : separator ∉ level) :
    between separator base ending (base ++ level ++ ending) = some level :=
  between_eq_some_iff.mpr ⟨rfl, hne, hseparator⟩

/-- A text that is put together otherwise has nothing between. -/
theorem between_eq_none (h : ∀ level, separator ∉ level → text ≠ base ++ level ++ ending) :
    between separator base ending text = none := by
  cases hparsed : between separator base ending text with
  | none => rfl
  | some level =>
      obtain ⟨htext, _, hseparator⟩ := between_eq_some_iff.mp hparsed
      exact absurd htext (h level hseparator)

end Affix
