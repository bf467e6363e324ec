import Mathlib.Data.List.Basic

/-!
# Topic filters

A topic is cut into levels at its slashes. A filter is a topic in which `+` stands for any
one level and a `#` at the end for any number of them; neither stands for the first level of
a topic that starts with a dollar sign.
-/

namespace TopicFilter

def matchesLevels : List (List Char) → List (List Char) → Bool
  | [['#']], _ => true
  | wanted :: filter, level :: topic =>
    (wanted == ['+'] || wanted == level) && matchesLevels filter topic
  | [], [] => true
  | _, _ => false

/-- The filter stands for its first level. -/
def startsWild (filter : List Char) : Bool := filter.head? = some '+' || filter.head? = some '#'

def covers (filter topic : List Char) : Bool :=
  !(topic.head? = some '$' && startsWild filter)
    && matchesLevels (filter.splitOn '/') (topic.splitOn '/')

/-- A common front of levels does not matter. -/
theorem matchesLevels_append {filter topic : List (List Char)} (hfilter : filter ≠ []) :
    ∀ front : List (List Char),
      matchesLevels (front ++ filter) (front ++ topic) = matchesLevels filter topic
  | [] => rfl
  | level :: front => by
      have hne : front ++ filter ≠ [] := fun hnil => hfilter (List.append_eq_nil_iff.mp hnil).2
      rw [List.cons_append, List.cons_append]
      have hcons : matchesLevels (level :: (front ++ filter)) (level :: (front ++ topic))
          = ((level == ['+'] || level == level) && matchesLevels (front ++ filter) (front ++ topic)) := by
        cases hrest : front ++ filter with
        | nil => exact absurd hrest hne
        | cons next rest => rw [matchesLevels]; nofun
      rw [hcons, beq_self_eq_true, Bool.or_true, Bool.true_and, matchesLevels_append hfilter front]

/-- **Below a common base without wildcards at its start, the levels below the base decide.** -/
theorem covers_below {base filter topic : List Char} (hbase : base ≠ [])
    (hplain : startsWild base = false) :
    covers (base ++ '/' :: filter) (base ++ '/' :: topic)
      = matchesLevels (filter.splitOn '/') (topic.splitOn '/') := by
  obtain ⟨first, rest, rfl⟩ := List.exists_cons_of_ne_nil hbase
  have hwild : startsWild (first :: rest ++ '/' :: filter) = false := hplain
  unfold covers
  rw [hwild, Bool.and_false, Bool.not_false, Bool.true_and, List.splitOn_append_cons_self,
    List.splitOn_append_cons_self]
  exact matchesLevels_append (List.splitOn_ne_nil _ _) _

end TopicFilter
