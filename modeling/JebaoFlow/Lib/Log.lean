import Mathlib.Data.List.Basic

/-!
# The last value of a key

Entries of a log have a key and may carry a value. `last` is the value of the last entry
of a key that carries one. Two rules extend it over what is appended; the third says what
becomes of it when an entry is put before others that were ahead of it, as by a writer
that is faster than the one before.
-/

namespace Log

variable {α κ ν : Type} [DecidableEq κ] (key : α → κ) (value : α → Option ν)

/-- The last value the log has of a key. -/
def last (log : List α) (k : κ) : Option ν :=
  ((log.filter (fun a => key a = k)).filterMap value).getLast?

variable {key value}

theorem last_append (log log' : List α) (k : κ) :
    last key value (log ++ log') k = (last key value log' k).or (last key value log k) := by
  unfold last
  rw [List.filter_append, List.filterMap_append, List.getLast?_append]

theorem last_singleton (a : α) (k : κ) :
    last key value [a] k = if key a = k then value a else none := by
  unfold last
  by_cases hkey : key a = k
  · cases hvalue : value a <;> simp [hkey, hvalue]
  · simp [hkey]

/-- What is ahead of the one entry that fails a test, and what is behind it. -/
theorem around {p : α → Bool} {ahead behind : List α} {a : α} (hself : p a = false)
    (hahead : ∀ b ∈ ahead, p b = true) (hbehind : ∀ b ∈ behind, p b = true) :
    (ahead ++ a :: behind).filter p = ahead ++ behind
      ∧ (ahead ++ a :: behind).takeWhile p = ahead
      ∧ ((ahead ++ a :: behind).dropWhile p).tail = behind := by
  have hneg : ¬ p a = true := by rw [hself]; exact Bool.false_ne_true
  refine ⟨?_, ?_, ?_⟩
  · rw [List.filter_append, List.filter_cons_of_neg hneg, List.filter_eq_self.mpr hahead,
      List.filter_eq_self.mpr hbehind]
  · rw [List.takeWhile_append_of_pos hahead, List.takeWhile_cons_of_neg hneg, List.append_nil]
  · rw [List.dropWhile_append_of_pos hahead, List.dropWhile_cons_of_neg hneg, List.tail_cons]

/-- An entry without a value changes nothing. -/
theorem last_append_silent {log log' : List α} (h : ∀ a ∈ log', value a = none) (k : κ) :
    last key value (log ++ log') k = last key value log k := by
  have hnone : last key value log' k = none := by
    unfold last
    rw [List.getLast?_eq_none_iff, List.filterMap_eq_nil_iff]
    exact fun a ha => h a (List.mem_of_mem_filter ha)
  rw [last_append, hnone, Option.none_or]

/--
**An entry that overtakes others is the last one no more.**

The last value stays what it was, or it becomes the last of the overtaken ones.
-/
theorem last_overtaking {done ahead behind : List α} {a : α} {k : κ} {v : ν}
    (h : last key value (done ++ (ahead ++ a :: behind)) k = some v) :
    last key value (done ++ [a] ++ (ahead ++ behind)) k = some v
      ∨ key a = k ∧ value a = some v ∧ last key value behind k = none
        ∧ ∃ w, last key value ahead k = some w
          ∧ last key value (done ++ [a] ++ (ahead ++ behind)) k = some w := by
  have hcons : last key value (a :: behind) k
      = (last key value behind k).or (last key value [a] k) := last_append [a] behind k
  simp only [last_append, hcons] at h ⊢
  cases hbehind : last key value behind k with
  | some u =>
      rw [hbehind] at h
      exact Or.inl (by simpa using h)
  | none =>
      rw [hbehind] at h
      cases hahead : last key value ahead k with
      | none =>
          rw [hahead] at h
          exact Or.inl (by simpa using h)
      | some w =>
          rw [hahead] at h
          cases hself : last key value [a] k with
          | none =>
              rw [hself] at h
              exact Or.inl (by simpa using h)
          | some u =>
              rw [hself] at h
              obtain rfl : u = v := by simpa using h
              rw [last_singleton] at hself
              split at hself
              · rename_i hkey
                exact Or.inr ⟨hkey, hself, rfl, w, rfl, by simp⟩
              · cases hself

end Log
