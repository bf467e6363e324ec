import Mathlib.Data.List.Basic

/-!
# Versions that only go up

A value moves up a relation as time goes on. Copies of it are published, either of the value
that is current at the time or of one that was taken earlier and carried until then. As long
as nothing is carried while current values are published, the copies go up as well: what was
published is below what is carried, and that below what is current.
-/

namespace Ascents

variable {ν : Type} {R : ν → ν → Prop} {published carried carried' : List ν} {current current' : ν}

/-- Published, carried, current: each value is below all that come after it. -/
def Ascent (R : ν → ν → Prop) (published carried : List ν) (current : ν) : Prop :=
  (published ++ (carried ++ [current])).Pairwise R

theorem Ascent.published_pairwise (h : Ascent R published carried current) :
    published.Pairwise R := (List.pairwise_append.mp h).1

/-- The value moves up. -/
theorem Ascent.rise (htrans : ∀ a b c, R a b → R b c → R a c) (hrise : R current current')
    (h : Ascent R published carried current) : Ascent R published carried current' := by
  unfold Ascent at h ⊢
  rw [← List.append_assoc, List.pairwise_append] at h ⊢
  obtain ⟨hbefore, _, hlast⟩ := h
  refine ⟨hbefore, List.pairwise_singleton .., fun a ha b hb => ?_⟩
  rw [List.mem_singleton.mp hb]
  exact htrans a current current' (hlast a ha current (List.mem_singleton_self _)) hrise

/-- Some of what is carried is given up. -/
theorem Ascent.giveUp (hsub : carried'.Sublist carried) (h : Ascent R published carried current) :
    Ascent R published carried' current :=
  h.sublist ((hsub.append_right [current]).append_left published)

/-- The first of what is carried is published. -/
theorem Ascent.publishCarried {v : ν} (h : Ascent R published (v :: carried) current) :
    Ascent R (published ++ [v]) carried current := by
  unfold Ascent at h ⊢
  rw [List.append_assoc]
  exact h

/-- With nothing carried, what is current is published. -/
theorem Ascent.publishCurrent (hrefl : ∀ a, R a a) (h : Ascent R published [] current) :
    Ascent R (published ++ [current]) [] current := by
  unfold Ascent at h ⊢
  rw [List.nil_append] at h ⊢
  refine List.pairwise_append.mpr ⟨h, List.pairwise_singleton .., fun a ha b hb => ?_⟩
  rw [List.mem_singleton.mp hb]
  rcases List.mem_append.mp ha with hold | hlast
  · exact (List.pairwise_append.mp h).2.2 a hold current (List.mem_singleton_self _)
  · rw [List.mem_singleton.mp hlast]
    exact hrefl current

/-- With nothing carried, copies of what is current are taken. -/
theorem Ascent.capture (hrefl : ∀ a, R a a) (htaken : ∀ v ∈ carried, v = current)
    (h : Ascent R published [] current) : Ascent R published carried current := by
  unfold Ascent at h ⊢
  rw [List.nil_append] at h
  obtain ⟨hpublished, _, hbelow⟩ := List.pairwise_append.mp h
  have hsame : ∀ v ∈ carried ++ [current], v = current := by
    intro v hv
    rcases List.mem_append.mp hv with htake | hlast
    · exact htaken v htake
    · exact List.mem_singleton.mp hlast
  refine List.pairwise_append.mpr ⟨hpublished, ?_, fun a ha b hb => ?_⟩
  · refine List.pairwise_of_forall_mem_list fun a ha b hb => ?_
    rw [hsame a ha, hsame b hb]
    exact hrefl current
  · rw [hsame b hb]
    exact hbelow a ha current (List.mem_singleton_self _)

end Ascents
