import Mathlib.Data.List.Basic

/-!
# Retained values behind a store

A store keeps a value under each key, and whoever subscribes sees the last value
published under it. Publishing takes time: a change is first *marked*, marks are
turned into jobs that *ask* for the value current at the time the job is done, and a
job may *carry* a value that was taken earlier. A change need not be reported when
it is small enough, which the relation `R` decides.

`Accounted` lists the reasons for which the published value of one key may lag
behind. Two rules keep it: `Accounted.advance` for what happens while the jobs
wait, and `Accounted.work` for one job being done. When no reason is left, what is
published fits (`Accounted.settled`).
-/

namespace Retained

variable {κ ν ι : Type}

/-- What a job publishes of a key: the value current at the time, or one it carries. -/
structure Reading (κ ν ι : Type) where
  asks : ι → κ → Prop
  carries : ι → κ → ν → Prop

structure Mirror (κ ν ι : Type) where
  current : κ → Option ν
  marked : κ → Prop
  jobs : List ι
  published : κ → Option ν

section

variable (reading : Reading κ ν ι) (R : ν → ν → Prop) (m : Mirror κ ν ι) (k : κ)

/-- Some job will publish the value that is current then. -/
def Mirror.Asked : Prop := ∃ j ∈ m.jobs, reading.asks j k

/-- Some job will publish this value. -/
def Mirror.Carried (v : ν) : Prop := ∃ j ∈ m.jobs, reading.carries j k v

/-- The value stands for the one in the store. -/
def Mirror.Fits (v : ν) : Prop := ∃ c, m.current k = some c ∧ R v c

/-- The published value fits, or it is known why it does not yet. -/
def Accounted : Prop :=
  m.marked k ∨ (∀ v, m.Carried reading k v → m.Fits R k v)
    ∧ (m.Asked reading k ∨ (∃ v, m.Carried reading k v)
      ∨ ∃ v, m.published k = some v ∧ m.Fits R k v)

end

variable {reading : Reading κ ν ι} {R : ν → ν → Prop} {m m' : Mirror κ ν ι} {k : κ}

/-- **With nothing marked and nothing left to do, the published value fits.** -/
theorem Accounted.settled (h : Accounted reading R m k) (hmarked : ¬ m.marked k)
    (hjobs : m.jobs = []) : ∃ v, m.published k = some v ∧ m.Fits R k v := by
  rcases h with hm | ⟨_, ⟨j, hj, _⟩ | ⟨_, j, hj, _⟩ | hfits⟩
  · exact absurd hm hmarked
  · rw [hjobs] at hj
    cases hj
  · rw [hjobs] at hj
    cases hj
  · exact hfits

/-- The key is left to the jobs: one asks for it, and none carries an older value. -/
def Mirror.LeftToJobs (reading : Reading κ ν ι) (m : Mirror κ ν ι) (k : κ) : Prop :=
  m.Asked reading k ∧ ∀ v, ¬ m.Carried reading k v

theorem Mirror.LeftToJobs.accounted (h : m.LeftToJobs reading k) : Accounted reading R m k :=
  Or.inr ⟨fun v hv => absurd hv (h.2 v), Or.inl h.1⟩

/--
**While the jobs wait.** A mark stays or is left to the jobs, and so is a change that
`R` does not excuse.
-/
theorem Accounted.advance (htrans : ∀ a b c, R a b → R b c → R a c)
    (hkeep : ∀ j ∈ m.jobs, j ∈ m'.jobs)
    (hcarries : ∀ j ∈ m'.jobs, ∀ v, reading.carries j k v → j ∈ m.jobs)
    (hpublished : m'.published k = m.published k)
    (hmarked : m.marked k → m'.marked k ∨ m'.LeftToJobs reading k)
    (hcurrent : m'.marked k ∨ m'.LeftToJobs reading k
      ∨ ∀ c, m.current k = some c → ∃ c', m'.current k = some c' ∧ R c c')
    (h : Accounted reading R m k) : Accounted reading R m' k := by
  rcases hcurrent with hm | hleft | hmoves
  · exact Or.inl hm
  · exact hleft.accounted
  · rcases h with hm | ⟨hfit, hreason⟩
    · rcases hmarked hm with hm' | hleft
      · exact Or.inl hm'
      · exact hleft.accounted
    · have hfits : ∀ v, m.Fits R k v → m'.Fits R k v := by
        rintro v ⟨c, hc, hv⟩
        obtain ⟨c', hc', hstep⟩ := hmoves c hc
        exact ⟨c', hc', htrans v c c' hv hstep⟩
      refine Or.inr ⟨?_, ?_⟩
      · rintro v ⟨j, hj, hv⟩
        exact hfits v (hfit v ⟨j, hcarries j hj v hv, hv⟩)
      · rcases hreason with ⟨j, hj, hasks⟩ | ⟨v, j, hj, hv⟩ | ⟨v, hv, hf⟩
        · exact Or.inl ⟨j, hkeep j hj, hasks⟩
        · exact Or.inr (Or.inl ⟨v, j, hkeep j hj, hv⟩)
        · exact Or.inr (Or.inr ⟨v, hpublished.trans hv, hfits v hf⟩)

/-- `next` stands where `j` was, among jobs that stay. -/
structure Replaced (j : ι) (next jobs jobs' : List ι) : Prop where
  mem : j ∈ jobs
  kept : ∀ i ∈ jobs, i = j ∨ i ∈ jobs'
  new : ∀ i ∈ next, i ∈ jobs'
  only : ∀ i ∈ jobs', i ∈ jobs ∨ i ∈ next

theorem Replaced.head (j : ι) (next rest : List ι) :
    Replaced j next (j :: rest) (next ++ rest) where
  mem := List.mem_cons_self ..
  kept i hi := by
    rcases List.mem_cons.mp hi with rfl | hrest
    · exact Or.inl rfl
    · exact Or.inr (List.mem_append_right _ hrest)
  new i hi := List.mem_append_left _ hi
  only i hi := by
    rcases List.mem_append.mp hi with hnext | hrest
    · exact Or.inr hnext
    · exact Or.inl (List.mem_cons_of_mem _ hrest)

/-- The jobs of another task do not matter. -/
theorem Replaced.append {j : ι} {next jobs jobs' : List ι} (h : Replaced j next jobs jobs')
    (others : List ι) : Replaced j next (jobs ++ others) (jobs' ++ others) where
  mem := List.mem_append_left _ h.mem
  kept i hi := by
    rcases List.mem_append.mp hi with hi | hi
    · exact (h.kept i hi).imp_right (List.mem_append_left _)
    · exact Or.inr (List.mem_append_right _ hi)
  new i hi := List.mem_append_left _ (h.new i hi)
  only i hi := by
    rcases List.mem_append.mp hi with hi | hi
    · exact (h.only i hi).imp_left (List.mem_append_left _)
    · exact Or.inl (List.mem_append_right _ hi)

theorem Replaced.prepend {j : ι} {next jobs jobs' : List ι} (h : Replaced j next jobs jobs')
    (others : List ι) : Replaced j next (others ++ jobs) (others ++ jobs') where
  mem := List.mem_append_right _ h.mem
  kept i hi := by
    rcases List.mem_append.mp hi with hi | hi
    · exact Or.inr (List.mem_append_left _ hi)
    · exact (h.kept i hi).imp_right (List.mem_append_right _)
  new i hi := List.mem_append_right _ (h.new i hi)
  only i hi := by
    rcases List.mem_append.mp hi with hi | hi
    · exact Or.inl (List.mem_append_left _ hi)
    · exact (h.only i hi).imp_left (List.mem_append_right _)

/-- The job publishes the key: what is current, or the value it carries. -/
def Mirror.PublishedBy (reading : Reading κ ν ι) (m m' : Mirror κ ν ι) (j : ι) (k : κ) : Prop :=
  ∃ v, m'.published k = some v ∧ (m.current k = some v ∨ reading.carries j k v)

/-- The job leaves the key alone, and what it asks of it to the jobs that follow. -/
structure Mirror.PassedOn (reading : Reading κ ν ι) (m m' : Mirror κ ν ι) (j : ι) (next : List ι)
    (k : κ) : Prop where
  published : m'.published k = m.published k
  carries : ∀ v, ¬ reading.carries j k v
  asks : reading.asks j k → ∃ i ∈ next, reading.asks i k ∨ ∃ v, reading.carries i k v

/-- **One job is done**, and `next` takes its place; values are taken where they are current. -/
theorem Accounted.work {j : ι} {next : List ι} (hrefl : ∀ a, R a a)
    (hcurrent : m'.current k = m.current k) (hmarked : m.marked k → m'.marked k)
    (hjobs : Replaced j next m.jobs m'.jobs)
    (htaken : ∀ i ∈ next, ∀ v, reading.carries i k v → m.current k = some v)
    (hdone : Mirror.PublishedBy reading m m' j k ∨ Mirror.PassedOn reading m m' j next k)
    (h : Accounted reading R m k) : Accounted reading R m' k := by
  rcases h with hm | ⟨hfit, hreason⟩
  · exact Or.inl (hmarked hm)
  · have hfits : ∀ v, m.Fits R k v → m'.Fits R k v := by
      rintro v ⟨c, hc, hv⟩
      exact ⟨c, hcurrent.trans hc, hv⟩
    have hnow : ∀ v, m.current k = some v → m'.Fits R k v := by
      intro v hv
      exact hfits v ⟨v, hv, hrefl v⟩
    refine Or.inr ⟨?_, ?_⟩
    · rintro v ⟨i, hi, hv⟩
      rcases hjobs.only i hi with hold | hnew
      · exact hfits v (hfit v ⟨i, hold, hv⟩)
      · exact hnow v (htaken i hnew v hv)
    · rcases hdone with ⟨v, hv, hsource⟩ | ⟨hsame, hcarries, hasks⟩
      · right; right
        refine ⟨v, hv, ?_⟩
        rcases hsource with hv | hv
        · exact hnow v hv
        · exact hfits v (hfit v ⟨j, hjobs.mem, hv⟩)
      · rcases hreason with ⟨i, hi, hask⟩ | ⟨v, i, hi, hv⟩ | ⟨v, hv, hf⟩
        · rcases hjobs.kept i hi with rfl | hi'
          · obtain ⟨i', hi', hask' | ⟨v, hv⟩⟩ := hasks hask
            · exact Or.inl ⟨i', hjobs.new i' hi', hask'⟩
            · exact Or.inr (Or.inl ⟨v, i', hjobs.new i' hi', hv⟩)
          · exact Or.inl ⟨i, hi', hask⟩
        · rcases hjobs.kept i hi with rfl | hi'
          · exact absurd hv (hcarries v)
          · exact Or.inr (Or.inl ⟨v, i, hi', hv⟩)
        · exact Or.inr (Or.inr ⟨v, hsame.trans hv, hfits v hf⟩)

end Retained
