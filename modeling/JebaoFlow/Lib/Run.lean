/-!
# Runs of a step function

A deterministic machine is a step function `σ → α → σ`; a run is the list of
inputs it is fed. `Always` says that a property holds in every state a run goes
through, `Each` that every input meets a condition in the state it arrives in.

Five rules carry the arguments built on this. `invariant_exec` turns a step
lemma into a fact about every reachable state. `always_iff_each` turns an *exact*
step lemma — from a good state the next state is good precisely when the input
meets the condition — into an exact fact about runs. `pairwise_states_iff` does the
same for a transitive relation between any two states. `trace_invariant` relates the
state to everything the run has output so far. `trace_filter` compares two runs: if
the inputs outside a class give no output and are invisible to a simulation
relation, deleting them changes no output.
-/

namespace Run

variable {σ α : Type} (step : σ → α → σ)

/-- The state a run ends in. -/
def exec (s : σ) (as : List α) : σ := as.foldl step s

/-- `P` holds in every state the run goes through, the first and the last included. -/
def Always (P : σ → Prop) : σ → List α → Prop
  | s, [] => P s
  | s, a :: as => P s ∧ Always P (step s a) as

/-- Every input meets `C` in the state it arrives in. -/
def Each (C : σ → α → Prop) : σ → List α → Prop
  | _, [] => True
  | s, a :: as => C s a ∧ Each C (step s a) as

@[simp] theorem exec_nil (s : σ) : exec step s [] = s := rfl

@[simp] theorem exec_cons (s : σ) (a : α) (as : List α) :
    exec step s (a :: as) = exec step (step s a) as := rfl

theorem exec_append (s : σ) (as bs : List α) :
    exec step s (as ++ bs) = exec step (exec step s as) bs := by
  unfold exec; exact List.foldl_append

variable {step}

/-! ## Invariants -/

/-- A property that holds at the start and survives every step holds at the end. -/
theorem invariant_exec {Inv : σ → Prop} (hstep : ∀ s a, Inv s → Inv (step s a))
    {as : List α} {s : σ} (h : Inv s) : Inv (exec step s as) := by
  induction as generalizing s with
  | nil => exact h
  | cons a as ih => exact ih (hstep s a h)

theorem Always.head {P : σ → Prop} : ∀ {as : List α} {s : σ}, Always step P s as → P s
  | [], _, h => h
  | _ :: _, _, h => h.1

theorem Always.last {P : σ → Prop} {as : List α} {s : σ} (h : Always step P s as) :
    P (exec step s as) := by
  induction as generalizing s with
  | nil => exact h
  | cons a as ih => exact ih h.2

/-- A condition on the inputs alone holds at each step when every input meets it. -/
theorem each_of_forall {D : α → Prop} : ∀ {as : List α} {s : σ}, (∀ a ∈ as, D a) →
    Each step (fun _ a => D a) s as
  | [], _, _ => trivial
  | a :: _, _, h => ⟨h a (List.mem_cons_self ..), each_of_forall fun b hb =>
      h b (List.mem_cons_of_mem _ hb)⟩

/-- What holds of every step holds at each step of a run. -/
theorem each_of_all {C : σ → α → Prop} (h : ∀ s a, C s a) : ∀ (as : List α) (s : σ),
    Each step C s as
  | [], _ => trivial
  | a :: as, s => ⟨h s a, each_of_all h as (step s a)⟩

/-- What an invariant of the restricted steps implies holds throughout a restricted run. -/
theorem always_of_each {Inv P : σ → Prop} {C : σ → α → Prop}
    (hstep : ∀ s a, C s a → Inv s → Inv (step s a)) (hp : ∀ s, Inv s → P s) :
    ∀ {as : List α} {s : σ}, Each step C s as → Inv s → Always step P s as
  | [], _, _, h => hp _ h
  | _ :: _, _, hc, h => ⟨hp _ h, always_of_each hstep hp hc.2 (hstep _ _ hc.1 h)⟩

/-! ## Exact conditions -/

/-- Under an invariant of the good steps, two conditions that agree at each step agree on runs. -/
theorem each_iff_of_invariant {Inv : σ → Prop} {C D : σ → α → Prop}
    (hstep : ∀ s a, D s a → Inv s → Inv (step s a)) (hiff : ∀ s a, Inv s → (C s a ↔ D s a)) :
    ∀ {as : List α} {s : σ}, Inv s → (Each step C s as ↔ Each step D s as)
  | [], _, _ => Iff.rfl
  | a :: _, s, h => by
      constructor
      · rintro ⟨hc, hrest⟩
        have hd := (hiff s a h).mp hc
        exact ⟨hd, (each_iff_of_invariant hstep hiff (hstep s a hd h)).mp hrest⟩
      · rintro ⟨hd, hrest⟩
        exact ⟨(hiff s a h).mpr hd, (each_iff_of_invariant hstep hiff (hstep s a hd h)).mpr hrest⟩

/-- The same under an invariant of all steps, for a run of inputs that all meet `E`. -/
theorem each_iff_of_mem {Inv : σ → Prop} {E : α → Prop} {C D : σ → α → Prop} :
    ∀ {as : List α} {s : σ}, (∀ a ∈ as, E a) → (∀ s a, Inv s → Inv (step s a)) →
      (∀ s a, E a → Inv s → (C s a ↔ D s a)) → Inv s → (Each step C s as ↔ Each step D s as)
  | [], _, _, _, _, _ => Iff.rfl
  | a :: _, s, hall, hstep, hiff, h =>
      and_congr (hiff s a (hall a (List.mem_cons_self ..)) h)
        (each_iff_of_mem (fun b hb => hall b (List.mem_cons_of_mem _ hb)) hstep hiff (hstep s a h))

/--
**The exact condition of a run is the exact condition of its steps.**

`Inv` is what every step preserves anyway, `D` restricts the inputs considered,
and `C` is the condition under which a step from a good state ends in a good one.
-/
theorem always_iff_each {Inv P : σ → Prop} {C D : σ → α → Prop}
    (hinv : ∀ s a, D s a → Inv s → Inv (step s a))
    (hstep : ∀ s a, D s a → Inv s → P s → (P (step s a) ↔ C s a)) :
    ∀ {as : List α} {s : σ}, Each step D s as → Inv s → P s →
      (Always step P s as ↔ Each step C s as)
  | [], _, _, _, hp => ⟨fun _ => trivial, fun _ => hp⟩
  | a :: as, s, hd, hi, hp => by
      have hs := hstep s a hd.1 hi hp
      constructor
      · intro h
        have hp' : P (step s a) := h.2.head
        exact ⟨hs.mp hp', (always_iff_each hinv hstep hd.2 (hinv s a hd.1 hi) hp').mp h.2⟩
      · intro h
        have hp' : P (step s a) := hs.mpr h.1
        exact ⟨hp, (always_iff_each hinv hstep hd.2 (hinv s a hd.1 hi) hp').mpr h.2⟩

/-! ## Any two states of a run -/

/-- The states a run goes through, the first and the last included. -/
def states (step : σ → α → σ) : σ → List α → List σ
  | s, [] => [s]
  | s, a :: as => s :: states step (step s a) as

/-- What a run reaches later is related to the start, given a transitive relation of the steps. -/
theorem rel_of_each {R : σ → σ → Prop} (htrans : ∀ a b c, R a b → R b c → R a c) :
    ∀ {as : List α} {r s : σ}, R r s → Each step (fun s a => R s (step s a)) s as →
      ∀ t ∈ states step s as, R r t
  | [], _, _, h, _, t, ht => by rw [List.mem_singleton.mp ht]; exact h
  | _ :: _, r, s, h, ⟨hstep, hrest⟩, t, ht => by
      rcases List.mem_cons.mp ht with rfl | htl
      · exact h
      · exact rel_of_each htrans (htrans r s _ h hstep) hrest t htl

/-- **A transitive relation holds between any two states of a run when every step respects it.** -/
theorem pairwise_states_iff {R : σ → σ → Prop} (htrans : ∀ a b c, R a b → R b c → R a c) :
    ∀ {as : List α} {s : σ}, (states step s as).Pairwise R
      ↔ Each step (fun s a => R s (step s a)) s as
  | [], s => ⟨fun _ => trivial, fun _ => List.pairwise_singleton R s⟩
  | a :: as, s => by
      rw [states, List.pairwise_cons, pairwise_states_iff htrans]
      constructor
      · rintro ⟨hlater, hrest⟩
        refine ⟨hlater _ ?_, hrest⟩
        cases as <;> exact List.mem_cons_self ..
      · rintro ⟨hstep, hrest⟩
        exact ⟨rel_of_each htrans hstep hrest, hrest⟩

/-! ## Outputs -/

section Trace

variable {ω : Type} (step)

/-- What the inputs of a run output, in order; an input may output nothing. -/
def trace (out : σ → α → Option ω) : σ → List α → List ω
  | _, [] => []
  | s, a :: as => (out s a).toList ++ trace out (step s a) as

variable {step}

/-- Outputs that do not depend on the state can be read off the inputs. -/
theorem trace_const (f : α → Option ω) : ∀ (as : List α) (s : σ),
    trace step (fun _ a => f a) s as = as.filterMap f
  | [], _ => rfl
  | a :: as, s => by
      show (f a).toList ++ trace step _ (step s a) as = _
      rw [trace_const f as, List.filterMap_cons]
      cases f a <;> rfl

/-- A relation between the state and the outputs so far that every step preserves. -/
theorem trace_invariant {R : σ → List ω → Prop} {out : σ → α → Option ω}
    (hstep : ∀ s a log, R s log → R (step s a) (log ++ (out s a).toList)) :
    ∀ (as : List α) {s : σ} {log : List ω}, R s log → R (exec step s as) (log ++ trace step out s as)
  | [], s, log, h => by rw [trace, List.append_nil]; exact h
  | a :: as, s, log, h => by
      have hrest := trace_invariant hstep as (hstep s a log h)
      rw [List.append_assoc] at hrest
      exact hrest

/--
**Deleting invisible inputs changes no output.**

`R` relates the state of the full run to that of the thinned one: an input that is
kept outputs the same on both sides and preserves `R`, one that is deleted outputs
nothing and preserves `R` against the unmoved side.
-/
theorem trace_filter {R : σ → σ → Prop} {D : α → Prop} {keep : α → Bool}
    {out : σ → α → Option ω}
    (hkept : ∀ s t a, D a → keep a = true → R s t → out s a = out t a ∧ R (step s a) (step t a))
    (hdeleted : ∀ s t a, D a → keep a = false → R s t → out s a = none ∧ R (step s a) t) :
    ∀ {as : List α} {s t : σ}, (∀ a ∈ as, D a) → R s t →
      trace step out s as = trace step out t (as.filter keep)
  | [], _, _, _, _ => rfl
  | a :: as, s, t, hd, hr => by
      have hda := hd a (List.mem_cons_self ..)
      have hrest : ∀ b ∈ as, D b := fun b hb => hd b (List.mem_cons_of_mem _ hb)
      show (out s a).toList ++ trace step out (step s a) as = _
      cases hk : keep a with
      | true =>
          obtain ⟨hout, hnext⟩ := hkept s t a hda hk hr
          rw [List.filter_cons_of_pos hk, hout, trace_filter hkept hdeleted hrest hnext]
          rfl
      | false =>
          obtain ⟨hout, hnext⟩ := hdeleted s t a hda hk hr
          rw [List.filter_cons_of_neg (by rw [hk]; exact Bool.false_ne_true), hout,
            trace_filter hkept hdeleted hrest hnext]
          rfl

end Trace

end Run
