import Mathlib.Data.List.Basic

/-!
# Readers and the languages they accept

A reader takes a value off the front of what is left of an input, or fails. It
accepts a language when it returns exactly the values that the language has a word
for, consumes exactly that word, and has one kind of failure. A parser goes on to
the end of the input.

Languages compose the way readers do, so a parser that reads field after field
accepts the concatenations of its fields.
-/

variable {σ β ε α γ : Type}

/-- One reader after the other. -/
def readThen (read : σ → Except ε (α × σ)) (next : α → σ → Except ε γ) (s : σ) : Except ε γ :=
  read s >>= fun result => next result.1 result.2

/-- What was read, decoded. -/
def readAs (read : σ → Except ε (α × σ)) (decode : α → Except ε γ) : σ → Except ε (γ × σ) :=
  readThen read (fun a s => decode a >>= fun c => .ok (c, s))

/-- **A reader of a language.** The words of `L a` are read as `a`, and every failure is an `E`. -/
structure Accepts (rest : σ → List β) (E : ε → Prop) (read : σ → Except ε (α × σ))
    (L : α → List β → Prop) : Prop where
  /-- What is returned has a word that was in front. -/
  sound : ∀ {s s' : σ} {a : α}, read s = .ok (a, s') → ∃ w, rest s = w ++ rest s' ∧ L a w
  /-- A word in front is read, and nothing behind it. -/
  complete : ∀ {s : σ} {a : α} {w r : List β}, rest s = w ++ r → L a w →
    ∃ s', read s = .ok (a, s') ∧ rest s' = r
  fails : ∀ {s : σ} {e : ε}, read s = .error e → E e

/-- **A parser of a language.** It returns the values of the whole input, or fails with an `E`. -/
structure Parses (rest : σ → List β) (E : ε → Prop) (parse : σ → Except ε γ)
    (L : γ → List β → Prop) : Prop where
  returns_iff : ∀ {s : σ} {c : γ}, parse s = .ok c ↔ L c (rest s)
  fails : ∀ {s : σ} {e : ε}, parse s = .error e → E e

theorem readThen_eq_ok {read : σ → Except ε (α × σ)} {next : α → σ → Except ε γ} {s : σ} {c : γ} :
    readThen read next s = .ok c ↔ ∃ a s', read s = .ok (a, s') ∧ next a s' = .ok c := by
  unfold readThen
  cases read s with
  | error e =>
      constructor
      · intro h
        cases h
      · rintro ⟨a, s', h, _⟩
        cases h
  | ok result =>
      refine ⟨fun h => ⟨result.1, result.2, rfl, h⟩, ?_⟩
      rintro ⟨a, s', h, hnext⟩
      cases h
      exact hnext

theorem readThen_eq_error {read : σ → Except ε (α × σ)} {next : α → σ → Except ε γ} {s : σ}
    {e : ε} (h : readThen read next s = .error e) :
    read s = .error e ∨ ∃ a s', read s = .ok (a, s') ∧ next a s' = .error e := by
  unfold readThen at h
  cases hread : read s with
  | error e' =>
      rw [hread] at h
      cases h
      exact Or.inl rfl
  | ok result =>
      rw [hread] at h
      exact Or.inr ⟨result.1, result.2, rfl, h⟩

section

variable {rest : σ → List β} {E : ε → Prop} {read : σ → Except ε (α × σ)} {L : α → List β → Prop}

/-- A language in another form. -/
theorem Accepts.congr {M : α → List β → Prop} (h : Accepts rest E read L)
    (hLM : ∀ a w, L a w ↔ M a w) : Accepts rest E read M where
  sound hread := by
    obtain ⟨w, hs, hL⟩ := h.sound hread
    exact ⟨w, hs, (hLM _ _).mp hL⟩
  complete hs hM := h.complete hs ((hLM _ _).mpr hM)
  fails hread := h.fails hread

/-- **Readers in sequence accept concatenations.** -/
theorem Accepts.andThen {next : α → σ → Except ε (γ × σ)} {M : α → γ → List β → Prop}
    (h : Accepts rest E read L) (hnext : ∀ a, Accepts rest E (next a) (M a)) :
    Accepts rest E (readThen read next) (fun c w => ∃ a u v, w = u ++ v ∧ L a u ∧ M a c v) where
  sound hread := by
    obtain ⟨a, middle, hfirst, hsecond⟩ := readThen_eq_ok.mp hread
    obtain ⟨u, hu, hL⟩ := h.sound hfirst
    obtain ⟨v, hv, hM⟩ := (hnext a).sound hsecond
    exact ⟨u ++ v, by rw [hu, hv, List.append_assoc], a, u, v, rfl, hL, hM⟩
  complete hs hL := by
    obtain ⟨a, u, v, rfl, hLa, hM⟩ := hL
    rw [List.append_assoc] at hs
    obtain ⟨middle, hfirst, hmiddle⟩ := h.complete hs hLa
    obtain ⟨s', hsecond, hrest⟩ := (hnext a).complete hmiddle hM
    exact ⟨s', readThen_eq_ok.mpr ⟨a, middle, hfirst, hsecond⟩, hrest⟩
  fails hread := by
    rcases readThen_eq_error hread with hfirst | ⟨a, middle, _, hsecond⟩
    · exact h.fails hfirst
    · exact (hnext a).fails hsecond

/-- **A decoded reader accepts the words of what decodes.** -/
theorem Accepts.decoded {decode : α → Except ε γ} (h : Accepts rest E read L)
    (hdecode : ∀ {a e}, decode a = .error e → E e) :
    Accepts rest E (readAs read decode) (fun c w => ∃ a, decode a = .ok c ∧ L a w) where
  sound {s s' c} hread := by
    obtain ⟨a, middle, hfirst, hsecond⟩ := readThen_eq_ok.mp hread
    obtain ⟨w, hw, hL⟩ := h.sound hfirst
    cases hc : decode a with
    | error e => rw [hc] at hsecond; cases hsecond
    | ok c' =>
        rw [hc] at hsecond
        cases hsecond
        exact ⟨w, hw, a, hc, hL⟩
  complete {s c w r} hs hL := by
    obtain ⟨a, hc, hLa⟩ := hL
    obtain ⟨s', hread, hrest⟩ := h.complete hs hLa
    exact ⟨s', readThen_eq_ok.mpr ⟨a, s', hread, by rw [hc]; rfl⟩, hrest⟩
  fails {s e} hread := by
    rcases readThen_eq_error hread with hfirst | ⟨a, middle, _, hsecond⟩
    · exact h.fails hfirst
    · cases hc : decode a with
      | error e' =>
          rw [hc] at hsecond
          cases hsecond
          exact hdecode hc
      | ok c => rw [hc] at hsecond; cases hsecond

/-! ## To the end of the input -/

/-- A parser that takes everything that is left. -/
theorem Parses.remaining (f : List β → γ) :
    Parses rest E (fun s => .ok (f (rest s))) (fun c w => c = f w) where
  returns_iff := ⟨fun h => (by cases h; rfl), fun h => (by rw [h])⟩
  fails h := by cases h

/-- A parser behind a check. -/
theorem Parses.guarded {P : Prop} [Decidable P] {e : ε} {parse : σ → Except ε γ}
    {M : γ → List β → Prop} (h : Parses rest E parse M) (he : E e) :
    Parses rest E (fun s => if P then .error e else parse s) (fun c w => ¬ P ∧ M c w) where
  returns_iff := by
    intro s c
    split
    · rename_i hP
      exact ⟨fun hread => (by cases hread), fun hread => absurd hP hread.1⟩
    · rename_i hP
      exact ⟨fun hread => ⟨hP, h.returns_iff.mp hread⟩, fun hread => h.returns_iff.mpr hread.2⟩
  fails hread := by
    split at hread
    · cases hread
      exact he
    · exact h.fails hread

/-- **A parser behind a reader.** -/
theorem Parses.after {parse : α → σ → Except ε γ} {M : α → γ → List β → Prop}
    (h : Accepts rest E read L) (hparse : ∀ a, Parses rest E (parse a) (M a)) :
    Parses rest E (readThen read parse) (fun c w => ∃ a u v, w = u ++ v ∧ L a u ∧ M a c v) where
  returns_iff := by
    intro s c
    rw [readThen_eq_ok]
    constructor
    · rintro ⟨a, middle, hfirst, hsecond⟩
      obtain ⟨u, hu, hL⟩ := h.sound hfirst
      exact ⟨a, u, rest middle, hu, hL, (hparse a).returns_iff.mp hsecond⟩
    · rintro ⟨a, u, v, hs, hL, hM⟩
      obtain ⟨middle, hfirst, hmiddle⟩ := h.complete hs hL
      exact ⟨a, middle, hfirst, (hparse a).returns_iff.mpr (hmiddle ▸ hM)⟩
  fails hread := by
    rcases readThen_eq_error hread with hfirst | ⟨a, middle, _, hsecond⟩
    · exact h.fails hfirst
    · exact (hparse a).fails hsecond

end
