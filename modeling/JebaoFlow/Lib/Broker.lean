import Mathlib.Data.List.Basic

/-!
# A broker that retains, and a subscriber

Notes are published on topics. The broker keeps the last retained note of every topic and
sends it to a new subscription; from then on the session of the subscriber is handed every
note. Notes of one topic arrive in the order they were published, while topics overtake each
other freely. A session can be lost with everything that is under way in it.

That much is assumed of the broker: it never forgets a retained note, it hands a note to one
session once, and it does not reorder the notes of a topic. A broker that loses its retained
notes, or a session that repeats one, is outside of what is said here.

The subscriber is a state and a handler, and `Shows` is what its state has of one topic.
For a topic whose notes are all retained it follows that what is shown was published
(`Sourced`), that once everything has arrived the last note is shown (`Follows`), and where
the published notes climb a relation, that what is shown never falls back (`Ascending` and
`Above`).
-/

namespace Broker

variable {τ ν σ : Type} [DecidableEq τ]

structure Note (τ ν : Type) where
  topic : τ
  payload : ν
  retain : Bool := false

/-- The notes of one topic. -/
def on (topic : τ) (notes : List (Note τ ν)) : List (Note τ ν) :=
  notes.filter (fun note => note.topic = topic)

/-- What a new subscription is sent: of each topic the last note that was to be retained. -/
def retained : List (Note τ ν) → List (Note τ ν)
  | [] => []
  | note :: later =>
    if note.retain = true ∧ ∀ n ∈ later, n.retain = true → n.topic ≠ note.topic then
      note :: retained later
    else retained later

/-- The first note of a topic, and what is left without it. -/
def take (topic : τ) : List (Note τ ν) → Option (Note τ ν × List (Note τ ν))
  | [] => none
  | note :: rest =>
    if note.topic = topic then some (note, rest)
    else (take topic rest).map (fun taken => (taken.1, note :: taken.2))

/-- A subscriber; `session` holds what has still to arrive, while there is one. -/
structure Subscriber (τ ν σ : Type) where
  state : σ
  session : Option (List (Note τ ν)) := none

namespace Subscriber

/-- The broker passes on what is published. -/
def notify (notes : List (Note τ ν)) (sub : Subscriber τ ν σ) : Subscriber τ ν σ :=
  { sub with session := sub.session.map (· ++ notes) }

def subscribe (log : List (Note τ ν)) (sub : Subscriber τ ν σ) : Subscriber τ ν σ :=
  { sub with session := some (retained log) }

def lose (sub : Subscriber τ ν σ) : Subscriber τ ν σ := { sub with session := none }

/-- The next note of a topic arrives, if there is one. -/
def deliver (handle : σ → Note τ ν → σ) (topic : τ) (sub : Subscriber τ ν σ) :
    Subscriber τ ν σ :=
  match sub.session.bind (take topic) with
  | some (note, rest) => { state := handle sub.state note, session := some rest }
  | none => sub

end Subscriber

/-! ## Notes of one topic -/

section Notes

variable {topic : τ} {log notes rest : List (Note τ ν)} {note : Note τ ν}

theorem mem_on : note ∈ on topic notes ↔ note ∈ notes ∧ note.topic = topic := by
  unfold on
  rw [List.mem_filter, decide_eq_true_eq]

theorem on_append : on topic (log ++ notes) = on topic log ++ on topic notes :=
  List.filter_append ..

theorem on_cons_self (h : note.topic = topic) :
    on topic (note :: rest) = note :: on topic rest :=
  List.filter_cons_of_pos (decide_eq_true h)

theorem on_cons_other (h : note.topic ≠ topic) : on topic (note :: rest) = on topic rest :=
  List.filter_cons_of_neg (by rw [decide_eq_true_eq]; exact h)

theorem mem_of_mem_retained : ∀ {log : List (Note τ ν)}, note ∈ retained log → note ∈ log
  | [], h => h
  | first :: later, h => by
      unfold retained at h
      split at h
      · rcases List.mem_cons.mp h with rfl | hlater
        · exact List.mem_cons_self ..
        · exact List.mem_cons_of_mem _ (mem_of_mem_retained hlater)
      · exact List.mem_cons_of_mem _ (mem_of_mem_retained h)

/-- **Of a topic that is always retained, a new subscription is sent the last note.** -/
theorem on_retained : ∀ {log : List (Note τ ν)},
    (∀ n ∈ log, n.topic = topic → n.retain = true) →
      on topic (retained log) = (on topic log).getLast?.toList
  | [], _ => rfl
  | note :: later, hretain => by
      have ih := @on_retained later fun n hn => hretain n (List.mem_cons_of_mem _ hn)
      unfold retained
      by_cases htopic : note.topic = topic
      · by_cases hlast : on topic later = []
        · have hnone : ∀ n ∈ later, n.retain = true → n.topic ≠ note.topic := by
            intro n hn _ hsame
            have hmem : n ∈ on topic later := mem_on.mpr ⟨hn, hsame.trans htopic⟩
            rw [hlast] at hmem
            cases hmem
          rw [if_pos ⟨hretain note (List.mem_cons_self ..) htopic, hnone⟩, on_cons_self htopic,
            on_cons_self htopic, ih, hlast]
          rfl
        · obtain ⟨n, hn⟩ := List.exists_mem_of_ne_nil _ hlast
          obtain ⟨hlater, hn⟩ := mem_on.mp hn
          rw [if_neg, on_cons_self htopic, ih, List.getLast?_cons_of_ne_nil hlast]
          rintro ⟨_, hnone⟩
          exact hnone n hlater (hretain n (List.mem_cons_of_mem _ hlater) hn) (hn.trans htopic.symm)
      · rw [on_cons_other htopic]
        split
        · rw [on_cons_other htopic, ih]
        · exact ih

/-- What is taken out is the first of its topic, and nothing else changes. -/
theorem take_eq_some : ∀ {notes rest : List (Note τ ν)} {note : Note τ ν},
    take topic notes = some (note, rest) → note.topic = topic
      ∧ on topic notes = note :: on topic rest ∧ (∀ other, other ≠ topic → on other notes = on other rest)
      ∧ ∀ n, n ∈ notes ↔ n = note ∨ n ∈ rest
  | first :: tail, rest, note, h => by
      unfold take at h
      split at h
      · rename_i htopic
        cases h
        refine ⟨htopic, on_cons_self htopic, fun other hother => ?_, fun n => List.mem_cons⟩
        exact on_cons_other fun hsame => hother (hsame.symm.trans htopic)
      · rename_i htopic
        obtain ⟨⟨taken, left⟩, htake, heq⟩ := Option.map_eq_some_iff.mp h
        cases heq
        obtain ⟨hnote, hon, hothers, hmem⟩ := take_eq_some htake
        refine ⟨hnote, ?_, fun other hother => ?_, fun n => ?_⟩
        · rw [on_cons_other htopic, on_cons_other htopic, hon]
        · by_cases hsame : first.topic = other
          · rw [on_cons_self hsame, on_cons_self hsame, hothers other hother]
          · rw [on_cons_other hsame, on_cons_other hsame, hothers other hother]
        · rw [List.mem_cons, List.mem_cons, hmem]
          tauto

/-- The last note of a longer log. -/
theorem last_append (h : (on topic (log ++ notes)).getLast? = some note) :
    (on topic notes).getLast? = some note
      ∨ on topic notes = [] ∧ (on topic log).getLast? = some note := by
  rw [on_append, List.getLast?_append] at h
  cases hlast : (on topic notes).getLast? with
  | some n =>
      rw [hlast, Option.some_or] at h
      exact Or.inl h
  | none =>
      rw [hlast, Option.none_or] at h
      exact Or.inr ⟨List.getLast?_eq_none_iff.mp hlast, h⟩

end Notes

/-! ## What the subscriber shows -/

variable {topic : τ} {log notes : List (Note τ ν)} {sub : Subscriber τ ν σ}
  {handle : σ → Note τ ν → σ} {Genuine : Note τ ν → Prop} {Shows : σ → ν → Prop}

/-- A genuine note of the topic is shown when it is handled; the other topics do not matter. -/
structure Handles (handle : σ → Note τ ν → σ) (Genuine : Note τ ν → Prop) (topic : τ)
    (Shows : σ → ν → Prop) : Prop where
  here : ∀ s note, Genuine note → note.topic = topic → Shows (handle s note) note.payload
  elsewhere : ∀ s note v, Genuine note → note.topic ≠ topic →
    (Shows (handle s note) v ↔ Shows s v)

/-- A delivery is nothing, or the first note of a topic is handled. -/
theorem deliver_cases (handle : σ → Note τ ν → σ) (topic : τ) (sub : Subscriber τ ν σ) :
    sub.deliver handle topic = sub ∨ ∃ inbox note rest, sub.session = some inbox
      ∧ take topic inbox = some (note, rest)
      ∧ sub.deliver handle topic = { state := handle sub.state note, session := some rest } := by
  unfold Subscriber.deliver
  cases hsession : sub.session with
  | none => exact Or.inl rfl
  | some inbox =>
      rw [Option.bind_some]
      cases htake : take topic inbox with
      | none => exact Or.inl rfl
      | some taken => exact Or.inr ⟨inbox, taken.1, taken.2, rfl, htake, rfl⟩

/-! ### Everything under way was published -/

def Within (log : List (Note τ ν)) (sub : Subscriber τ ν σ) : Prop :=
  ∀ inbox, sub.session = some inbox → ∀ note ∈ inbox, note ∈ log

omit [DecidableEq τ] in
theorem within_notify (h : Within log sub) : Within (log ++ notes) (sub.notify notes) := by
  intro inbox hinbox note hnote
  obtain ⟨inbox₀, hsession, rfl⟩ := Option.map_eq_some_iff.mp hinbox
  rcases List.mem_append.mp hnote with hold | hnew
  · exact List.mem_append_left _ (h inbox₀ hsession note hold)
  · exact List.mem_append_right _ hnew

theorem within_subscribe : Within log (sub.subscribe log) := by
  intro inbox hinbox note hnote
  cases hinbox
  exact mem_of_mem_retained hnote

omit [DecidableEq τ] in
theorem within_lose : Within log sub.lose := by
  intro inbox hinbox
  cases hinbox

theorem within_deliver {other : τ} (h : Within log sub) : Within log (sub.deliver handle other) := by
  rcases deliver_cases handle other sub with heq | ⟨inbox, note, rest, hsession, htake, heq⟩
  · rw [heq]
    exact h
  · rw [heq]
    intro inbox' hinbox' n hn
    cases hinbox'
    exact h inbox hsession n (((take_eq_some htake).2.2.2 n).mpr (Or.inr hn))

/-- A property that every note keeps. -/
theorem state_deliver {P : σ → Prop} {other : τ} (hwithin : Within log sub)
    (hkeeps : ∀ note ∈ log, ∀ s, P s → P (handle s note)) (h : P sub.state) :
    P (sub.deliver handle other).state := by
  rcases deliver_cases handle other sub with heq | ⟨inbox, note, rest, hsession, htake, heq⟩
  · rw [heq]
    exact h
  · rw [heq]
    have hnote : note ∈ inbox := ((take_eq_some htake).2.2.2 note).mpr (Or.inl rfl)
    exact hkeeps note (hwithin inbox hsession note hnote) sub.state h

/-- What is shown was published. -/
def Sourced (Shows : σ → ν → Prop) (topic : τ) (log : List (Note τ ν))
    (sub : Subscriber τ ν σ) : Prop :=
  ∀ v, Shows sub.state v → ∃ note ∈ on topic log, note.payload = v

/-! ### The last note is shown in the end -/

/-- The last note of the topic is the last one under way, or it is shown. -/
def Follows (Shows : σ → ν → Prop) (topic : τ) (log : List (Note τ ν))
    (sub : Subscriber τ ν σ) : Prop :=
  ∀ inbox, sub.session = some inbox → ∀ note, (on topic log).getLast? = some note →
    (on topic inbox).getLast? = some note ∨ on topic inbox = [] ∧ Shows sub.state note.payload

theorem Follows.notify (h : Follows Shows topic log sub) :
    Follows Shows topic (log ++ notes) (sub.notify notes) := by
  intro inbox hinbox note hlast
  obtain ⟨inbox₀, hsession, rfl⟩ := Option.map_eq_some_iff.mp hinbox
  rw [on_append, List.getLast?_append]
  rcases last_append hlast with hnew | ⟨hnone, hold⟩
  · rw [hnew]
    exact Or.inl rfl
  · rw [hnone, List.append_nil, List.getLast?_nil, Option.none_or]
    exact h inbox₀ hsession note hold

theorem follows_subscribe (hretain : ∀ n ∈ log, n.topic = topic → n.retain = true) :
    Follows Shows topic log (sub.subscribe log) := by
  intro inbox hinbox note hlast
  cases hinbox
  rw [on_retained hretain, hlast]
  exact Or.inl rfl

theorem follows_lose : Follows Shows topic log sub.lose := by
  intro inbox hinbox
  cases hinbox

theorem Follows.deliver {other : τ} (hhandles : Handles handle Genuine topic Shows)
    (hgenuine : ∀ note ∈ log, Genuine note) (hwithin : Within log sub)
    (h : Follows Shows topic log sub) : Follows Shows topic log (sub.deliver handle other) := by
  rcases deliver_cases handle other sub with heq | ⟨inbox, note, rest, hsession, htake, heq⟩
  · rw [heq]
    exact h
  rw [heq]
  intro inbox' hinbox' last hlast
  cases hinbox'
  obtain ⟨hother, hon, hothers, hmem⟩ := take_eq_some htake
  have hlogged : note ∈ log := hwithin inbox hsession note ((hmem note).mpr (Or.inl rfl))
  have hfollows := h inbox hsession last hlast
  by_cases htopic : note.topic = topic
  · have heq' : other = topic := hother.symm.trans htopic
    subst heq'
    rw [hon] at hfollows
    rcases hfollows with hlater | ⟨hnil, _⟩
    · by_cases hnil : on other rest = []
      · rw [hnil] at hlater
        cases hlater
        exact Or.inr ⟨hnil, hhandles.here sub.state _ (hgenuine _ hlogged) htopic⟩
      · rw [List.getLast?_cons_of_ne_nil hnil] at hlater
        exact Or.inl hlater
    · cases hnil
  · have hne : topic ≠ other := fun hsame => htopic (hother.trans hsame.symm)
    rw [hothers topic hne] at hfollows
    refine hfollows.imp_right fun ⟨hnil, hshows⟩ => ⟨hnil, ?_⟩
    exact (hhandles.elsewhere sub.state note _ (hgenuine note hlogged) htopic).mpr hshows

/-- **A session in which everything has arrived shows the last note.** -/
theorem Follows.settled (h : Follows Shows topic log sub) (hsession : sub.session = some [])
    {note : Note τ ν} (hlast : (on topic log).getLast? = some note) :
    Shows sub.state note.payload := by
  rcases h [] hsession note hlast with hlater | ⟨_, hshows⟩
  · cases hlater
  · exact hshows

/-! ### What is shown climbs with what is published -/

section Ascending

variable {R : ν → ν → Prop}

/-- Along the log of the topic, each payload is below every later one. -/
def Climbs (R : ν → ν → Prop) (topic : τ) (log : List (Note τ ν)) : Prop :=
  (on topic log).Pairwise (fun a b => R a.payload b.payload)

/-- What is shown is below everything under way, which climbs. -/
structure Ascending (Shows : σ → ν → Prop) (R : ν → ν → Prop) (topic : τ)
    (sub : Subscriber τ ν σ) : Prop where
  shown : ∀ inbox, sub.session = some inbox → ∀ v, Shows sub.state v →
    ∀ note ∈ on topic inbox, R v note.payload
  pending : ∀ inbox, sub.session = some inbox → Climbs R topic inbox

/-- Every payload of the log is below the last. -/
theorem Climbs.le_last (hrefl : ∀ v, R v v) (h : Climbs R topic log) {note last : Note τ ν}
    (hnote : note ∈ on topic log) (hlast : (on topic log).getLast? = some last) :
    R note.payload last.payload := by
  obtain ⟨before, heq⟩ := List.getLast?_eq_some_iff.mp hlast
  unfold Climbs at h
  rw [heq] at h hnote
  rcases List.mem_append.mp hnote with hbefore | hsame
  · exact (List.pairwise_append.mp h).2.2 note hbefore last (List.mem_singleton_self last)
  · rw [List.mem_singleton.mp hsame]
    exact hrefl _

theorem Ascending.notify (hclimbs : Climbs R topic (log ++ notes)) (hwithin : Within log sub)
    (hsourced : Sourced Shows topic log sub) (h : Ascending Shows R topic sub) :
    Ascending Shows R topic (sub.notify notes) := by
  unfold Climbs at hclimbs
  rw [on_append, List.pairwise_append] at hclimbs
  obtain ⟨_, hnotes, hacross⟩ := hclimbs
  refine ⟨fun inbox hinbox v hv note hnote => ?_, fun inbox hinbox => ?_⟩
  · obtain ⟨inbox₀, hsession, rfl⟩ := Option.map_eq_some_iff.mp hinbox
    rw [on_append] at hnote
    rcases List.mem_append.mp hnote with hold | hnew
    · exact h.shown inbox₀ hsession v hv note hold
    · obtain ⟨source, hsource, rfl⟩ := hsourced v hv
      exact hacross source hsource note hnew
  · obtain ⟨inbox₀, hsession, rfl⟩ := Option.map_eq_some_iff.mp hinbox
    unfold Climbs
    rw [on_append, List.pairwise_append]
    refine ⟨h.pending inbox₀ hsession, hnotes, fun a ha b hb => hacross a ?_ b hb⟩
    obtain ⟨hmem, htopic⟩ := mem_on.mp ha
    exact mem_on.mpr ⟨hwithin inbox₀ hsession a hmem, htopic⟩

theorem ascending_subscribe (hrefl : ∀ v, R v v)
    (hretain : ∀ n ∈ log, n.topic = topic → n.retain = true) (hclimbs : Climbs R topic log)
    (hsourced : Sourced Shows topic log sub) : Ascending Shows R topic (sub.subscribe log) := by
  refine ⟨fun inbox hinbox v hv note hnote => ?_, fun inbox hinbox => ?_⟩
  · cases hinbox
    rw [on_retained hretain, Option.mem_toList] at hnote
    obtain ⟨source, hsource, rfl⟩ := hsourced v hv
    exact hclimbs.le_last hrefl hsource hnote
  · cases hinbox
    unfold Climbs
    rw [on_retained hretain]
    cases (on topic log).getLast? with
    | none => exact List.Pairwise.nil
    | some note => exact List.pairwise_singleton _ note

theorem ascending_fresh {s : σ} :
    Ascending Shows R topic ({ state := s } : Subscriber τ ν σ) := by
  refine ⟨fun inbox hinbox => ?_, fun inbox hinbox => ?_⟩ <;> cases hinbox

theorem ascending_lose : Ascending Shows R topic sub.lose := by
  refine ⟨fun inbox hinbox => ?_, fun inbox hinbox => ?_⟩ <;> cases hinbox

/-- **A delivery leaves what is shown below everything under way.** -/
theorem Ascending.deliver {other : τ} (hhandles : Handles handle Genuine topic Shows)
    (hfunctional : ∀ s v w, Shows s v → Shows s w → v = w) (hgenuine : ∀ note ∈ log, Genuine note)
    (hwithin : Within log sub) (h : Ascending Shows R topic sub) :
    Ascending Shows R topic (sub.deliver handle other) := by
  rcases deliver_cases handle other sub with heq | ⟨inbox, note, rest, hsession, htake, heq⟩
  · rw [heq]
    exact h
  rw [heq]
  obtain ⟨hother, hon, hothers, hmem⟩ := take_eq_some htake
  have hlogged : note ∈ log := hwithin inbox hsession note ((hmem note).mpr (Or.inl rfl))
  have hpending := h.pending inbox hsession
  unfold Climbs at hpending
  by_cases htopic : note.topic = topic
  · have heq' : other = topic := hother.symm.trans htopic
    subst heq'
    have hhere := hhandles.here sub.state note (hgenuine note hlogged) htopic
    rw [hon, List.pairwise_cons] at hpending
    refine ⟨fun inbox' hinbox' v hv n hn => ?_, fun inbox' hinbox' => ?_⟩
    · cases hinbox'
      rw [hfunctional _ v _ hv hhere]
      exact hpending.1 n hn
    · cases hinbox'
      exact hpending.2
  · have hne : topic ≠ other := fun hsame => htopic (hother.trans hsame.symm)
    have hsame := hhandles.elsewhere sub.state note
    rw [hothers topic hne] at hpending
    refine ⟨fun inbox' hinbox' v hv n hn => ?_, fun inbox' hinbox' => ?_⟩
    · cases hinbox'
      exact h.shown inbox hsession v ((hsame v (hgenuine note hlogged) htopic).mp hv) n
        (hothers topic hne ▸ hn)
    · cases hinbox'
      exact hpending

/-! ### What was shown once -/

/-- What was shown at some time is below what is shown now and everything under way. -/
structure Above (Shows : σ → ν → Prop) (R : ν → ν → Prop) (topic : τ) (seen : ν)
    (sub : Subscriber τ ν σ) : Prop where
  shown : ∀ v, Shows sub.state v → R seen v
  pending : ∀ inbox, sub.session = some inbox → ∀ note ∈ on topic inbox, R seen note.payload

variable {seen : ν}

theorem Ascending.above (hrefl : ∀ v, R v v) (hfunctional : ∀ s v w, Shows s v → Shows s w → v = w)
    (h : Ascending Shows R topic sub) (hseen : Shows sub.state seen) :
    Above Shows R topic seen sub where
  shown _ hv := hfunctional _ _ _ hseen hv ▸ hrefl seen
  pending inbox hinbox note hnote := h.shown inbox hinbox seen hseen note hnote

theorem Above.notify (hclimbs : Climbs R topic (log ++ notes))
    (hseen : ∃ note ∈ on topic log, note.payload = seen) (h : Above Shows R topic seen sub) :
    Above Shows R topic seen (sub.notify notes) where
  shown := h.shown
  pending inbox hinbox note hnote := by
    unfold Climbs at hclimbs
    rw [on_append, List.pairwise_append] at hclimbs
    obtain ⟨inbox₀, hsession, rfl⟩ := Option.map_eq_some_iff.mp hinbox
    rw [on_append] at hnote
    rcases List.mem_append.mp hnote with hold | hnew
    · exact h.pending inbox₀ hsession note hold
    · obtain ⟨source, hsource, rfl⟩ := hseen
      exact hclimbs.2.2 source hsource note hnew

theorem Above.subscribe (hrefl : ∀ v, R v v)
    (hretain : ∀ n ∈ log, n.topic = topic → n.retain = true) (hclimbs : Climbs R topic log)
    (hseen : ∃ note ∈ on topic log, note.payload = seen) (h : Above Shows R topic seen sub) :
    Above Shows R topic seen (sub.subscribe log) where
  shown := h.shown
  pending inbox hinbox note hnote := by
    cases hinbox
    rw [on_retained hretain, Option.mem_toList] at hnote
    obtain ⟨source, hsource, rfl⟩ := hseen
    exact hclimbs.le_last hrefl hsource hnote

/-- A subscriber that shows nothing yet. -/
theorem above_fresh {s : σ} (hnone : ∀ v, ¬ Shows s v) :
    Above Shows R topic seen { state := s } where
  shown v hv := absurd hv (hnone v)
  pending inbox hinbox := by cases hinbox

theorem Above.lose (h : Above Shows R topic seen sub) : Above Shows R topic seen sub.lose where
  shown := h.shown
  pending inbox hinbox := by cases hinbox

/-- **A delivery shows nothing that was overtaken.** -/
theorem Above.deliver {other : τ} (hhandles : Handles handle Genuine topic Shows)
    (hfunctional : ∀ s v w, Shows s v → Shows s w → v = w) (hgenuine : ∀ note ∈ log, Genuine note)
    (hwithin : Within log sub) (h : Above Shows R topic seen sub) :
    Above Shows R topic seen (sub.deliver handle other) := by
  rcases deliver_cases handle other sub with heq | ⟨inbox, note, rest, hsession, htake, heq⟩
  · rw [heq]
    exact h
  rw [heq]
  obtain ⟨hother, hon, hothers, hmem⟩ := take_eq_some htake
  have hlogged : note ∈ log := hwithin inbox hsession note ((hmem note).mpr (Or.inl rfl))
  have hgen := hgenuine note hlogged
  refine ⟨fun v hv => ?_, fun inbox' hinbox' n hn => ?_⟩
  · by_cases htopic : note.topic = topic
    · rw [← hfunctional _ _ _ (hhandles.here sub.state note hgen htopic) hv]
      exact h.pending inbox hsession note (by
        rw [← htopic, hother, hon]
        exact List.mem_cons_self ..)
    · exact h.shown v ((hhandles.elsewhere sub.state note v hgen htopic).mp hv)
  · cases hinbox'
    obtain ⟨hrest, htopic⟩ := mem_on.mp hn
    exact h.pending inbox hsession n (mem_on.mpr ⟨(hmem n).mpr (Or.inr hrest), htopic⟩)

end Ascending

end Broker
