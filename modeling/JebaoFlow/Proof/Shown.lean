import JebaoFlow.HomeAssistant.Deployment
import JebaoFlow.Proof.Genuine

/-!
# What an entry shows

Of every retained topic an entry shows the payload it took last. A payload the daemon
publishes there is taken as it is, and the others leave it alone, so the rules of the
broker apply topic by topic.
-/

namespace JebaoFlow

open HomeAssistant

variable {topics : MqttTopics} {kind kind' : TopicKind} {id id' topic : String}

/-! ## Topics are told apart -/

/-- The topics that keep their last payload. -/
def TopicKind.IsRetained : TopicKind → Prop
  | .availability | .systemConfig | .groupState | .deviceState => True
  | _ => False

theorem TopicKind.below_injective (h : kind.below id = kind'.below id') :
    kind = kind' ∧ (kind.levels.isSome = true → id = id') := by
  cases kind <;> cases kind' <;> simp_all [TopicKind.below, TopicKind.levels, String.toList_inj]

/-- A topic is of one kind, and about one identifier if it has any. -/
theorem TopicKind.build_unique (h : kind.build topics id = .ok topic)
    (h' : kind'.build topics id' = .ok topic) :
    kind = kind' ∧ (kind.levels.isSome = true → id = id') := by
  obtain ⟨rest, hrest, hbelow⟩ := TopicKind.build_below h
  obtain ⟨rest', hrest', hbelow'⟩ := TopicKind.build_below h'
  have hsame := List.append_cancel_left (hrest.symm.trans hrest')
  obtain rfl := (List.cons.inj hsame).2
  exact TopicKind.below_injective (hbelow.symm.trans hbelow')

/-- The system topics are about no identifier. -/
theorem TopicKind.build_congr (h : kind.levels.isSome = true → id = id') :
    kind.build topics id = kind.build topics id' := by
  cases kind <;> first | rfl | rw [h rfl]

theorem Genuine.kind_eq {t : Transmission} (h : Genuine topics t)
    (htopic : kind.build topics id = .ok t.topic) :
    t.payload.kind = kind ∧ (kind.levels.isSome = true → t.payload.subject = id) := by
  obtain ⟨rfl, hid⟩ := TopicKind.build_unique h.build_topic htopic
  exact ⟨rfl, hid⟩

theorem Genuine.retain_eq {t : Transmission} (h : Genuine topics t)
    (hkind : t.payload.kind.IsRetained) : t.retain = true := by
  cases h with
  | availability | systemConfig | groupState | deviceState => rfl
  | groupResult | deviceResult => cases hkind
  | @complaint body hbody =>
      cases body with
      | invalidCommand | invalidDeviceCommand => cases hkind
      | groupResult | deviceResult | groupState | deviceState => cases hbody

/-! ## What is shown -/

/-- The payload an entry shows of a topic. -/
def shown (kind : TopicKind) (id : String) (runtime : LiveRuntime) : Option WirePayload :=
  match kind with
  | .availability => some (.text (PyStr.ofString (if runtime.online then "online" else "offline")))
  | .systemConfig => some (.json (.dict runtime.systemConfig))
  | .groupState => (runtime.groupStates.get? id).map (fun items => .json (.dict items))
  | .deviceState => (runtime.deviceStates.get? id).map (fun items => .json (.dict items))
  | .systemStatus | .groupCommand | .deviceCommand | .requestResult => none

theorem shown_congr {runtime : LiveRuntime} (h : kind.levels.isSome = true → id = id') :
    shown kind id runtime = shown kind id' runtime := by
  cases kind <;> first | rfl | rw [h rfl]

section Absorb

variable {stamps : Timestamps} {daemon : InstanceConfig} {cfg : AppConfig} {runtime : LiveRuntime}
  {t : Transmission}

/-- A payload is shown under its own topic. -/
theorem shown_absorb_self (h : Genuine topics t) (hkind : t.payload.kind.IsRetained) :
    shown t.payload.kind t.payload.subject (absorb stamps daemon cfg runtime t.payload)
      = some (t.payload.wire stamps daemon cfg) := by
  cases h with
  | availability htext => rcases htext with rfl | rfl <;> rfl
  | systemConfig => rfl
  | groupState =>
      exact congrArg (Option.map fun items => WirePayload.json (.dict items))
        (Dict.get?_set_self _ _ _)
  | deviceState =>
      exact congrArg (Option.map fun items => WirePayload.json (.dict items))
        (Dict.get?_set_self _ _ _)
  | groupResult | deviceResult => cases hkind
  | @complaint body hbody =>
      cases body with
      | invalidCommand | invalidDeviceCommand => cases hkind
      | groupResult | deviceResult | groupState | deviceState => cases hbody

/-- Under the other topics nothing changes. -/
theorem shown_absorb_other
    (hother : ¬ (t.payload.kind = kind ∧ (kind.levels.isSome = true → t.payload.subject = id))) :
    shown kind id (absorb stamps daemon cfg runtime t.payload) = shown kind id runtime := by
  obtain ⟨_, payload, _⟩ := t
  cases payload with
  | availability text => cases kind <;> first | rfl | exact absurd ⟨rfl, nofun⟩ hother
  | systemConfig => cases kind <;> first | rfl | exact absurd ⟨rfl, nofun⟩ hother
  | message body =>
      cases body with
      | invalidCommand | invalidDeviceCommand => rfl
      | groupResult | deviceResult => cases kind <;> rfl
      | groupState state =>
          cases kind with
          | groupState =>
              have hne : state.groupId ≠ id := fun heq => hother ⟨rfl, fun _ => heq⟩
              exact congrArg (Option.map fun items => WirePayload.json (.dict items))
                (Dict.get?_set_ne _ _ hne)
          | _ => rfl
      | deviceState state =>
          cases kind with
          | deviceState =>
              have hne : state.deviceId ≠ id := fun heq => hother ⟨rfl, fun _ => heq⟩
              exact congrArg (Option.map fun items => WirePayload.json (.dict items))
                (Dict.get?_set_ne _ _ hne)
          | _ => rfl

end Absorb

/-! ## The rules of the broker apply -/

variable {site : Site}

def Shows (site : Site) (kind : TopicKind) (id : String) (entry : site.Entry) (payload : WirePayload) :
    Prop := shown kind id entry.1 = some payload

theorem Shows.functional (entry : site.Entry) (p q : WirePayload) (hp : Shows site kind id entry p)
    (hq : Shows site kind id entry q) : p = q := Option.some.inj (hp.symm.trans hq)

/-- A note of the daemon. -/
def GenuineNote (site : Site) (note : Broker.Note String WirePayload) : Prop :=
  ∃ t, Genuine site.topics t ∧ site.note t = note

theorem receive_note {t : Transmission} (entry : site.Entry) (h : Genuine site.topics t) :
    (site.receive entry (site.note t)).1
      = absorb site.stamps site.daemon site.cfg entry.1 t.payload :=
  receive_genuine site.topics_ok entry.2 h

/-- **An entry handles every retained topic.** -/
theorem handles (hkind : kind.IsRetained) (htopic : kind.build site.topics id = .ok topic) :
    Broker.Handles site.receive (GenuineNote site) topic (Shows site kind id) where
  here := by
    rintro entry _ ⟨t, ht, rfl⟩ rfl
    obtain ⟨rfl, hid⟩ := ht.kind_eq htopic
    unfold Shows
    rw [receive_note entry ht, ← shown_congr hid]
    exact shown_absorb_self ht hkind
  elsewhere := by
    rintro entry _ payload ⟨t, ht, rfl⟩ hne
    unfold Shows
    rw [receive_note entry ht, shown_absorb_other]
    rintro ⟨rfl, hid⟩
    have hbuild := ht.build_topic
    rw [TopicKind.build_congr hid, htopic] at hbuild
    exact hne (Except.ok.inj hbuild).symm

theorem retained_notes {notes : List (Broker.Note String WirePayload)} (hkind : kind.IsRetained)
    (htopic : kind.build site.topics id = .ok topic) (hgenuine : ∀ note ∈ notes, GenuineNote site note) :
    ∀ note ∈ notes, note.topic = topic → note.retain = true := by
  rintro note hnote rfl
  obtain ⟨t, ht, rfl⟩ := hgenuine note hnote
  obtain ⟨rfl, _⟩ := ht.kind_eq htopic
  exact ht.retain_eq hkind

/-! ## Nothing is made up -/

/-- A message the daemon published, under the identifier it is about. -/
def Attested (site : Site) (published : List Transmission) (kind : TopicKind) (id : String)
    (items : Object) : Prop :=
  ∃ t ∈ published, t.payload.kind = kind ∧ t.payload.subject = id
    ∧ kind.build site.topics id = .ok t.topic
    ∧ t.payload.wire site.stamps site.daemon site.cfg = .json (.dict items)

/-- Everything an entry keeps was published; of the results it keeps only so many. -/
structure Backed (site : Site) (published : List Transmission) (runtime : LiveRuntime) : Prop where
  group : ∀ gid items, runtime.groupStates.get? gid = some items →
    Attested site published .groupState gid items
  device : ∀ did items, runtime.deviceStates.get? did = some items →
    Attested site published .deviceState did items
  result : ∀ requestId items, runtime.lastResults.get? requestId = some items →
    Attested site published .requestResult requestId items
  config : runtime.systemConfig = []
    ∨ runtime.systemConfig = Object.of (systemConfig site.daemon site.cfg).json
  bounded : runtime.lastResults.entries.length ≤ LiveRuntime.resultCapacity

section Backed

variable {published sent : List Transmission} {runtime : LiveRuntime}

theorem Attested.append {items : Object} (h : Attested site published kind id items) :
    Attested site (published ++ sent) kind id items := by
  obtain ⟨t, ht, hattested⟩ := h
  exact ⟨t, List.mem_append_left _ ht, hattested⟩

theorem Backed.append (h : Backed site published runtime) :
    Backed site (published ++ sent) runtime where
  group gid items hitems := (h.group gid items hitems).append
  device did items hitems := (h.device did items hitems).append
  result requestId items hitems := (h.result requestId items hitems).append
  config := h.config
  bounded := h.bounded

/-- What a dictionary holds after one more was stored. -/
theorem attested_set {objects : Dict String Object} {t : Transmission} {items : Object}
    (ht : t ∈ published) (hgenuine : Genuine site.topics t)
    (hwire : t.payload.wire site.stamps site.daemon site.cfg = .json (.dict items))
    (h : ∀ id items, objects.get? id = some items →
      Attested site published t.payload.kind id items) :
    ∀ id items', (objects.set t.payload.subject items).get? id = some items' →
      Attested site published t.payload.kind id items' := by
  intro id items' hitems
  rw [Dict.get?_set] at hitems
  split at hitems
  · rename_i heq
    cases hitems
    exact ⟨t, ht, rfl, heq, heq ▸ hgenuine.build_topic, hwire⟩
  · exact h id items' hitems

theorem get?_popFirst {objects : Dict String Object} {items : Object}
    (h : objects.popFirst.get? id = some items) : objects.get? id = some items :=
  Dict.get?_eq_some_iff.mpr (List.mem_of_mem_tail (Dict.get?_eq_some_iff.mp h))

theorem storeResult_get? {results : Dict String Object} {items items' : Object}
    (h : (LiveRuntime.storeResult id items results).get? id' = some items') :
    (results.set id items).get? id' = some items' := by
  unfold LiveRuntime.storeResult at h
  dsimp only at h
  split at h
  · exact get?_popFirst h
  · exact h

/-- A result more than there may be costs the oldest one. -/
theorem storeResult_bounded {results : Dict String Object} {items : Object}
    (h : results.entries.length ≤ LiveRuntime.resultCapacity) :
    (LiveRuntime.storeResult id items results).entries.length ≤ LiveRuntime.resultCapacity := by
  have hset : (results.set id items).entries.length ≤ results.entries.length + 1 := by
    have hkeys := congrArg List.length (Dict.keys_set results id items)
    unfold Dict.keys at hkeys
    split at hkeys <;> simp at hkeys <;> omega
  unfold LiveRuntime.storeResult
  dsimp only
  split
  · show (results.set id items).entries.tail.length ≤ _
    rw [List.length_tail]
    omega
  · omega

/-- **What is received was published, and is stored under what it is about.** -/
theorem Backed.absorb {t : Transmission} (ht : t ∈ published) (hgenuine : Genuine site.topics t)
    (h : Backed site published runtime) :
    Backed site published (absorb site.stamps site.daemon site.cfg runtime t.payload) := by
  obtain ⟨topic, payload, retain⟩ := t
  cases payload with
  | availability text => exact ⟨h.group, h.device, h.result, h.config, h.bounded⟩
  | systemConfig => exact ⟨h.group, h.device, h.result, Or.inr rfl, h.bounded⟩
  | message body =>
      cases body with
      | invalidCommand | invalidDeviceCommand => exact h
      | groupState =>
          exact ⟨attested_set ht hgenuine rfl h.group, h.device, h.result, h.config, h.bounded⟩
      | deviceState =>
          exact ⟨h.group, attested_set ht hgenuine rfl h.device, h.result, h.config, h.bounded⟩
      | groupResult | deviceResult =>
          exact ⟨h.group, h.device, fun id items hitems =>
            attested_set ht hgenuine rfl h.result id items (storeResult_get? hitems), h.config,
            storeResult_bounded h.bounded⟩

theorem backed_fresh : Backed site published site.fresh.1 where
  group _ _ hitems := nomatch hitems
  device _ _ hitems := nomatch hitems
  result _ _ hitems := nomatch hitems
  config := Or.inl rfl
  bounded := Nat.zero_le _

end Backed

end JebaoFlow
