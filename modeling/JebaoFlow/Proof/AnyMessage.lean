import JebaoFlow.HomeAssistant.Entities
import JebaoFlow.Lib.Run
import JebaoFlow.Proof.Shown

/-!
# Whatever the broker sends

Anyone can publish under the prefix. Whatever the messages are and however the listeners fare,
what the entry keeps names itself and is of the right version, a configuration it took is one
it can use, a message touches nothing but what its topic is about, and no platform hands over
an entity twice.
-/

namespace JebaoFlow

open HomeAssistant Run

variable {topicPrefix : String} {runtime stored : LiveRuntime} {message : ReceiveMessage}
  {conv : Conversions}

/-! ## What is kept -/

/-- A record of version 1 that names the identifier it is kept under. -/
structure Named (key id : String) (items : Object) : Prop where
  version : equalsOne (field items "schema_version") = true
  names : field items key = .str (PyStr.ofString id)
  level : IsLevel id

/-- A configuration of version 1 with its lists and a mode that is known. -/
structure Usable (payload : Object) : Prop where
  version : equalsOne (field payload "schema_version") = true
  groups : isList (field payload "groups") = true
  devices : isList (field payload "devices") = true
  patterns : isList (field payload "patterns") = true
  mode : getOr payload "runtime_mode" (.text "observer") = .text "observer"
    ∨ getOr payload "runtime_mode" (.text "observer") = .text "control"

structure Sane (topicPrefix : String) (runtime : LiveRuntime) : Prop where
  base : runtime.topicPrefix = topicPrefix
  config : runtime.systemConfig = [] ∨ Usable runtime.systemConfig
  group : ∀ id items, runtime.groupStates.get? id = some items → Named "group_id" id items
  device : ∀ id items, runtime.deviceStates.get? id = some items → Named "device_id" id items
  result : ∀ id items, runtime.lastResults.get? id = some items → Named "request_id" id items
  bounded : runtime.lastResults.entries.length ≤ LiveRuntime.resultCapacity

theorem sane_create (entryId : PyStr) (raw : String) :
    Sane (stripSlashes raw) (LiveRuntime.create entryId raw) where
  base := rfl
  config := Or.inl rfl
  group _ _ hitems := by cases hitems
  device _ _ hitems := by cases hitems
  result _ _ hitems := by cases hitems
  bounded := Nat.zero_le _

/-- What three handlers check. -/
theorem named_of_identified {key collection suffix id : String} {items : Object}
    (h : LiveRuntime.identified key (runtime.segment message.topic collection suffix)
      message.payload = some (id, items)) :
    Named key id items
      ∧ message.topic = levelTopic runtime.topicPrefix collection id suffix := by
  unfold LiveRuntime.identified at h
  split at h
  · rename_i items' id' hitems hsegment
    split at h
    · rename_i s hs
      split at h
      · rename_i hchecked
        cases h
        unfold LiveRuntime.segment at hsegment
        rw [parseSegment_eq] at hsegment
        obtain ⟨htopic, hlevel⟩ := levelOf_eq_some_iff.mp hsegment
        exact ⟨⟨hchecked.1, hchecked.2 ▸ hs, hlevel⟩, htopic⟩
      · cases h
    · cases h
  · cases h

theorem named_set {key id : String} {items : Object} {objects : Dict String Object}
    (hnamed : Named key id items)
    (h : ∀ id items, objects.get? id = some items → Named key id items) :
    ∀ id' items', (objects.set id items).get? id' = some items' → Named key id' items' := by
  intro id' items' hitems
  rw [Dict.get?_set] at hitems
  split at hitems
  · rename_i heq
    cases hitems
    exact heq ▸ hnamed
  · exact h id' items' hitems

theorem isRuntimeMode_ok {mode : Json} (h : LiveRuntime.isRuntimeMode mode = .ok true) :
    mode = .text "observer" ∨ mode = .text "control" := by
  cases mode with
  | str s =>
      have hs := Except.ok.inj h
      rw [Bool.or_eq_true, decide_eq_true_eq, decide_eq_true_eq] at hs
      exact hs.imp (congrArg Json.str) (congrArg Json.str)
  | list | dict => cases h
  | null | bool | int | float => cases h

/-- A configuration is taken only if it can be used. -/
theorem receiveSystemConfig_stored
    (h : LiveRuntime.receiveSystemConfig message runtime = .ok (some stored)) :
    ∃ payload, Usable payload ∧ stored = { runtime with systemConfig := payload } := by
  unfold LiveRuntime.receiveSystemConfig at h
  split at h
  · cases h
  · rename_i payload hpayload
    split at h
    · cases h
    · rename_i hversion
      split at h
      · cases h
      · rename_i hgroups
        split at h
        · cases h
        · rename_i hdevices
          split at h
          · cases h
          · rename_i hpatterns
            obtain ⟨known, hknown, hstored⟩ := PyError.bind_eq_ok h
            split at hstored
            · rename_i htrue
              cases hstored
              rw [htrue] at hknown
              exact ⟨payload, ⟨eq_true_of_ne_false hversion, eq_true_of_ne_false hgroups,
                eq_true_of_ne_false hdevices, eq_true_of_ne_false hpatterns,
                isRuntimeMode_ok hknown⟩, rfl⟩
            · cases hstored

/--
A result is stored under its identifier. No other is written, and none goes but the oldest,
when there were as many as there may be and the identifier is a new one.
-/
structure Stores (id : String) (before after : Dict String Object) : Prop where
  stored : ∃ items, after.get? id = some items
  others : ∀ other items, other ≠ id → after.get? other = some items →
    before.get? other = some items
  oldest : ∀ other items, other ≠ id → before.get? other = some items →
    after.get? other = some items
      ∨ before.get? id = none ∧ before.entries.length = LiveRuntime.resultCapacity
        ∧ before.keys.head? = some other

theorem storeResult_others {before : Dict String Object} {id other : String} {items items' : Object}
    (hne : other ≠ id) (h : (LiveRuntime.storeResult id items before).get? other = some items') :
    before.get? other = some items' := by
  have hset := storeResult_get? h
  rwa [Dict.get?_set_ne _ _ (Ne.symm hne)] at hset

/-- When there is no room, the identifier is new, the dictionary was full, and its first entry goes. -/
theorem storeResult_full {before : Dict String Object} {id : String} (items : Object)
    (hbounded : before.entries.length ≤ LiveRuntime.resultCapacity)
    (hmore : LiveRuntime.resultCapacity < (before.set id items).entries.length) :
    before.get? id = none ∧ before.entries.length = LiveRuntime.resultCapacity
      ∧ ∃ first rest, before.entries = first :: rest
        ∧ (LiveRuntime.storeResult id items before).entries = rest ++ [(id, items)] := by
  have hnew : before.get? id = none := by
    by_contra hsome
    have hkeys := congrArg List.length (Dict.keys_set before id items)
    rw [if_pos (Dict.mem_keys_iff.mpr (Option.isSome_iff_ne_none.mpr hsome))] at hkeys
    unfold Dict.keys at hkeys
    rw [List.length_map, List.length_map] at hkeys
    omega
  have hentries := Dict.entries_set_of_new hnew items
  have hfull : before.entries.length = LiveRuntime.resultCapacity := by
    rw [hentries, List.length_append, List.length_singleton] at hmore
    omega
  have hstore : LiveRuntime.storeResult id items before = (before.set id items).popFirst :=
    if_pos hmore
  refine ⟨hnew, hfull, ?_⟩
  cases hbefore : before.entries with
  | nil =>
      rw [hbefore] at hfull
      cases hfull
  | cons first rest =>
      refine ⟨first, rest, rfl, ?_⟩
      rw [hstore]
      show (before.set id items).entries.tail = _
      rw [hentries, hbefore]
      rfl

theorem storeResult_stores {before : Dict String Object} (id : String) (items : Object)
    (hbounded : before.entries.length ≤ LiveRuntime.resultCapacity) :
    Stores id before (LiveRuntime.storeResult id items before) := by
  by_cases hroom : (before.set id items).entries.length ≤ LiveRuntime.resultCapacity
  · have hstore : LiveRuntime.storeResult id items before = before.set id items :=
      if_neg (Nat.not_lt.mpr hroom)
    refine ⟨⟨items, ?_⟩, fun _ _ => storeResult_others, fun other items' hne hitems => Or.inl ?_⟩
    · rw [hstore, Dict.get?_set_self]
    · rw [hstore, Dict.get?_set_ne _ _ (Ne.symm hne), hitems]
  · obtain ⟨hnew, hfull, first, rest, hbefore, hafter⟩ :=
      storeResult_full items hbounded (Nat.lt_of_not_le hroom)
    refine ⟨⟨items, ?_⟩, fun _ _ => storeResult_others, fun other items' hne hitems => ?_⟩
    · rw [Dict.get?_eq_some_iff, hafter]
      exact List.mem_append_right _ (List.mem_singleton_self _)
    · have hmem := Dict.get?_eq_some_iff.mp hitems
      rw [hbefore] at hmem
      rcases List.mem_cons.mp hmem with rfl | hmem
      · -- it was the oldest
        refine Or.inr ⟨hnew, hfull, ?_⟩
        unfold Dict.keys
        rw [hbefore]
        rfl
      · refine Or.inl (Dict.get?_eq_some_iff.mpr ?_)
        rw [hafter]
        exact List.mem_append_left _ hmem

/-- What a message may touch: the part its topic is about. -/
structure Touches (topicPrefix topic : String) (before after : LiveRuntime) : Prop where
  entry : after.entryId = before.entryId
  online : after.online ≠ before.online →
    TopicFilter.covers s!"{topicPrefix}/system/availability".toList topic.toList = true
  config : after.systemConfig ≠ before.systemConfig →
    TopicFilter.covers s!"{topicPrefix}/system/config".toList topic.toList = true
  group : ∀ id, after.groupStates.get? id ≠ before.groupStates.get? id →
    topic = levelTopic topicPrefix "groups" id "state"
  device : ∀ id, after.deviceStates.get? id ≠ before.deviceStates.get? id →
    topic = levelTopic topicPrefix "devices" id "state"
  result : after.lastResults ≠ before.lastResults →
    ∃ id, topic = levelTopic topicPrefix "requests" id "result"
      ∧ Stores id before.lastResults after.lastResults

theorem Touches.refl (topic : String) (runtime : LiveRuntime) :
    Touches topicPrefix topic runtime runtime where
  entry := rfl
  online hne := absurd rfl hne
  config hne := absurd rfl hne
  group _ hne := absurd rfl hne
  device _ hne := absurd rfl hne
  result hne := absurd rfl hne

/-- Two steps, of which the first keeps the results. -/
theorem Touches.trans {topic : String} {a b c : LiveRuntime} (h : Touches topicPrefix topic a b)
    (hkept : b.lastResults = a.lastResults) (h' : Touches topicPrefix topic b c) :
    Touches topicPrefix topic a c where
  entry := h'.entry.trans h.entry
  online hne := by
    by_cases hsame : c.online = b.online
    · exact h.online (hsame ▸ hne)
    · exact h'.online hsame
  config hne := by
    by_cases hsame : c.systemConfig = b.systemConfig
    · exact h.config (hsame ▸ hne)
    · exact h'.config hsame
  group id hne := by
    by_cases hsame : c.groupStates.get? id = b.groupStates.get? id
    · exact h.group id (hsame ▸ hne)
    · exact h'.group id hsame
  device id hne := by
    by_cases hsame : c.deviceStates.get? id = b.deviceStates.get? id
    · exact h.device id (hsame ▸ hne)
    · exact h'.device id hsame
  result hne := by
    rw [← hkept] at hne ⊢
    exact h'.result hne

/-- The handlers with their filters. -/
theorem heard_cases {topic : String} {handler : LiveRuntime.Handler}
    (h : handler ∈ runtime.heard topic) :
    handler = LiveRuntime.receiveAvailability
        ∧ TopicFilter.covers s!"{runtime.topicPrefix}/system/availability".toList topic.toList = true
      ∨ handler = LiveRuntime.receiveSystemConfig
        ∧ TopicFilter.covers s!"{runtime.topicPrefix}/system/config".toList topic.toList = true
      ∨ handler = LiveRuntime.receiveGroupState ∨ handler = LiveRuntime.receiveDeviceState
      ∨ handler = LiveRuntime.receiveResult := by
  obtain ⟨entry, hentry, heq⟩ := List.mem_filterMap.mp h
  split at heq
  · rename_i hcovers
    cases heq
    unfold JebaoFlowRuntime.subscriptions LiveRuntime.handlers at hentry
    simp only [List.zip_cons_cons, List.zip_nil_right, List.mem_cons, List.not_mem_nil, or_false]
      at hentry
    rcases hentry with rfl | rfl | rfl | rfl | rfl
    · exact Or.inl ⟨rfl, hcovers⟩
    · exact Or.inr (Or.inl ⟨rfl, hcovers⟩)
    · exact Or.inr (Or.inr (Or.inl rfl))
    · exact Or.inr (Or.inr (Or.inr (Or.inl rfl)))
    · exact Or.inr (Or.inr (Or.inr (Or.inr rfl)))
  · cases heq

/-- A record that is set is the only one that changes. -/
theorem get?_set_of_ne {objects : Dict String Object} {id id' : String} {items : Object}
    (h : (objects.set id items).get? id' ≠ objects.get? id') : id' = id := by
  by_contra hne
  exact h (Dict.get?_set_ne _ _ (Ne.symm hne))

/-- **A handler that stores something keeps the entry sane and to its topic.** -/
theorem handler_sane {handler : LiveRuntime.Handler} (hhandler : handler ∈ runtime.heard message.topic)
    (h : Sane topicPrefix runtime) (hstored : handler message runtime = .ok (some stored)) :
    Sane topicPrefix stored ∧ Touches topicPrefix message.topic runtime stored := by
  have hrefl : Touches topicPrefix message.topic runtime runtime := Touches.refl _ _
  obtain ⟨rfl, hconfig, hgroup, hdevice, hresult, hbounded⟩ := h
  rcases heard_cases hhandler with ⟨rfl, hcovers⟩ | ⟨rfl, hcovers⟩ | rfl | rfl | rfl
  · cases hstored
    exact ⟨⟨rfl, hconfig, hgroup, hdevice, hresult, hbounded⟩,
      { hrefl with online := fun _ => hcovers }⟩
  · obtain ⟨payload, husable, rfl⟩ := receiveSystemConfig_stored hstored
    exact ⟨⟨rfl, Or.inr husable, hgroup, hdevice, hresult, hbounded⟩,
      { hrefl with config := fun _ => hcovers }⟩
  · obtain ⟨⟨id, items⟩, hfound, rfl⟩ := Option.map_eq_some_iff.mp (Except.ok.inj hstored)
    obtain ⟨hnamed, htopic⟩ := named_of_identified hfound
    exact ⟨⟨rfl, hconfig, named_set hnamed hgroup, hdevice, hresult, hbounded⟩,
      { hrefl with group := fun _ hne => get?_set_of_ne hne ▸ htopic }⟩
  · obtain ⟨⟨id, items⟩, hfound, rfl⟩ := Option.map_eq_some_iff.mp (Except.ok.inj hstored)
    obtain ⟨hnamed, htopic⟩ := named_of_identified hfound
    exact ⟨⟨rfl, hconfig, hgroup, named_set hnamed hdevice, hresult, hbounded⟩,
      { hrefl with device := fun _ hne => get?_set_of_ne hne ▸ htopic }⟩
  · obtain ⟨⟨id, items⟩, hfound, rfl⟩ := Option.map_eq_some_iff.mp (Except.ok.inj hstored)
    obtain ⟨hnamed, htopic⟩ := named_of_identified hfound
    refine ⟨⟨rfl, hconfig, hgroup, hdevice, fun id' items' hitems =>
      named_set hnamed hresult id' items' (storeResult_get? hitems), storeResult_bounded hbounded⟩,
      { hrefl with result := fun _ => ⟨id, htopic, storeResult_stores id items hbounded⟩ }⟩

theorem heard_congr {other : LiveRuntime} {topic : String}
    (h : other.topicPrefix = runtime.topicPrefix) : other.heard topic = runtime.heard topic := by
  unfold LiveRuntime.heard
  rw [h]

/-- The handler leaves the results alone. -/
def KeepsResults (handler : LiveRuntime.Handler) : Prop :=
  ∀ message runtime stored, handler message runtime = .ok (some stored) →
    stored.lastResults = runtime.lastResults

/-- **Only the last subscription is for results.** -/
theorem heard_split (runtime : LiveRuntime) (topic : String) : ∃ others last,
    runtime.heard topic = others ++ last ∧ (∀ handler ∈ others, KeepsResults handler)
      ∧ (last = [] ∨ last = [LiveRuntime.receiveResult]) := by
  have hkeeps : ∀ handler ∈ [LiveRuntime.receiveAvailability, LiveRuntime.receiveSystemConfig,
      LiveRuntime.receiveGroupState, LiveRuntime.receiveDeviceState], KeepsResults handler := by
    intro handler hhandler message runtime stored hstored
    simp only [List.mem_cons, List.not_mem_nil, or_false] at hhandler
    rcases hhandler with rfl | rfl | rfl | rfl
    · cases hstored
      rfl
    · obtain ⟨_, _, rfl⟩ := receiveSystemConfig_stored hstored
      rfl
    · obtain ⟨_, _, rfl⟩ := Option.map_eq_some_iff.mp (Except.ok.inj hstored)
      rfl
    · obtain ⟨_, _, rfl⟩ := Option.map_eq_some_iff.mp (Except.ok.inj hstored)
      rfl
  have hsplit : (JebaoFlowRuntime.subscriptions { topicPrefix := runtime.topicPrefix }).zip
        LiveRuntime.handlers
      = ((JebaoFlowRuntime.subscriptions { topicPrefix := runtime.topicPrefix }).take 4).zip
          (LiveRuntime.handlers.take 4)
        ++ [(s!"{runtime.topicPrefix}/requests/+/result", LiveRuntime.receiveResult)] := rfl
  unfold LiveRuntime.heard
  dsimp only
  rw [hsplit, List.filterMap_append]
  refine ⟨_, _, rfl, fun handler hhandler => ?_, ?_⟩
  · obtain ⟨entry, hentry, heq⟩ := List.mem_filterMap.mp hhandler
    split at heq
    · cases heq
      exact hkeeps _ (List.of_mem_zip hentry).2
    · cases heq
  · by_cases hcovers : TopicFilter.covers s!"{runtime.topicPrefix}/requests/+/result".toList
        topic.toList = true
    · exact Or.inr (List.filterMap_cons_some (if_pos hcovers))
    · exact Or.inl (List.filterMap_cons_none (if_neg hcovers))

/-- **Nor does any message take it further than that.** -/
theorem receive_sane (h : Sane topicPrefix runtime) :
    Sane topicPrefix (runtime.receive message)
      ∧ Touches topicPrefix message.topic runtime (runtime.receive message) := by
  have hattempt : ∀ (current : LiveRuntime) (handler : LiveRuntime.Handler),
      handler ∈ runtime.heard message.topic → Sane topicPrefix current →
      Sane topicPrefix (current.attempt handler message)
        ∧ Touches topicPrefix message.topic current (current.attempt handler message) := by
    intro current handler hheard hcurrent
    have hhandler : handler ∈ current.heard message.topic := by
      rw [heard_congr (hcurrent.base.trans h.base.symm)]
      exact hheard
    unfold LiveRuntime.attempt
    split
    · rename_i stored hstored
      exact handler_sane hhandler hcurrent hstored
    · exact ⟨hcurrent, Touches.refl _ _⟩
  obtain ⟨others, last, hheard, hothers, hlast⟩ := heard_split runtime message.topic
  -- the handlers before the last keep the results, so they are stored once
  have hfold : ∀ (called : List LiveRuntime.Handler) (current : LiveRuntime),
      (∀ handler ∈ called, handler ∈ runtime.heard message.topic ∧ KeepsResults handler) →
      Sane topicPrefix current →
      Sane topicPrefix
          ((called ++ last).foldl (fun current handler => current.attempt handler message) current)
        ∧ Touches topicPrefix message.topic current
          ((called ++ last).foldl (fun current handler => current.attempt handler message) current) := by
    intro called
    induction called with
    | nil =>
        intro current _ hcurrent
        rcases hlast with rfl | rfl
        · exact ⟨hcurrent, Touches.refl _ _⟩
        · exact hattempt current LiveRuntime.receiveResult
            (hheard ▸ List.mem_append_right _ (List.mem_singleton_self _)) hcurrent
    | cons handler called ih =>
        intro current hcalled hcurrent
        obtain ⟨hmem, hkeeps⟩ := hcalled handler (List.mem_cons_self ..)
        obtain ⟨hsane, htouches⟩ := hattempt current handler hmem hcurrent
        have hkept : (current.attempt handler message).lastResults = current.lastResults := by
          unfold LiveRuntime.attempt
          split
          · rename_i stored hstored
            exact hkeeps message current stored hstored
          · rfl
        obtain ⟨hsane', htouches'⟩ :=
          ih (current.attempt handler message) (fun h hh => hcalled h (List.mem_cons_of_mem _ hh)) hsane
        rw [List.cons_append, List.foldl_cons]
        exact ⟨hsane', htouches.trans hkept htouches'⟩
  unfold LiveRuntime.receive
  rw [hheard]
  refine hfold others runtime (fun handler hhandler => ⟨?_, hothers handler hhandler⟩) h
  rw [hheard]
  exact List.mem_append_left _ hhandler

/-! ## What the platforms make of it -/

/-- What one call of a factory makes: entities of one owner with different controls. -/
structure Batch (owner : PyStr) (made : List Entity) : Prop where
  owned : ∀ e ∈ made, e.ownerId = owner
  controls : (made.map Entity.control).Nodup

theorem batch_nil {owner : PyStr} : Batch owner [] := ⟨by simp, List.nodup_nil⟩

/-- Entities made one by one, each for its own control. -/
theorem mapM_made {make : String → Except PyError Entity} {owner : PyStr}
    (hmake : ∀ control e, make control = .ok e → e.ownerId = owner ∧ e.control = control) :
    ∀ {controls : List String} {made : List Entity}, controls.mapM make = .ok made →
      (∀ e ∈ made, e.ownerId = owner) ∧ made.map Entity.control = controls
  | [], made, h => by
      cases h
      exact ⟨by simp, rfl⟩
  | control :: controls, made, h => by
      rw [List.mapM_cons] at h
      obtain ⟨e, he, h⟩ := PyError.bind_eq_ok h
      obtain ⟨rest, hrest, h⟩ := PyError.bind_eq_ok h
      cases h
      obtain ⟨howned, hcontrols⟩ := mapM_made hmake hrest
      obtain ⟨howner, hcontrol⟩ := hmake control e he
      refine ⟨fun other hother => ?_, by rw [List.map_cons, hcontrol, hcontrols]⟩
      rcases List.mem_cons.mp hother with rfl | hother
      · exact howner
      · exact howned other hother

/-- A descriptor that is gone through is known by its `id`. -/
theorem item_of_identifier {descriptor : Object} {owner : PyStr} {value : Json}
    (hid : identifierOf conv descriptor = some owner) (hitem : item descriptor "id" = .ok value) :
    asText conv.str value = owner := by
  unfold identifierOf at hid
  dsimp only at hid
  split at hid
  · cases hid
  · cases hid
    unfold getOr
    unfold item at hitem
    split at hitem
    · rename_i found hfound
      cases hitem
      rw [hfound]
      rfl
    · cases hitem

section Factories

variable {descriptor : Object} {owner : PyStr} (hid : identifierOf conv descriptor = some owner)

include hid

theorem groupEntity_made {control : String} {e : Entity}
    (h : GroupEntity.create conv runtime descriptor control = .ok e) :
    e.ownerId = owner ∧ e.control = control := by
  obtain ⟨id, hitem, h⟩ := PyError.bind_eq_ok h
  obtain ⟨name, _, h⟩ := PyError.bind_eq_ok h
  cases h
  exact ⟨item_of_identifier hid hitem, rfl⟩

theorem deviceEntity_made {control : String} {e : DeviceEntity}
    (h : DeviceEntity.create conv runtime descriptor control = .ok e) :
    e.deviceId = owner ∧ e.control = control := by
  obtain ⟨id, hitem, h⟩ := PyError.bind_eq_ok h
  obtain ⟨name, _, h⟩ := PyError.bind_eq_ok h
  obtain ⟨type, _, h⟩ := PyError.bind_eq_ok h
  obtain ⟨controls, _, h⟩ := PyError.bind_eq_ok h
  cases h
  exact ⟨item_of_identifier hid hitem, rfl⟩

theorem groupEntities_made {controls : List String} {made : List Entity}
    (h : groupEntities conv runtime controls descriptor = .ok made) :
    (∀ e ∈ made, e.ownerId = owner) ∧ made.map Entity.control = controls :=
  mapM_made (fun _ _ he => groupEntity_made hid he) h

theorem deviceEntities_made {controls : List String} {made : List Entity}
    (h : deviceEntities conv runtime controls descriptor = .ok made) :
    (∀ e ∈ made, e.ownerId = owner) ∧ made.map Entity.control = controls := by
  refine mapM_made (fun control e he => ?_) h
  obtain ⟨entity, hentity, he⟩ := PyError.bind_eq_ok he
  cases he
  exact deviceEntity_made hid hentity

omit hid in
/-- What is made of a descriptor that lists a word, or nothing. -/
theorem ifListed_made {key word control : String} {made : List Entity}
    {make : Except PyError (List Entity)}
    (hmake : ∀ {made}, make = .ok made →
      (∀ e ∈ made, e.ownerId = owner) ∧ made.map Entity.control = [control])
    (h : ifListed key word descriptor make = .ok made) :
    (∀ e ∈ made, e.ownerId = owner) ∧ (made.map Entity.control).Sublist [control] := by
  obtain ⟨listed, _, h⟩ := PyError.bind_eq_ok h
  split at h
  · obtain ⟨howned, hcontrols⟩ := hmake h
    exact ⟨howned, hcontrols ▸ List.Sublist.refl _⟩
  · cases h
    exact ⟨by simp, by simp⟩

theorem powerNumber_made {made : List Entity}
    (h : DevicePowerNumber.create conv runtime descriptor = .ok made) :
    (∀ e ∈ made, e.ownerId = owner) ∧ made.map Entity.control = ["device_power"] := by
  obtain ⟨entity, hentity, h⟩ := PyError.bind_eq_ok h
  obtain ⟨least, _, h⟩ := PyError.bind_eq_ok h
  obtain ⟨greatest, _, h⟩ := PyError.bind_eq_ok h
  cases h
  obtain ⟨howner, hcontrol⟩ := deviceEntity_made hid hentity
  refine ⟨fun e he => ?_, congrArg (fun control => [control]) hcontrol⟩
  rw [List.mem_singleton.mp he]
  exact howner

omit hid in
theorem batch_of_made {controls : List String} {made : List Entity}
    (h : (∀ e ∈ made, e.ownerId = owner) ∧ made.map Entity.control = controls)
    (hcontrols : controls.Nodup) : Batch owner made := ⟨h.1, h.2 ▸ hcontrols⟩

omit hid in
theorem batch_unlessObserving {make : Except PyError (List Entity)} {made : List Entity}
    (hmake : make = .ok made → Batch owner made)
    (h : unlessObserving conv runtime make = .ok made) : Batch owner made := by
  unfold unlessObserving at h
  split at h
  · cases h
    exact batch_nil
  · exact hmake h

omit hid in
theorem batch_ifListed {key word control : String} {make : Except PyError (List Entity)}
    {made : List Entity} (hmake : ∀ {made}, make = .ok made →
      (∀ e ∈ made, e.ownerId = owner) ∧ made.map Entity.control = [control])
    (h : ifListed key word descriptor make = .ok made) : Batch owner made := by
  obtain ⟨howned, hcontrols⟩ := ifListed_made hmake h
  exact ⟨howned, hcontrols.nodup (List.nodup_singleton control)⟩

/-- **Whatever a descriptor is, a factory makes one batch for it.** -/
theorem factory_batch {made : List Entity} : ∀ {loop : Loop},
    loop.factory conv runtime descriptor = .ok made → Batch owner made
  | .groups platform, h => by
      cases platform with
      | binarySensor | sensor => exact batch_of_made (groupEntities_made hid h) (by decide)
      | button | number | select | switch =>
          exact batch_unlessObserving
            (fun h => batch_of_made (groupEntities_made hid h) (by decide)) h
  | .devices platform, h => by
      cases platform with
      | binarySensor => exact batch_of_made (deviceEntities_made hid h) (by decide)
      | select =>
          cases h
          exact batch_nil
      | button | switch =>
          exact batch_unlessObserving (batch_ifListed (deviceEntities_made hid)) h
      | number => exact batch_unlessObserving (batch_ifListed (powerNumber_made hid)) h
      | sensor =>
          obtain ⟨status, hstatus, h⟩ := PyError.bind_eq_ok h
          obtain ⟨power, hpower, h⟩ := PyError.bind_eq_ok h
          obtain ⟨mode, hmode, h⟩ := PyError.bind_eq_ok h
          obtain ⟨schedule, hschedule, h⟩ := PyError.bind_eq_ok h
          cases h
          obtain ⟨hstatus, hstatusControls⟩ := deviceEntities_made hid hstatus
          obtain ⟨hpower, hpowerControls⟩ := ifListed_made (deviceEntities_made hid) hpower
          obtain ⟨hmode, hmodeControls⟩ := ifListed_made (deviceEntities_made hid) hmode
          obtain ⟨hschedule, hscheduleControls⟩ := ifListed_made (deviceEntities_made hid) hschedule
          have hsub : ((status ++ power ++ mode ++ schedule).map Entity.control).Sublist
              (["device_status"] ++ ["actual_power"] ++ ["actual_mode"] ++ ["schedule"]) := by
            rw [List.map_append, List.map_append, List.map_append, hstatusControls]
            exact (((List.Sublist.refl _).append hpowerControls).append hmodeControls).append
              hscheduleControls
          refine ⟨fun e he => ?_, hsub.nodup (by decide)⟩
          simp only [List.mem_append] at he
          rcases he with ((he | he) | he) | he
          · exact hstatus e he
          · exact hpower e he
          · exact hmode e he
          · exact hschedule e he

end Factories

/-! ## The loops -/

section Loops

variable {loop : Loop} {loops : Loop → LoopState}

/-- Every loop has handed over batches of different owners. -/
def Orderly (loops : Loop → LoopState) : Prop := ∀ loop, Once.Batched Batch (loops loop).seen

theorem discover_batched {state : LoopState} (h : Once.Batched Batch state.seen) :
    Once.Batched Batch (loop.discover conv runtime state).1.seen :=
  h.call fun _ _ _ _ hkey hmake => factory_batch hkey hmake

theorem run_orderly (h : Orderly loops) : Orderly (Integration.run conv runtime loop loops).1 := by
  intro other
  show Once.Batched Batch (Function.update loops loop _ other).seen
  by_cases hsame : other = loop
  · rw [hsame, Function.update_self]
    exact discover_batched (h loop)
  · rw [Function.update_of_ne hsame]
    exact h other

theorem notify_orderly : ∀ (order : List Loop) {loops : Loop → LoopState}, Orderly loops →
    Orderly (Integration.notify conv runtime order loops)
  | [], _, h => h
  | loop :: rest, loops, h => by
      have hrun : Orderly (Integration.run conv runtime loop loops).1 := run_orderly h
      unfold Integration.notify
      split
      · split
        · rename_i after hafter
          rw [hafter] at hrun
          exact notify_orderly rest hrun
        · rename_i after _ hafter
          rw [hafter] at hrun
          exact hrun
      · exact notify_orderly rest h

theorem setUpLoop_orderly (h : Orderly loops) :
    Orderly (Integration.setUpLoop conv runtime loop loops).1 := by
  refine run_orderly fun other => ?_
  by_cases hsame : other = loop
  · rw [hsame, Function.update_self]
    exact h loop
  · rw [Function.update_of_ne hsame]
    exact h other

theorem setUp_orderly (platform : Platform) {entry : Integration} (h : Orderly entry.loops) :
    Orderly (entry.setUp conv platform).loops := by
  unfold Integration.setUp
  split
  · exact h
  · dsimp only
    split
    · exact setUpLoop_orderly h
    · exact setUpLoop_orderly (setUpLoop_orderly h)

theorem receive_orderly (order : List Loop) {entry : Integration} (h : Orderly entry.loops) :
    Orderly (entry.receive conv order message).loops := by
  have hfold : ∀ (runtimes : List LiveRuntime) {loops : Loop → LoopState}, Orderly loops →
      Orderly (runtimes.foldl (fun loops runtime => Integration.notify conv runtime order loops)
        loops) := by
    intro runtimes
    induction runtimes with
    | nil => exact fun h => h
    | cons runtime runtimes ih => exact fun h => ih (notify_orderly order h)
  exact hfold _ h

/-- Batches of different owners have no entity twice. -/
theorem Orderly.nodup (h : Orderly loops) (loop : Loop) :
    ((loops loop).seen.added.map (fun e => (e.ownerId, e.control))).Nodup := by
  obtain ⟨batches, hadded, hnodup, _, hbatches⟩ := h loop
  rw [hadded, List.map_flatMap, List.nodup_flatMap]
  refine ⟨fun b hb => ?_, ?_⟩
  · refine List.Nodup.of_map Prod.snd ?_
    rw [List.map_map]
    exact (hbatches b hb).controls
  · refine (List.pairwise_map.mp hnodup).imp_of_mem fun {b b'} hb hb' hne => ?_
    intro pair hpair hpair'
    obtain ⟨e, he, rfl⟩ := List.mem_map.mp hpair
    obtain ⟨e', he', heq⟩ := List.mem_map.mp hpair'
    have howner := (hbatches b hb).owned e he
    have howner' := (hbatches b' hb').owned e' he'
    exact hne (howner.symm.trans ((congrArg Prod.fst heq).symm.trans howner'))

def Survives (topicPrefix : String) (entry : Integration) : Prop :=
  Sane topicPrefix entry.runtime ∧ Orderly entry.loops

theorem survives_step {entry : Integration} (event : Integration.Event)
    (h : Survives topicPrefix entry) : Survives topicPrefix (entry.step conv event) := by
  cases event with
  | received message order => exact ⟨(receive_sane h.1).1, receive_orderly order h.2⟩
  | setUp platform =>
      have hsame : (entry.setUp conv platform).runtime = entry.runtime := by
        unfold Integration.setUp
        split <;> rfl
      refine ⟨?_, setUp_orderly platform h.2⟩
      show Sane topicPrefix (entry.setUp conv platform).runtime
      rw [hsame]
      exact h.1

end Loops

/--
**Whatever is sent, the entry stays usable.**

Take any messages on any topics, platforms that are set up at any time, and listeners that are
called in any order and may raise. Every state and result that is kept is of version 1 and names
the identifier it is kept under, there are at most 128 results, a configuration that is kept has
its lists and a known mode, a further message touches nothing but what its topic is about (a new
result may cost the oldest one), and no platform hands over an entity of the same group or device
twice.
-/
theorem entry_survives (entryId : PyStr) (raw : String) (conv : Conversions)
    (events : List Integration.Event) :
    let entry := exec (Integration.step conv) (Integration.create entryId raw) events
    Sane (stripSlashes raw) entry.runtime
      ∧ (∀ message, Touches (stripSlashes raw) message.topic entry.runtime
        (entry.runtime.receive message))
      ∧ ∀ loop, ((entry.loops loop).seen.added.map (fun e => (e.ownerId, e.control))).Nodup := by
  intro entry
  have hinv : Survives (stripSlashes raw) entry :=
    invariant_exec (fun entry event h => survives_step event h)
      ⟨sane_create entryId raw, fun _ => Once.batched_nil⟩
  exact ⟨hinv.1, fun _ => (receive_sane hinv.1).2, hinv.2.nodup⟩

end JebaoFlow
