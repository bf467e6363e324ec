import JebaoFlow.HomeAssistant.Receive
import JebaoFlow.Proof.TopicGrammar

/-!
# What is made of the daemon's messages

The filters of the integration are told apart by the levels below the prefix, so a topic of
the daemon reaches the one handler that is for its kind, or none. `absorb` is what the
handlers make of a payload the daemon publishes under the topic that belongs to it.
-/

namespace JebaoFlow

open HomeAssistant

variable {topics : MqttTopics} {stamps : Timestamps} {daemon : InstanceConfig} {cfg : AppConfig}
  {runtime : LiveRuntime} {id topic raw : String} {payload : WirePayload}

/-! ## Dispatch -/

/-- The prefix is not empty and has no wildcards. -/
theorem create_plain (h : MqttTopics.create raw = .ok topics) :
    topics.topicPrefix.toList ≠ [] ∧ TopicFilter.startsWild topics.topicPrefix.toList = false := by
  unfold MqttTopics.create at h
  dsimp only at h
  split at h
  · cases h
  · rename_i hgood
    cases h
    obtain ⟨hne, hgood⟩ := not_or.mp hgood
    obtain ⟨hplus, hhash⟩ := not_or.mp hgood
    refine ⟨fun hnil => hne (String.toList_inj.mp hnil), ?_⟩
    have hhead : ∀ c, c ∉ (stripSlashes raw).toList →
        (stripSlashes raw).toList.head? ≠ some c :=
      fun c hc hfirst => hc (List.mem_of_mem_head? hfirst)
    unfold TopicFilter.startsWild
    rw [decide_eq_false (hhead '+' hplus), decide_eq_false (hhead '#' hhash)]
    rfl

/-- The filters below the prefix, as levels, in the order of the handlers. -/
def filterLevels : List (List (List Char)) :=
  [["system".toList, "availability".toList], ["system".toList, "config".toList],
    ["groups".toList, ['+'], "state".toList], ["devices".toList, ['+'], "state".toList],
    ["requests".toList, ['+'], "result".toList]]

/-- The handlers of the filters that stand for the levels of a topic. -/
def called (levels : List (List Char)) : List LiveRuntime.Handler :=
  (filterLevels.zip LiveRuntime.handlers).filterMap (fun entry =>
    if TopicFilter.matchesLevels entry.1 levels then some entry.2 else none)

/-- Below the prefix, the levels decide which handlers run. -/
theorem heard_below (hcreate : MqttTopics.create raw = .ok topics)
    (hbase : runtime.topicPrefix = topics.topicPrefix) {rest : List Char}
    (htopic : topic.toList = topics.topicPrefix.toList ++ '/' :: rest) :
    runtime.heard topic = called (rest.splitOn '/') := by
  obtain ⟨hne, hplain⟩ := create_plain hcreate
  have hcovers : ∀ (filter : String) (below : List Char) (levels : List (List Char)),
      filter.toList = topics.topicPrefix.toList ++ '/' :: below → below.splitOn '/' = levels →
      TopicFilter.covers filter.toList topic.toList
        = TopicFilter.matchesLevels levels (rest.splitOn '/') := by
    rintro filter below levels hfilter rfl
    rw [hfilter, htopic]
    exact TopicFilter.covers_below hne hplain
  unfold LiveRuntime.heard called JebaoFlowRuntime.subscriptions filterLevels LiveRuntime.handlers
  dsimp only
  rw [hbase]
  simp only [List.zip_cons_cons, List.zip_nil_right, List.filterMap_cons, List.filterMap_nil]
  rw [hcovers s!"{topics.topicPrefix}/system/availability" "system/availability".toList _
      (by simp [toString]) rfl,
    hcovers s!"{topics.topicPrefix}/system/config" "system/config".toList _
      (by simp [toString]) rfl,
    hcovers s!"{topics.topicPrefix}/groups/+/state" "groups/+/state".toList _
      (by simp [toString]) rfl,
    hcovers s!"{topics.topicPrefix}/devices/+/state" "devices/+/state".toList _
      (by simp [toString]) rfl,
    hcovers s!"{topics.topicPrefix}/requests/+/result" "requests/+/result".toList _
      (by simp [toString]) rfl]
  rfl

/-- The levels of a topic with an identifier. -/
theorem split_levels {collection suffix level : List Char} (hcollection : '/' ∉ collection)
    (hlevel : '/' ∉ level) (hsuffix : '/' ∉ suffix) :
    (collection ++ '/' :: (level ++ '/' :: suffix)).splitOn '/' = [collection, level, suffix] := by
  rw [List.splitOn_append_cons_self_of_not_mem hcollection,
    List.splitOn_append_cons_self_of_not_mem hlevel, List.splitOn_eq_singleton hsuffix]

/-- The handler that is for a kind of topic. -/
def TopicKind.handler : TopicKind → Option LiveRuntime.Handler
  | .availability => some LiveRuntime.receiveAvailability
  | .systemConfig => some LiveRuntime.receiveSystemConfig
  | .groupState => some LiveRuntime.receiveGroupState
  | .deviceState => some LiveRuntime.receiveDeviceState
  | .requestResult => some LiveRuntime.receiveResult
  | .systemStatus | .groupCommand | .deviceCommand => none

/-- The levels of a kind of topic below the prefix. -/
def TopicKind.below (id : String) : TopicKind → List (List Char)
  | .availability => ["system".toList, "availability".toList]
  | .systemConfig => ["system".toList, "config".toList]
  | .systemStatus => ["system".toList, "status".toList]
  | .groupCommand => ["groups".toList, id.toList, "command".toList]
  | .groupState => ["groups".toList, id.toList, "state".toList]
  | .deviceCommand => ["devices".toList, id.toList, "command".toList]
  | .deviceState => ["devices".toList, id.toList, "state".toList]
  | .requestResult => ["requests".toList, id.toList, "result".toList]

/-- The identifier of a topic is one of its levels. -/
theorem build_segment {kind : TopicKind} {collection suffix : String}
    (hlevels : kind.levels = some (collection, suffix)) (htopic : kind.build topics id = .ok topic) :
    topicSegment id = .ok id := by
  have hbind : ∃ rest : String → Except PyError String,
      (topicSegment id >>= rest) = .ok topic := by
    cases kind with
    | availability | systemConfig | systemStatus => cases hlevels
    | groupCommand | groupState | deviceCommand | deviceState | requestResult =>
        exact ⟨_, htopic⟩
  obtain ⟨rest, hrest⟩ := hbind
  obtain ⟨segment, hsegment, _⟩ := PyError.bind_eq_ok hrest
  rw [MqttTopics.topicSegment_ok hsegment] at hsegment
  exact hsegment

/-- A topic of the daemon is the prefix and the levels of its kind. -/
theorem TopicKind.build_below {kind : TopicKind} (htopic : kind.build topics id = .ok topic) :
    ∃ rest, topic.toList = topics.topicPrefix.toList ++ '/' :: rest
      ∧ rest.splitOn '/' = kind.below id := by
  have hlevel : ∀ {collection suffix : String}, kind.levels = some (collection, suffix) →
      '/' ∉ id.toList := fun hlevels => (topicSegment_level (build_segment hlevels htopic)).2
  cases kind with
  | availability =>
      cases htopic
      exact ⟨"system/availability".toList, by simp [MqttTopics.availability, toString], rfl⟩
  | systemConfig =>
      cases htopic
      exact ⟨"system/config".toList, by simp [MqttTopics.systemConfig, toString], rfl⟩
  | systemStatus =>
      cases htopic
      exact ⟨"system/status".toList, by simp [MqttTopics.systemStatus, toString], rfl⟩
  | groupCommand =>
      refine ⟨_, ?_, split_levels (by decide) (hlevel rfl) (by decide)⟩
      rw [MqttTopics.groupCommand_ok htopic]
      simp [toString]
  | groupState =>
      refine ⟨_, ?_, split_levels (by decide) (hlevel rfl) (by decide)⟩
      rw [MqttTopics.groupState_ok htopic]
      simp [toString]
  | deviceCommand =>
      refine ⟨_, ?_, split_levels (by decide) (hlevel rfl) (by decide)⟩
      rw [MqttTopics.deviceCommand_ok htopic]
      simp [toString]
  | deviceState =>
      refine ⟨_, ?_, split_levels (by decide) (hlevel rfl) (by decide)⟩
      rw [MqttTopics.deviceState_ok htopic]
      simp [toString]
  | requestResult =>
      refine ⟨_, ?_, split_levels (by decide) (hlevel rfl) (by decide)⟩
      rw [MqttTopics.requestResult_ok htopic]
      simp [toString]

/-- **A topic of the daemon reaches the handler for its kind and no other.** -/
theorem heard_kind (hcreate : MqttTopics.create raw = .ok topics)
    (hbase : runtime.topicPrefix = topics.topicPrefix) (kind : TopicKind)
    (htopic : kind.build topics id = .ok topic) :
    runtime.heard topic = kind.handler.toList := by
  obtain ⟨rest, hrest, hsplit⟩ := TopicKind.build_below htopic
  rw [heard_below hcreate hbase hrest, hsplit]
  cases kind <;> rfl

/-! ## Payloads under their topics -/

/-- A payload of the daemon under the topic that belongs to it; states and system are retained. -/
inductive Genuine (topics : MqttTopics) : Transmission → Prop
  | availability {text : String} (htext : text = "online" ∨ text = "offline") : Genuine topics {
      topic := topics.availability, payload := .availability text, retain := true }
  | systemConfig : Genuine topics {
      topic := topics.systemConfig, payload := .systemConfig, retain := true }
  | complaint {body : PublicationBody} (hbody : body.IsComplaint) : Genuine topics {
      topic := topics.systemStatus, payload := .message body }
  | groupResult {result : GroupCommandResult} {topic : String}
      (htopic : topics.requestResult result.requestId = .ok topic) : Genuine topics {
      topic, payload := .message (.groupResult result) }
  | deviceResult {result : DeviceCommandResult} {topic : String}
      (htopic : topics.requestResult result.requestId = .ok topic) : Genuine topics {
      topic, payload := .message (.deviceResult result) }
  | groupState {state : GroupStatePayload} {topic : String}
      (htopic : topics.groupState state.groupId = .ok topic) :
      Genuine topics (retained topic (.groupState state))
  | deviceState {state : DeviceStatePayload} {topic : String}
      (htopic : topics.deviceState state.deviceId = .ok topic) :
      Genuine topics (retained topic (.deviceState state))

/-- The kind of topic a payload is for. -/
def Payload.kind : Payload → TopicKind
  | .availability _ => .availability
  | .systemConfig => .systemConfig
  | .message (.groupState _) => .groupState
  | .message (.deviceState _) => .deviceState
  | .message (.groupResult _) | .message (.deviceResult _) => .requestResult
  | .message (.invalidCommand _) | .message (.invalidDeviceCommand _) => .systemStatus

/-- What a payload is about; nothing, under the topics of the system. -/
def Payload.subject : Payload → String
  | .message (.groupState state) => state.groupId
  | .message (.deviceState state) => state.deviceId
  | .message (.groupResult result) => result.requestId
  | .message (.deviceResult result) => result.requestId
  | _ => ""

theorem Genuine.build_topic {t : Transmission} (h : Genuine topics t) :
    t.payload.kind.build topics t.payload.subject = .ok t.topic := by
  cases h with
  | availability => rfl
  | systemConfig => rfl
  | @complaint body hbody =>
      cases body with
      | invalidCommand | invalidDeviceCommand => rfl
      | groupResult | deviceResult | groupState | deviceState => cases hbody
  | groupResult htopic => exact htopic
  | deviceResult htopic => exact htopic
  | groupState htopic => exact htopic
  | deviceState htopic => exact htopic

/-- The items of an object. -/
def Object.of : Json → Object
  | .dict items => items
  | _ => []

/-- What the runtime makes of a genuine payload. -/
def absorb (stamps : Timestamps) (daemon : InstanceConfig) (cfg : AppConfig)
    (runtime : LiveRuntime) : Payload → LiveRuntime
  | .availability text => { runtime with online := text = "online" }
  | .systemConfig => { runtime with systemConfig := Object.of (systemConfig daemon cfg).json }
  | .message (.groupResult result) => { runtime with
      lastResults := LiveRuntime.storeResult result.requestId (Object.of result.json)
        runtime.lastResults }
  | .message (.deviceResult result) => { runtime with
      lastResults := LiveRuntime.storeResult result.requestId (Object.of result.json)
        runtime.lastResults }
  | .message (.groupState state) => { runtime with
      groupStates := runtime.groupStates.set state.groupId (Object.of (state.json stamps)) }
  | .message (.deviceState state) => { runtime with
      deviceStates := runtime.deviceStates.set state.deviceId (Object.of (state.json stamps)) }
  | .message (.invalidCommand _) | .message (.invalidDeviceCommand _) => runtime

/-- A field of a message, by the name in its model class. -/
theorem lookup_object (key : String) : ∀ fields : List (String × Json),
    Dict.lookupEntries (PyStr.ofString key) (fields.map (fun f => (PyStr.ofString f.1, f.2)))
      = Dict.lookupEntries key fields
  | [] => rfl
  | f :: fields => by
      rw [List.map_cons, Dict.lookupEntries, Dict.lookupEntries]
      by_cases h : f.1 = key
      · rw [if_pos h, if_pos (congrArg PyStr.ofString h)]
      · rw [if_neg h, if_neg (fun heq => h (ofString_injective heq)), lookup_object key fields]

theorem field_object (fields : List (String × Json)) (key : String) :
    field (fields.map (fun f => (PyStr.ofString f.1, f.2))) key
      = (Dict.lookupEntries key fields).getD .null := by
  unfold field
  rw [lookup_object]

/-- An object of the first version that names an identifier is found under it. -/
theorem identified_object {fields : List (String × Json)} {key : String}
    (hversion : Dict.lookupEntries "schema_version" fields = some (.int 1))
    (hkey : Dict.lookupEntries key fields = some (.text id)) :
    LiveRuntime.identified key (some id) (.json (.object fields))
      = some (id, Object.of (.object fields)) := by
  unfold LiveRuntime.identified Json.object decodeObject
  dsimp only
  rw [field_object, field_object, hkey, hversion]
  exact if_pos ⟨rfl, rfl⟩

theorem segment_of_topic {kind : TopicKind} {collection suffix : String}
    (hlevels : kind.levels = some (collection, suffix))
    (hbase : runtime.topicPrefix = topics.topicPrefix) (hid : topicSegment id = .ok id)
    (htopic : kind.build topics id = .ok topic) :
    runtime.segment topic collection suffix = some id := by
  unfold LiveRuntime.segment
  rw [parseSegment_eq]
  dsimp only
  rw [hbase, levelOf_build kind hlevels hid htopic, if_pos rfl]

/-- The configuration passes every check of its handler. -/
theorem receiveSystemConfig_genuine (hpayload : payload = .json (systemConfig daemon cfg).json) :
    LiveRuntime.receiveSystemConfig { topic, payload } runtime
      = .ok (some { runtime with systemConfig := Object.of (systemConfig daemon cfg).json }) := by
  subst hpayload
  have hmode : LiveRuntime.isRuntimeMode (.text (systemConfig daemon cfg).runtimeMode.text)
      = .ok true := by
    cases (systemConfig daemon cfg).runtimeMode <;> decide
  unfold LiveRuntime.receiveSystemConfig SystemConfigPayload.json Json.object decodeObject
  dsimp only
  rw [field_object, field_object, field_object, field_object, lookup_object]
  exact PyError.bind_of_ok hmode

/-- The handler of a kind of state or result takes a genuine payload. -/
theorem handler_identified (hbase : runtime.topicPrefix = topics.topicPrefix) (kind : TopicKind)
    (handler : LiveRuntime.Handler) {collection suffix key : String} {fields : List (String × Json)}
    {store : String × Object → LiveRuntime} (hlevels : kind.levels = some (collection, suffix))
    (hstore : handler { topic, payload := .json (.object fields) } runtime
      = .ok ((LiveRuntime.identified key (runtime.segment topic collection suffix)
          (.json (.object fields))).map store))
    (hversion : Dict.lookupEntries "schema_version" fields = some (.int 1))
    (hkey : Dict.lookupEntries key fields = some (.text id))
    (htopic : kind.build topics id = .ok topic) :
    handler { topic, payload := .json (.object fields) } runtime
      = .ok (some (store (id, Object.of (.object fields)))) := by
  rw [hstore, segment_of_topic hlevels hbase (build_segment hlevels htopic) htopic,
    identified_object hversion hkey]
  rfl

/-- **Every genuine payload is taken by its handler, and only its own part of the runtime changes.** -/
theorem handler_genuine (hbase : runtime.topicPrefix = topics.topicPrefix) {t : Transmission}
    (h : Genuine topics t) {handler : LiveRuntime.Handler}
    (hhandler : t.payload.kind.handler = some handler) :
    handler { topic := t.topic, payload := t.payload.wire stamps daemon cfg } runtime
      = .ok (some (absorb stamps daemon cfg runtime t.payload)) := by
  cases h with
  | availability htext =>
      cases hhandler
      rcases htext with rfl | rfl <;> rfl
  | systemConfig =>
      cases hhandler
      exact receiveSystemConfig_genuine rfl
  | @complaint body hbody =>
      cases body with
      | invalidCommand | invalidDeviceCommand => cases hhandler
      | groupResult | deviceResult | groupState | deviceState => cases hbody
  | groupResult htopic =>
      cases hhandler
      exact handler_identified hbase .requestResult LiveRuntime.receiveResult rfl rfl rfl rfl htopic
  | deviceResult htopic =>
      cases hhandler
      exact handler_identified hbase .requestResult LiveRuntime.receiveResult rfl rfl rfl rfl htopic
  | groupState htopic =>
      cases hhandler
      exact handler_identified hbase .groupState LiveRuntime.receiveGroupState rfl rfl rfl rfl htopic
  | deviceState htopic =>
      cases hhandler
      exact handler_identified hbase .deviceState LiveRuntime.receiveDeviceState rfl rfl rfl rfl htopic

/-- What no handler is for changes nothing. -/
theorem absorb_unheard {t : Transmission} (hnone : t.payload.kind.handler = none) :
    absorb stamps daemon cfg runtime t.payload = runtime := by
  obtain ⟨_, payload, _⟩ := t
  cases payload with
  | availability | systemConfig => cases hnone
  | message body =>
      cases body with
      | invalidCommand | invalidDeviceCommand => rfl
      | groupResult | deviceResult | groupState | deviceState => cases hnone

theorem receive_genuine (hcreate : MqttTopics.create raw = .ok topics)
    (hbase : runtime.topicPrefix = topics.topicPrefix) {t : Transmission}
    (h : Genuine topics t) :
    runtime.receive { topic := t.topic, payload := t.payload.wire stamps daemon cfg }
      = absorb stamps daemon cfg runtime t.payload := by
  unfold LiveRuntime.receive
  rw [heard_kind hcreate hbase _ h.build_topic]
  cases hhandler : t.payload.kind.handler with
  | none => exact (absorb_unheard hhandler).symm
  | some handler => exact LiveRuntime.attempt_of_stored (handler_genuine hbase h hhandler)

/-- The listeners hear of a genuine payload once, or never of a complaint. -/
theorem notified_genuine (hcreate : MqttTopics.create raw = .ok topics)
    (hbase : runtime.topicPrefix = topics.topicPrefix) {t : Transmission}
    (h : Genuine topics t) :
    runtime.notified { topic := t.topic, payload := t.payload.wire stamps daemon cfg }
      = if t.payload.kind.handler.isSome then [absorb stamps daemon cfg runtime t.payload] else [] := by
  unfold LiveRuntime.notified
  rw [heard_kind hcreate hbase _ h.build_topic]
  cases hhandler : t.payload.kind.handler with
  | none => rfl
  | some handler =>
      show LiveRuntime.visits _ [handler] runtime = _
      unfold LiveRuntime.visits
      rw [handler_genuine hbase h hhandler]
      rfl

end JebaoFlow
