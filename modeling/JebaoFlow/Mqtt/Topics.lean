import JebaoFlow.Lib.Python
import JebaoFlow.Groups.Models
import JebaoFlow.Mqtt.Models

/-!
# Topics

`MqttTopics`: the topics the daemon publishes on, and the two parsers of command
topics. A topic is compared character by character, as a list.
-/

namespace JebaoFlow

/-- `text.strip("/")`. -/
def stripSlashes (text : String) : String :=
  String.ofList (((text.toList.dropWhile (· == '/')).reverse.dropWhile (· == '/')).reverse)

/-- `_segment`: one level of a topic. -/
def topicSegment (value : String) : Except PyError String :=
  if value = "" ∨ '/' ∈ value.toList ∨ '+' ∈ value.toList ∨ '#' ∈ value.toList then
    .error (.valueError s!"invalid MQTT topic segment '{value}'")
  else .ok value

structure MqttTopics where
  topicPrefix : String

namespace MqttTopics

/-- `MqttTopics(prefix)`. -/
def create (topicPrefix : String) : Except PyError MqttTopics :=
  let normalized := stripSlashes topicPrefix
  if normalized = "" ∨ '+' ∈ normalized.toList ∨ '#' ∈ normalized.toList then
    .error (.valueError "MQTT topic prefix must be non-empty and contain no wildcards")
  else .ok ⟨normalized⟩

variable (topics : MqttTopics)

def availability : String := s!"{topics.topicPrefix}/system/availability"

def systemConfig : String := s!"{topics.topicPrefix}/system/config"

def systemStatus : String := s!"{topics.topicPrefix}/system/status"

def groupCommand (groupId : String) : Except PyError String := do
  let segment ← topicSegment groupId
  pure s!"{topics.topicPrefix}/groups/{segment}/command"

def groupState (groupId : String) : Except PyError String := do
  let segment ← topicSegment groupId
  pure s!"{topics.topicPrefix}/groups/{segment}/state"

def deviceCommand (deviceId : String) : Except PyError String := do
  let segment ← topicSegment deviceId
  pure s!"{topics.topicPrefix}/devices/{segment}/command"

def deviceState (deviceId : String) : Except PyError String := do
  let segment ← topicSegment deviceId
  pure s!"{topics.topicPrefix}/devices/{segment}/state"

def requestResult (requestId : String) : Except PyError String := do
  let segment ← topicSegment requestId
  pure s!"{topics.topicPrefix}/requests/{segment}/result"

/-- The segment between `{prefix}/{kind}/` and `/command`, when there is exactly one. -/
def parseCommand (kind topic : String) : Option String :=
  let base := s!"{topics.topicPrefix}/{kind}/".toList
  let suffix := "/command".toList
  if base.isPrefixOf topic.toList ∧ suffix.isSuffixOf topic.toList then
    let segment := (topic.toList.drop base.length).take
      (topic.toList.length - suffix.length - base.length)
    if segment = [] ∨ '/' ∈ segment then none else some (String.ofList segment)
  else none

def parseGroupCommand (topic : String) : Option String := topics.parseCommand "groups" topic

def parseDeviceCommand (topic : String) : Option String := topics.parseCommand "devices" topic

end MqttTopics

/-! ## Segments -/

/-- A character test that refuses the separator and both wildcards keeps a text one segment. -/
theorem topicSegment_of_all {value : String} {allowed : Char → Bool} (hne : value ≠ "")
    (hall : ∀ c ∈ value.toList, allowed c = true) (hslash : allowed '/' = false)
    (hplus : allowed '+' = false) (hhash : allowed '#' = false) :
    topicSegment value = .ok value := by
  have hnot : ∀ c, allowed c = false → c ∉ value.toList := by
    intro c hc hmem
    exact Bool.noConfusion (hc.symm.trans (hall c hmem))
  unfold topicSegment
  rw [if_neg]
  rintro (h | h | h | h)
  · exact hne h
  · exact hnot _ hslash h
  · exact hnot _ hplus h
  · exact hnot _ hhash h

/-- A configured identifier is a segment. -/
theorem topicSegment_identifier {id : String} (h : isIdentifier id = true) :
    topicSegment id = .ok id := by
  unfold isIdentifier at h
  have hne : id ≠ "" := by
    rintro rfl
    exact Bool.noConfusion h
  refine topicSegment_of_all
    hne (?_ : ∀ c ∈ id.toList,
      (('a' ≤ c && c ≤ 'z') || ('0' ≤ c && c ≤ '9') || c == '_') = true)
    (by decide) (by decide) (by decide)
  intro c hc
  cases hlist : id.toList with
  | nil =>
      rw [hlist] at hc
      exact absurd hc List.not_mem_nil
  | cons first rest =>
      rw [hlist] at h hc
      dsimp only at h
      rw [Bool.and_eq_true, List.all_eq_true] at h
      rcases List.mem_cons.mp hc with rfl | hmem
      · rw [h.1]
        rfl
      · exact h.2 c hmem

/-- So is a validated request id. -/
theorem topicSegment_requestId {id : String} (h : isRequestId id = true) :
    topicSegment id = .ok id := by
  unfold isRequestId at h
  rw [Bool.and_eq_true, Bool.and_eq_true, List.all_eq_true] at h
  obtain ⟨⟨hlen, _⟩, hall⟩ := h
  have hne : id ≠ "" := by
    rintro rfl
    exact absurd hlen (by decide)
  exact topicSegment_of_all hne hall (by decide) (by decide) (by decide)

/-! ## Topics tell apart what is published -/

namespace MqttTopics

variable {topics : MqttTopics} {id id' topic : String}

theorem topicSegment_ok {value segment : String} (h : topicSegment value = .ok segment) :
    segment = value := by
  unfold topicSegment at h
  split at h
  · cases h
  · exact (Except.ok.inj h).symm

theorem deviceState_ok (h : topics.deviceState id = .ok topic) :
    topic = s!"{topics.topicPrefix}/devices/{id}/state" := by
  obtain ⟨segment, hsegment, h⟩ := PyError.bind_eq_ok h
  rw [← topicSegment_ok hsegment]
  exact (Except.ok.inj h).symm

theorem groupCommand_ok (h : topics.groupCommand id = .ok topic) :
    topic = s!"{topics.topicPrefix}/groups/{id}/command" := by
  obtain ⟨segment, hsegment, h⟩ := PyError.bind_eq_ok h
  rw [← topicSegment_ok hsegment]
  exact (Except.ok.inj h).symm

theorem deviceCommand_ok (h : topics.deviceCommand id = .ok topic) :
    topic = s!"{topics.topicPrefix}/devices/{id}/command" := by
  obtain ⟨segment, hsegment, h⟩ := PyError.bind_eq_ok h
  rw [← topicSegment_ok hsegment]
  exact (Except.ok.inj h).symm

theorem groupState_ok (h : topics.groupState id = .ok topic) :
    topic = s!"{topics.topicPrefix}/groups/{id}/state" := by
  obtain ⟨segment, hsegment, h⟩ := PyError.bind_eq_ok h
  rw [← topicSegment_ok hsegment]
  exact (Except.ok.inj h).symm

theorem requestResult_ok (h : topics.requestResult id = .ok topic) :
    topic = s!"{topics.topicPrefix}/requests/{id}/result" := by
  obtain ⟨segment, hsegment, h⟩ := PyError.bind_eq_ok h
  rw [← topicSegment_ok hsegment]
  exact (Except.ok.inj h).symm

/-- A state topic names its device. -/
theorem deviceState_injective (h : topics.deviceState id = .ok topic)
    (h' : topics.deviceState id' = .ok topic) : id = id' := by
  have heq := congrArg String.toList ((deviceState_ok h).symm.trans (deviceState_ok h'))
  exact String.toList_inj.mp (by simpa [toString] using heq)

theorem groupState_injective (h : topics.groupState id = .ok topic)
    (h' : topics.groupState id' = .ok topic) : id = id' := by
  have heq := congrArg String.toList ((groupState_ok h).symm.trans (groupState_ok h'))
  exact String.toList_inj.mp (by simpa [toString] using heq)

/-- No group and device share one. -/
theorem deviceState_ne_groupState (h : topics.deviceState id = .ok topic) :
    topics.groupState id' ≠ .ok topic := by
  intro h'
  have heq := congrArg String.toList ((deviceState_ok h).symm.trans (groupState_ok h'))
  simp [toString] at heq

/-- The system topics and the results are none of them. -/
theorem state_topic_ne (h : topics.deviceState id = .ok topic ∨ topics.groupState id = .ok topic) :
    topics.availability ≠ topic ∧ topics.systemConfig ≠ topic ∧ topics.systemStatus ≠ topic
      ∧ topics.requestResult id' ≠ .ok topic := by
  have htopic : topic = s!"{topics.topicPrefix}/devices/{id}/state"
      ∨ topic = s!"{topics.topicPrefix}/groups/{id}/state" :=
    h.imp deviceState_ok groupState_ok
  refine ⟨?_, ?_, ?_, ?_⟩
  · unfold availability
    rcases htopic with rfl | rfl <;> intro heq <;> simpa [toString] using congrArg String.toList heq
  · unfold systemConfig
    rcases htopic with rfl | rfl <;> intro heq <;> simpa [toString] using congrArg String.toList heq
  · unfold systemStatus
    rcases htopic with rfl | rfl <;> intro heq <;> simpa [toString] using congrArg String.toList heq
  · intro h'
    have heq := requestResult_ok h'
    rcases htopic with rfl | rfl <;> simpa [toString] using congrArg String.toList heq

end MqttTopics

end JebaoFlow
