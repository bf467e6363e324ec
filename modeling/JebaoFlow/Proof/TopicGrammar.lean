import JebaoFlow.HomeAssistant.Runtime
import JebaoFlow.Lib.Affix

/-!
# The topics mean the same on both sides

A topic of the daemon is its prefix and three levels, or two for the system. The parsers of
either side cut a topic at its affixes, and what they cut out is the third level of exactly
the topics they are for. The prefix can be anything, since it is the same on both sides.
-/

namespace JebaoFlow

open HomeAssistant

variable {topicPrefix collection suffix topic id : String} {topics : MqttTopics}
  {runtime : JebaoFlowRuntime}

/-! ## Three levels below a prefix -/

/-- One level of a topic. -/
def IsLevel (text : String) : Prop := text ≠ "" ∧ '/' ∉ text.toList

theorem topicSegment_ok_iff : topicSegment id = .ok id
    ↔ IsLevel id ∧ '+' ∉ id.toList ∧ '#' ∉ id.toList := by
  unfold topicSegment IsLevel
  split
  · rename_i hbad
    exact iff_of_false nofun (by tauto)
  · rename_i hgood
    exact iff_of_true rfl (by tauto)

theorem topicSegment_level (h : topicSegment id = .ok id) : IsLevel id :=
  (topicSegment_ok_iff.mp h).1

/-- A topic of three levels. -/
def levelTopic (topicPrefix collection id suffix : String) : String :=
  s!"{topicPrefix}/{collection}/{id}/{suffix}"

/-- What the parsers cut out of a topic. -/
def levelOf (topicPrefix collection suffix topic : String) : Option String :=
  (Affix.between '/' s!"{topicPrefix}/{collection}/".toList s!"/{suffix}".toList topic.toList).map
    String.ofList

theorem toList_base : s!"{topicPrefix}/{collection}/".toList
    = topicPrefix.toList ++ '/' :: (collection.toList ++ ['/']) := by
  simp [toString]

theorem toList_ending : s!"/{suffix}".toList = '/' :: suffix.toList := by
  simp [toString]

theorem toList_topic : (levelTopic topicPrefix collection id suffix).toList
    = topicPrefix.toList
      ++ '/' :: (collection.toList ++ '/' :: (id.toList ++ '/' :: suffix.toList)) := by
  simp [levelTopic, toString]

/-- The affixes and what is between them make the topic. -/
theorem toList_affixes : (levelTopic topicPrefix collection id suffix).toList
    = s!"{topicPrefix}/{collection}/".toList ++ id.toList ++ s!"/{suffix}".toList := by
  rw [toList_topic, toList_base, toList_ending]
  simp

theorem levelTopic_literal {text : String} (h : text.toList = topicPrefix.toList
      ++ '/' :: (collection.toList ++ '/' :: (id.toList ++ '/' :: suffix.toList))) :
    text = levelTopic topicPrefix collection id suffix :=
  String.toList_inj.mp (h.trans toList_topic.symm)

/-- **What is cut out is the level between the affixes, and only of a topic that has one.** -/
theorem levelOf_eq_some_iff : levelOf topicPrefix collection suffix topic = some id
    ↔ topic = levelTopic topicPrefix collection id suffix ∧ IsLevel id := by
  unfold levelOf
  rw [Option.map_eq_some_iff]
  constructor
  · rintro ⟨level, hlevel, rfl⟩
    obtain ⟨htext, hne, hslash⟩ := Affix.between_eq_some_iff.mp hlevel
    refine ⟨String.toList_inj.mp ?_, fun hempty => hne ?_, ?_⟩
    · rw [toList_affixes, String.toList_ofList, htext]
    · exact (String.toList_ofList (l := level)).symm.trans (congrArg String.toList hempty)
    · rwa [String.toList_ofList]
  · rintro ⟨rfl, hne, hslash⟩
    refine ⟨id.toList, ?_, String.ofList_toList⟩
    rw [toList_affixes]
    exact Affix.between_append (fun hnil => hne (String.toList_inj.mp hnil)) hslash

/-- Of a topic of another shape nothing is cut out. -/
theorem levelOf_eq_none {collection' suffix' : String} (hcollection : '/' ∉ collection.toList)
    (hcollection' : '/' ∉ collection'.toList) (hid : '/' ∉ id.toList)
    (hother : collection ≠ collection' ∨ suffix ≠ suffix') :
    levelOf topicPrefix collection suffix (levelTopic topicPrefix collection' id suffix') = none := by
  unfold levelOf
  rw [Option.map_eq_none_iff]
  refine Affix.between_eq_none (fun level hlevel heq => ?_)
  rw [toList_topic, toList_base, toList_ending] at heq
  simp only [List.append_assoc, List.cons_append, List.nil_append, List.append_cancel_left_eq,
    List.cons.injEq, true_and] at heq
  obtain ⟨hsame, hrest⟩ := Affix.level_inj hcollection' hcollection heq
  obtain ⟨_, hsame'⟩ := Affix.level_inj hid hlevel hrest
  rcases hother with hother | hother
  · exact hother (String.toList_inj.mp hsame).symm
  · exact hother (String.toList_inj.mp hsame').symm

/-- Nor of one with two levels only, when the first is another. -/
theorem levelOf_system {name : String} (hcollection : '/' ∉ collection.toList)
    (hother : collection ≠ "system") :
    levelOf topicPrefix collection suffix s!"{topicPrefix}/system/{name}" = none := by
  unfold levelOf
  rw [Option.map_eq_none_iff]
  refine Affix.between_eq_none (fun level _ heq => ?_)
  have hsystem : s!"{topicPrefix}/system/{name}".toList
      = topicPrefix.toList ++ '/' :: ("system".toList ++ '/' :: name.toList) := by
    simp [toString]
  rw [hsystem, toList_base, toList_ending] at heq
  simp only [List.append_assoc, List.cons_append, List.nil_append, List.append_cancel_left_eq,
    List.cons.injEq, true_and] at heq
  obtain ⟨hsame, _⟩ := Affix.level_inj (by decide) hcollection heq
  exact hother (String.toList_inj.mp hsame).symm

/-! ## The two sides -/

/-- The two parsers are written out, and are the one between affixes. -/
theorem parseSegment_eq : runtime.parseSegment topic collection suffix
    = levelOf runtime.topicPrefix collection suffix topic := by
  unfold JebaoFlowRuntime.parseSegment levelOf Affix.between
  dsimp only
  split
  · split
    · rfl
    · rfl
  · rfl

theorem ending_command (h : suffix = "command") : s!"/{suffix}" = "/command" := by
  subst h
  decide

theorem parseCommand_eq : topics.parseCommand collection topic
    = levelOf topics.topicPrefix collection "command" topic := by
  unfold MqttTopics.parseCommand levelOf Affix.between
  rw [ending_command rfl]
  dsimp only
  split
  · split
    · rfl
    · rfl
  · rfl

/-- The kinds of topics the daemon builds. -/
inductive TopicKind
  | availability | systemConfig | systemStatus
  | groupCommand | groupState | deviceCommand | deviceState | requestResult
  deriving DecidableEq

/-- The topic of a kind; those of the system have no identifier. -/
def TopicKind.build (topics : MqttTopics) (id : String) : TopicKind → Except PyError String
  | .availability => .ok topics.availability
  | .systemConfig => .ok topics.systemConfig
  | .systemStatus => .ok topics.systemStatus
  | .groupCommand => topics.groupCommand id
  | .groupState => topics.groupState id
  | .deviceCommand => topics.deviceCommand id
  | .deviceState => topics.deviceState id
  | .requestResult => topics.requestResult id

/-- The levels around the identifier, of the kinds that have one. -/
def TopicKind.levels : TopicKind → Option (String × String)
  | .availability | .systemConfig | .systemStatus => none
  | .groupCommand => some ("groups", "command")
  | .groupState => some ("groups", "state")
  | .deviceCommand => some ("devices", "command")
  | .deviceState => some ("devices", "state")
  | .requestResult => some ("requests", "result")

theorem TopicKind.levels_injective {kind kind' : TopicKind} {levels : String × String}
    (h : kind.levels = some levels) (h' : kind'.levels = some levels) : kind = kind' := by
  have heq := h.trans h'.symm
  cases kind <;> cases kind' <;> first | rfl | exact absurd heq (by decide) | cases h

theorem TopicKind.levels_plain {kind : TopicKind} (h : kind.levels = some (collection, suffix)) :
    '/' ∉ collection.toList ∧ collection ≠ "system" := by
  cases kind <;> cases h <;> decide

/-- The topic of a kind is what its levels say. -/
theorem TopicKind.build_levels {kind : TopicKind} (htopic : kind.build topics id = .ok topic) :
    (∃ collection suffix, kind.levels = some (collection, suffix)
        ∧ topic = levelTopic topics.topicPrefix collection id suffix)
      ∨ kind.levels = none ∧ ∃ name : String, topic = s!"{topics.topicPrefix}/system/{name}" := by
  cases kind with
  | availability =>
      refine Or.inr ⟨rfl, "availability", (Except.ok.inj htopic).symm.trans ?_⟩
      exact String.toList_inj.mp (by simp [MqttTopics.availability, toString])
  | systemConfig =>
      refine Or.inr ⟨rfl, "config", (Except.ok.inj htopic).symm.trans ?_⟩
      exact String.toList_inj.mp (by simp [MqttTopics.systemConfig, toString])
  | systemStatus =>
      refine Or.inr ⟨rfl, "status", (Except.ok.inj htopic).symm.trans ?_⟩
      exact String.toList_inj.mp (by simp [MqttTopics.systemStatus, toString])
  | groupCommand =>
      exact Or.inl ⟨_, _, rfl,
        (MqttTopics.groupCommand_ok htopic).trans (levelTopic_literal (by simp [toString]))⟩
  | groupState =>
      exact Or.inl ⟨_, _, rfl,
        (MqttTopics.groupState_ok htopic).trans (levelTopic_literal (by simp [toString]))⟩
  | deviceCommand =>
      exact Or.inl ⟨_, _, rfl,
        (MqttTopics.deviceCommand_ok htopic).trans (levelTopic_literal (by simp [toString]))⟩
  | deviceState =>
      exact Or.inl ⟨_, _, rfl,
        (MqttTopics.deviceState_ok htopic).trans (levelTopic_literal (by simp [toString]))⟩
  | requestResult =>
      exact Or.inl ⟨_, _, rfl,
        (MqttTopics.requestResult_ok htopic).trans (levelTopic_literal (by simp [toString]))⟩

/-- **A parser recovers the identifier from the topics of its own kind and from no others.** -/
theorem levelOf_build {kind : TopicKind} (wanted : TopicKind)
    (hlevels : wanted.levels = some (collection, suffix))
    (hid : topicSegment id = .ok id) (htopic : kind.build topics id = .ok topic) :
    levelOf topics.topicPrefix collection suffix topic = if kind = wanted then some id else none := by
  have hlevel := topicSegment_level hid
  obtain ⟨hslash, hsystem⟩ := TopicKind.levels_plain hlevels
  rcases TopicKind.build_levels htopic with ⟨collection', suffix', hlevels', rfl⟩ | ⟨hnone, name, rfl⟩
  · by_cases hsame : kind = wanted
    · subst hsame
      obtain ⟨rfl, rfl⟩ := Prod.mk.inj (Option.some.inj (hlevels.symm.trans hlevels'))
      rw [if_pos rfl]
      exact levelOf_eq_some_iff.mpr ⟨rfl, hlevel⟩
    · rw [if_neg hsame]
      refine levelOf_eq_none hslash (TopicKind.levels_plain hlevels').1 hlevel.2 ?_
      by_contra hboth
      obtain ⟨hcollection, hsuffix⟩ := not_or.mp hboth
      rw [← not_not.mp hcollection, ← not_not.mp hsuffix] at hlevels'
      exact hsame (TopicKind.levels_injective hlevels' hlevels)
  · rw [if_neg, levelOf_system hslash hsystem]
    rintro rfl
    rw [hnone] at hlevels
    cases hlevels

/-! ## Agreement -/

theorem create_ok {raw : String} (h : MqttTopics.create raw = .ok topics) :
    topics.topicPrefix = stripSlashes raw := by
  unfold MqttTopics.create at h
  dsimp only at h
  split at h
  · cases h
  · cases h
    rfl

/-- A runtime of the prefix, whatever it has received since. -/
def StartedFrom (raw : String) (runtime : JebaoFlowRuntime) : Prop :=
  runtime.topicPrefix = (JebaoFlowRuntime.create raw).topicPrefix

theorem asyncCommand_topic {requestId : PyStr} {changes : List (PyStr × Json)}
    {published : PublishedCommand}
    (h : runtime.asyncCommand collection requestId id changes = .ok published) :
    published.topic = levelTopic runtime.topicPrefix collection id "command" := by
  unfold JebaoFlowRuntime.asyncCommand at h
  split at h
  · cases h
  split at h
  · cases h
  · cases h
    exact levelTopic_literal (by simp [toString])

/--
**The topics mean the same on both sides.**

The daemon's parsers accept exactly the command topics, each of one kind; the integration
recovers a valid identifier from the daemon's topics, from none of another kind; and its
commands reach the daemon under the identifier they were made for.
-/
theorem topic_grammar_agrees {raw raw' : String} (hcreate : MqttTopics.create raw = .ok topics)
    (hstarted : StartedFrom raw' runtime) (hsame : stripSlashes raw' = stripSlashes raw) :
    (∀ topic id, topics.parseGroupCommand topic = some id
        ↔ topic = s!"{topics.topicPrefix}/groups/{id}/command" ∧ id ≠ "" ∧ '/' ∉ id.toList)
      ∧ (∀ topic id, topics.parseDeviceCommand topic = some id
        ↔ topic = s!"{topics.topicPrefix}/devices/{id}/command" ∧ id ≠ "" ∧ '/' ∉ id.toList)
      ∧ (∀ topic, topics.parseGroupCommand topic = none ∨ topics.parseDeviceCommand topic = none)
      ∧ (∀ id, topicSegment id = .ok id → ∀ (kind : TopicKind) (topic : String),
        kind.build topics id = .ok topic →
          runtime.stateGroup topic = (if kind = .groupState then some id else none)
            ∧ runtime.stateDevice topic = (if kind = .deviceState then some id else none)
            ∧ runtime.resultRequest topic = (if kind = .requestResult then some id else none))
      ∧ ∀ id, topicSegment id = .ok id → ∀ requestId changes published,
        (runtime.asyncGroupCommand requestId id changes = .ok published →
          topics.parseGroupCommand published.topic = some id)
        ∧ (runtime.asyncDeviceCommand requestId id changes = .ok published →
          topics.parseDeviceCommand published.topic = some id) := by
  have hbase : runtime.topicPrefix = topics.topicPrefix :=
    hstarted.trans (hsame.trans (create_ok hcreate).symm)
  have hliteral : ∀ id, s!"{topics.topicPrefix}/groups/{id}/command"
      = levelTopic topics.topicPrefix "groups" id "command" :=
    fun id => levelTopic_literal (by simp [toString])
  have hliteral' : ∀ id, s!"{topics.topicPrefix}/devices/{id}/command"
      = levelTopic topics.topicPrefix "devices" id "command" :=
    fun id => levelTopic_literal (by simp [toString])
  have hgroups : ∀ {topic id}, topics.parseGroupCommand topic = some id
      ↔ topic = levelTopic topics.topicPrefix "groups" id "command" ∧ IsLevel id := by
    intro topic id
    unfold MqttTopics.parseGroupCommand
    rw [parseCommand_eq, levelOf_eq_some_iff]
  have hdevices : ∀ {topic id}, topics.parseDeviceCommand topic = some id
      ↔ topic = levelTopic topics.topicPrefix "devices" id "command" ∧ IsLevel id := by
    intro topic id
    unfold MqttTopics.parseDeviceCommand
    rw [parseCommand_eq, levelOf_eq_some_iff]
  refine ⟨fun topic id => ?_, fun topic id => ?_, fun topic => ?_, fun id hid kind topic htopic => ?_,
    fun id hid requestId changes published => ⟨fun hpublished => ?_, fun hpublished => ?_⟩⟩
  · rw [hgroups, hliteral]
    rfl
  · rw [hdevices, hliteral']
    rfl
  · cases hparsed : topics.parseGroupCommand topic with
    | none => exact Or.inl rfl
    | some id =>
        obtain ⟨rfl, hlevel⟩ := hgroups.mp hparsed
        unfold MqttTopics.parseDeviceCommand
        rw [parseCommand_eq]
        exact Or.inr (levelOf_eq_none (by decide) (by decide) hlevel.2 (Or.inl (by decide)))
  · unfold JebaoFlowRuntime.stateGroup JebaoFlowRuntime.stateDevice JebaoFlowRuntime.resultRequest
    rw [parseSegment_eq, parseSegment_eq, parseSegment_eq, hbase]
    exact ⟨levelOf_build .groupState rfl hid htopic, levelOf_build .deviceState rfl hid htopic,
      levelOf_build .requestResult rfl hid htopic⟩
  · exact hgroups.mpr ⟨hbase ▸ asyncCommand_topic hpublished, topicSegment_level hid⟩
  · exact hdevices.mpr ⟨hbase ▸ asyncCommand_topic hpublished, topicSegment_level hid⟩

/-- A prefix full of the words of the grammar. -/
theorem topic_grammar_agrees_nested : ∃ topics, MqttTopics.create "/groups/command/" = .ok topics
    ∧ topics.parseGroupCommand "groups/command/groups/main/command" = some "main" := by
  have hcreate : MqttTopics.create "/groups/command/"
      = .ok ⟨stripSlashes "/groups/command/"⟩ := by
    unfold MqttTopics.create
    exact if_neg (by decide)
  refine ⟨_, hcreate, ?_⟩
  exact ((topic_grammar_agrees hcreate (rfl : StartedFrom "groups/command" (.create "groups/command"))
    (by decide)).1 _ _).mpr ⟨by decide, by decide, by decide⟩

end JebaoFlow
