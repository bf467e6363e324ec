import JebaoFlow.Lib.Retained
import JebaoFlow.Mqtt.Connection
import JebaoFlow.Proof.Reports

/-!
# What the jobs publish

The retained topics mirror the records of the service, the devices' and the groups'
side by side. `Job.Runs` lists what each job publishes and what it leaves to do;
from it, a job that is done keeps both mirrors accounted for.
-/

namespace JebaoFlow

open Retained

variable {cfg : AppConfig} {units : UnitSource} {topics : MqttTopics}

/-! ## Inversion -/

/-- Nothing is published on the topic of a device or group. -/
def Transmission.Elsewhere (topics : MqttTopics) (t : Transmission) : Prop :=
  ∀ id topic, topics.deviceState id = .ok topic ∨ topics.groupState id = .ok topic →
    t.topic ≠ topic

/-- Availability, configuration, complaints and results. -/
def Job.IsElsewhere : Job → Prop
  | .availability _ | .systemConfig | .complaint _ | .result _ _ => True
  | _ => False

inductive Job.Runs (topics : MqttTopics) (s : ServiceState) :
    Job → Option Transmission → List Job → Prop where
  | elsewhere {job : Job} {t : Transmission} (hjob : job.IsElsewhere)
      (htopic : t.Elsewhere topics) : Job.Runs topics s job (some t) []
  | groupSnapshots :
      Job.Runs topics s .groupSnapshots none ((snapshots s).map .capturedGroup)
  | deviceSnapshots :
      Job.Runs topics s .deviceSnapshots none ((JebaoFlow.deviceSnapshots s).map .capturedDevice)
  | capturedGroup {state : GroupStatePayload} {topic : String}
      (htopic : topics.groupState state.groupId = .ok topic) :
      Job.Runs topics s (.capturedGroup state) (some (retained topic (.groupState state))) []
  | capturedDevice {state : DeviceStatePayload} {topic : String}
      (htopic : topics.deviceState state.deviceId = .ok topic) :
      Job.Runs topics s (.capturedDevice state) (some (retained topic (.deviceState state))) []
  | groupState {gid : String} {state : GroupStatePayload} {topic : String}
      (hstate : s.states.get? gid = some state) (htopic : topics.groupState gid = .ok topic) :
      Job.Runs topics s (.groupState gid) (some (retained topic (.groupState state))) []
  | deviceState {did : String} {state : DeviceStatePayload} {topic : String}
      (hstate : s.deviceStates.get? did = some state)
      (htopic : topics.deviceState did = .ok topic) :
      Job.Runs topics s (.deviceState did) (some (retained topic (.deviceState state))) []
  | groupAndMembers {gid : String} {state : GroupStatePayload} {topic : String}
      (hstate : s.states.get? gid = some state) (htopic : topics.groupState gid = .ok topic) :
      Job.Runs topics s (.groupAndMembers gid) (some (retained topic (.groupState state)))
        (state.members.keys.map .deviceState)
  | deviceAndGroups {did : String} {state : DeviceStatePayload} {topic : String}
      (hstate : s.deviceStates.get? did = some state)
      (htopic : topics.deviceState did = .ok topic) :
      Job.Runs topics s (.deviceAndGroups did) (some (retained topic (.deviceState state)))
        (state.groupIds.map .groupState)

theorem snapshot_ok {gid : String} {s : ServiceState} {state : GroupStatePayload}
    (h : snapshot gid s = .ok state) : s.states.get? gid = some state := by
  unfold snapshot at h
  split at h
  · cases h
  · rename_i hstate
    cases h
    exact hstate

theorem deviceSnapshot_ok {did : String} {s : ServiceState} {state : DeviceStatePayload}
    (h : deviceSnapshot did s = .ok state) : s.deviceStates.get? did = some state := by
  unfold deviceSnapshot at h
  split at h
  · cases h
  · rename_i hstate
    cases h
    exact hstate

/-- **A job that does not raise is one of the listed ones.** -/
theorem Job.runs {job : Job} {s : ServiceState} {transmission : Option Transmission}
    {next : List Job} (h : job.run topics s = .ok (transmission, next)) :
    Job.Runs topics s job transmission next := by
  cases job with
  | availability text =>
      cases h
      exact .elsewhere trivial (fun id _ htopic =>
        (@MqttTopics.state_topic_ne topics id id _ htopic).1)
  | systemConfig =>
      cases h
      exact .elsewhere trivial (fun id _ htopic =>
        (@MqttTopics.state_topic_ne topics id id _ htopic).2.1)
  | complaint body =>
      cases h
      exact .elsewhere trivial (fun id _ htopic =>
        (@MqttTopics.state_topic_ne topics id id _ htopic).2.2.1)
  | result requestId body =>
      obtain ⟨topic, htopic, h⟩ := PyError.bind_eq_ok h
      cases h
      refine .elsewhere trivial (fun id topic' hstate heq => ?_)
      have hsame : topic = topic' := heq
      rw [hsame] at htopic
      exact (MqttTopics.state_topic_ne hstate).2.2.2 htopic
  | groupSnapshots =>
      cases h
      exact .groupSnapshots
  | deviceSnapshots =>
      cases h
      exact .deviceSnapshots
  | capturedGroup state =>
      obtain ⟨topic, htopic, h⟩ := PyError.bind_eq_ok h
      cases h
      exact .capturedGroup htopic
  | capturedDevice state =>
      obtain ⟨topic, htopic, h⟩ := PyError.bind_eq_ok h
      cases h
      exact .capturedDevice htopic
  | groupState gid =>
      obtain ⟨state, hstate, h⟩ := PyError.bind_eq_ok h
      obtain ⟨topic, htopic, h⟩ := PyError.bind_eq_ok h
      cases h
      exact .groupState (snapshot_ok hstate) htopic
  | deviceState did =>
      obtain ⟨state, hstate, h⟩ := PyError.bind_eq_ok h
      obtain ⟨topic, htopic, h⟩ := PyError.bind_eq_ok h
      cases h
      exact .deviceState (deviceSnapshot_ok hstate) htopic
  | groupAndMembers gid =>
      obtain ⟨state, hstate, h⟩ := PyError.bind_eq_ok h
      obtain ⟨topic, htopic, h⟩ := PyError.bind_eq_ok h
      cases h
      exact .groupAndMembers (snapshot_ok hstate) htopic
  | deviceAndGroups did =>
      obtain ⟨state, hstate, h⟩ := PyError.bind_eq_ok h
      obtain ⟨topic, htopic, h⟩ := PyError.bind_eq_ok h
      cases h
      exact .deviceAndGroups (deviceSnapshot_ok hstate) htopic

/-! ## What stands on the state topics -/

/-- The last state published for a device. -/
def publishedDevice (topics : MqttTopics) (published : List Transmission) (did : String) :
    Option DeviceStatePayload :=
  match topics.deviceState did with
  | .error _ => none
  | .ok topic =>
    match lastPayload published topic with
    | some (.message (.deviceState state)) => some state
    | _ => none

/-- The last state published for a group. -/
def publishedGroup (topics : MqttTopics) (published : List Transmission) (gid : String) :
    Option GroupStatePayload :=
  match topics.groupState gid with
  | .error _ => none
  | .ok topic =>
    match lastPayload published topic with
    | some (.message (.groupState state)) => some state
    | _ => none

section Published

variable {published : List Transmission} {did gid topic : String}

theorem lastPayload_append (published : List Transmission) (t : Transmission) (topic : String) :
    lastPayload (published ++ [t]) topic
      = if t.topic = topic then some t.payload else lastPayload published topic := by
  unfold lastPayload
  rw [List.filter_append]
  by_cases h : t.topic = topic
  · simp [h]
  · simp [h]

theorem publishedDevice_self (htopic : topics.deviceState did = .ok topic)
    (state : DeviceStatePayload) :
    publishedDevice topics (published ++ [retained topic (.deviceState state)]) did
      = some state := by
  unfold publishedDevice
  rw [htopic]
  dsimp only
  rw [lastPayload_append, if_pos (by rfl)]
  rfl

theorem publishedGroup_self (htopic : topics.groupState gid = .ok topic)
    (state : GroupStatePayload) :
    publishedGroup topics (published ++ [retained topic (.groupState state)]) gid
      = some state := by
  unfold publishedGroup
  rw [htopic]
  dsimp only
  rw [lastPayload_append, if_pos (by rfl)]
  rfl

theorem publishedDevice_eq_some {state : DeviceStatePayload}
    (h : publishedDevice topics published did = some state) :
    ∃ topic, topics.deviceState did = .ok topic
      ∧ lastPayload published topic = some (.message (.deviceState state)) := by
  unfold publishedDevice at h
  split at h
  · cases h
  · rename_i topic htopic
    split at h
    · rename_i hlast
      cases h
      exact ⟨topic, htopic, hlast⟩
    · cases h

theorem publishedGroup_eq_some {state : GroupStatePayload}
    (h : publishedGroup topics published gid = some state) :
    ∃ topic, topics.groupState gid = .ok topic
      ∧ lastPayload published topic = some (.message (.groupState state)) := by
  unfold publishedGroup at h
  split at h
  · cases h
  · rename_i topic htopic
    split at h
    · rename_i hlast
      cases h
      exact ⟨topic, htopic, hlast⟩
    · cases h

theorem publishedDevice_other {t : Transmission}
    (h : ∀ topic, topics.deviceState did = .ok topic → t.topic ≠ topic) :
    publishedDevice topics (published ++ [t]) did = publishedDevice topics published did := by
  unfold publishedDevice
  cases htopic : topics.deviceState did with
  | error e => rfl
  | ok topic =>
      dsimp only
      rw [lastPayload_append, if_neg (h topic htopic)]

theorem publishedGroup_other {t : Transmission}
    (h : ∀ topic, topics.groupState gid = .ok topic → t.topic ≠ topic) :
    publishedGroup topics (published ++ [t]) gid = publishedGroup topics published gid := by
  unfold publishedGroup
  cases htopic : topics.groupState gid with
  | error e => rfl
  | ok topic =>
      dsimp only
      rw [lastPayload_append, if_neg (h topic htopic)]

/-- Another device, or any group, is published elsewhere. -/
theorem publishedDevice_of_device {state : DeviceStatePayload} {other : String}
    (htopic : topics.deviceState other = .ok topic) (hne : other ≠ did) :
    publishedDevice topics (published ++ [retained topic (.deviceState state)]) did
      = publishedDevice topics published did := by
  refine publishedDevice_other (fun topic' htopic' heq => hne ?_)
  have hsame : topic = topic' := heq
  exact MqttTopics.deviceState_injective htopic (hsame ▸ htopic')

theorem publishedDevice_of_group {state : GroupStatePayload}
    (htopic : topics.groupState gid = .ok topic) :
    publishedDevice topics (published ++ [retained topic (.groupState state)]) did
      = publishedDevice topics published did := by
  refine publishedDevice_other (fun topic' htopic' heq => ?_)
  have hsame : topic = topic' := heq
  exact MqttTopics.deviceState_ne_groupState (hsame ▸ htopic') htopic

theorem publishedGroup_of_group {state : GroupStatePayload} {other : String}
    (htopic : topics.groupState other = .ok topic) (hne : other ≠ gid) :
    publishedGroup topics (published ++ [retained topic (.groupState state)]) gid
      = publishedGroup topics published gid := by
  refine publishedGroup_other (fun topic' htopic' heq => hne ?_)
  have hsame : topic = topic' := heq
  exact MqttTopics.groupState_injective htopic (hsame ▸ htopic')

theorem publishedGroup_of_device {state : DeviceStatePayload}
    (htopic : topics.deviceState did = .ok topic) :
    publishedGroup topics (published ++ [retained topic (.deviceState state)]) gid
      = publishedGroup topics published gid := by
  refine publishedGroup_other (fun topic' htopic' heq => ?_)
  have hsame : topic = topic' := heq
  exact MqttTopics.deviceState_ne_groupState htopic (hsame ▸ htopic')

end Published

/-! ## The two mirrors -/

/-- What a job publishes of a device. -/
def deviceReading (cfg : AppConfig) : Reading String DeviceStatePayload Job where
  asks job did := match job with
    | .deviceSnapshots => True
    | .deviceState id | .deviceAndGroups id => id = did
    | .groupAndMembers gid => ∃ g ∈ cfg.groups, g.id = gid ∧ did ∈ g.deviceIds
    | _ => False
  carries job did state := job = .capturedDevice state ∧ state.deviceId = did

/-- What a job publishes of a group. -/
def groupReading (cfg : AppConfig) : Reading String GroupStatePayload Job where
  asks job gid := match job with
    | .groupSnapshots => True
    | .groupState id | .groupAndMembers id => id = gid
    | .deviceAndGroups did => ∃ g ∈ cfg.groups, g.id = gid ∧ did ∈ g.deviceIds
    | _ => False
  carries job gid state := job = .capturedGroup state ∧ state.groupId = gid

def deviceMirror (topics : MqttTopics) (s : ServiceState) (jobs : List Job)
    (published : List Transmission) : Mirror String DeviceStatePayload Job where
  current := s.deviceStates.get?
  marked did := did ∈ s.dirtyDevices
  jobs := jobs
  published := publishedDevice topics published

def groupMirror (topics : MqttTopics) (s : ServiceState) (jobs : List Job)
    (published : List Transmission) : Mirror String GroupStatePayload Job where
  current := s.states.get?
  marked gid := gid ∈ s.dirtyGroups
  jobs := jobs
  published := publishedGroup topics published

/-- Every device topic is accounted for, and in observer mode every group topic. -/
structure Mirrored (cfg : AppConfig) (topics : MqttTopics) (s : ServiceState) (jobs : List Job)
    (published : List Transmission) : Prop where
  devices : ∀ d ∈ cfg.devices,
    Accounted (deviceReading cfg) SameDevice (deviceMirror topics s jobs published) d.id
  groups : cfg.runtime.mode = .observer → ∀ g ∈ cfg.groups,
    Accounted (groupReading cfg) SameReport (groupMirror topics s jobs published) g.id

/-! ## One job is done -/

section Work

variable {s : ServiceState} {job : Job} {transmission : Option Transmission}
  {next jobs jobs' : List Job} {published : List Transmission}

/-- A job that publishes elsewhere is about no device and no group. -/
theorem Job.IsElsewhere.silent (cfg : AppConfig) (h : job.IsElsewhere) (id : String) :
    ¬ (deviceReading cfg).asks job id ∧ ¬ (groupReading cfg).asks job id
      ∧ (∀ state, ¬ (deviceReading cfg).carries job id state)
      ∧ ∀ state, ¬ (groupReading cfg).carries job id state := by
  cases job <;> simp [Job.IsElsewhere, deviceReading, groupReading] at *

/-- The snapshots of the devices are what is current of each. -/
theorem deviceSnapshots_current (hinv : ServiceInv cfg s) {state : DeviceStatePayload}
    (h : state ∈ JebaoFlow.deviceSnapshots s) :
    s.deviceStates.get? state.deviceId = some state := by
  obtain ⟨⟨did, device⟩, hmem, rfl⟩ := List.mem_map.mp h
  have hget : s.deviceStates.get? did = some device := Dict.get?_eq_some_iff.mpr hmem
  obtain ⟨d, hid, hdinv⟩ := hinv.device did device hget
  rw [hdinv.deviceId, hid]
  exact hget

theorem deviceSnapshots_mem {did : String} {state : DeviceStatePayload}
    (h : s.deviceStates.get? did = some state) : state ∈ JebaoFlow.deviceSnapshots s :=
  List.mem_map_of_mem (Dict.get?_eq_some_iff.mp h)

theorem snapshots_current (hinv : ServiceInv cfg s) {state : GroupStatePayload}
    (h : state ∈ snapshots s) : s.states.get? state.groupId = some state := by
  obtain ⟨⟨gid, record⟩, hmem, rfl⟩ := List.mem_map.mp h
  have hget : s.states.get? gid = some record := Dict.get?_eq_some_iff.mpr hmem
  obtain ⟨g, hid, hginv⟩ := hinv.group gid record hget
  rw [hginv.groupId, hid]
  exact hget

theorem snapshots_mem {gid : String} {state : GroupStatePayload}
    (h : s.states.get? gid = some state) : state ∈ snapshots s :=
  List.mem_map_of_mem (Dict.get?_eq_some_iff.mp h)

/-- A job that captures records for later ones takes them as they are. -/
theorem Job.Runs.captures (hinv : ServiceInv cfg s)
    (hruns : Job.Runs topics s job transmission next) :
    (∀ state, .capturedDevice state ∈ next → s.deviceStates.get? state.deviceId = some state)
      ∧ ∀ state, .capturedGroup state ∈ next → s.states.get? state.groupId = some state := by
  cases hruns with
  | deviceSnapshots =>
      refine ⟨fun state hstate => ?_, fun state hstate => ?_⟩
      · obtain ⟨state', hmem, heq⟩ := List.mem_map.mp hstate
        cases heq
        exact deviceSnapshots_current hinv hmem
      · obtain ⟨_, _, heq⟩ := List.mem_map.mp hstate
        cases heq
  | groupSnapshots =>
      refine ⟨fun state hstate => ?_, fun state hstate => ?_⟩
      · obtain ⟨_, _, heq⟩ := List.mem_map.mp hstate
        cases heq
      · obtain ⟨state', hmem, heq⟩ := List.mem_map.mp hstate
        cases heq
        exact snapshots_current hinv hmem
  -- what follows the other jobs looks the records up when it publishes
  | elsewhere | capturedGroup | capturedDevice | groupState | deviceState =>
      exact ⟨fun _ h => absurd h List.not_mem_nil, fun _ h => absurd h List.not_mem_nil⟩
  | groupAndMembers | deviceAndGroups => simp

/-- **A job that is done keeps every device accounted for.** -/
theorem Job.Runs.device (hinv : ServiceInv cfg s) (hruns : Job.Runs topics s job transmission next)
    (hjobs : Replaced job next jobs jobs') {d : DeviceConfig} (hd : d ∈ cfg.devices)
    (h : Accounted (deviceReading cfg) SameDevice (deviceMirror topics s jobs published) d.id) :
    Accounted (deviceReading cfg) SameDevice
      (deviceMirror topics s jobs' (published ++ transmission.toList)) d.id := by
  refine Accounted.work (m := deviceMirror topics s jobs published) SameDevice.refl rfl
    (fun hmarked => hmarked) hjobs ?_ ?_ h
  · rintro i hi state ⟨rfl, hid⟩
    exact hid ▸ (hruns.captures hinv).1 state hi
  · cases hruns with
    | elsewhere hjob htopic =>
        obtain ⟨hasks, _, hcarries, _⟩ := hjob.silent cfg d.id
        exact Or.inr ⟨publishedDevice_other (fun topic ht => htopic d.id topic (Or.inl ht)),
          hcarries, fun ha => absurd ha hasks⟩
    | groupSnapshots =>
        refine Or.inr ⟨?_, (fun _ hc => by cases hc.1), fun ha => ha.elim⟩
        exact congrArg (fun p => publishedDevice topics p d.id) (List.append_nil published)
    | deviceSnapshots =>
        refine Or.inr ⟨?_, (fun _ hc => by cases hc.1), fun _ => ?_⟩
        · exact congrArg (fun p => publishedDevice topics p d.id) (List.append_nil published)
        · obtain ⟨state, hstate⟩ := hinv.device_present d hd
          have hid := (hinv.deviceInv hd hstate).deviceId
          exact ⟨_, List.mem_map_of_mem (deviceSnapshots_mem hstate), Or.inr ⟨state, rfl, hid⟩⟩
    | capturedGroup htopic =>
        exact Or.inr ⟨publishedDevice_of_group htopic, (fun _ hc => by cases hc.1),
          fun ha => ha.elim⟩
    | @capturedDevice state _ htopic =>
        by_cases hid : state.deviceId = d.id
        · rw [hid] at htopic
          exact Or.inl ⟨state, publishedDevice_self htopic state, Or.inr ⟨rfl, hid⟩⟩
        · refine Or.inr ⟨publishedDevice_of_device htopic hid, fun v hc => hid ?_,
            fun ha => ha.elim⟩
          obtain ⟨heq, hv⟩ := hc
          cases heq
          exact hv
    | groupState _ htopic =>
        exact Or.inr ⟨publishedDevice_of_group htopic, (fun _ hc => by cases hc.1),
          fun ha => ha.elim⟩
    | @deviceState did state _ hstate htopic =>
        by_cases hid : did = d.id
        · subst hid
          exact Or.inl ⟨state, publishedDevice_self htopic state, Or.inl hstate⟩
        · exact Or.inr ⟨publishedDevice_of_device htopic hid, (fun _ hc => by cases hc.1),
            fun ha => absurd ha hid⟩
    | groupAndMembers hstate htopic =>
        refine Or.inr ⟨publishedDevice_of_group htopic, (fun _ hc => by cases hc.1), ?_⟩
        -- the record lists the members of its group
        rintro ⟨g, hg, rfl, hdid⟩
        have hkeys := (hinv.groupInv hg hstate).keys
        exact ⟨.deviceState d.id, List.mem_map_of_mem (hkeys ▸ hdid), Or.inl rfl⟩
    | @deviceAndGroups did state _ hstate htopic =>
        by_cases hid : did = d.id
        · subst hid
          exact Or.inl ⟨state, publishedDevice_self htopic state, Or.inl hstate⟩
        · exact Or.inr ⟨publishedDevice_of_device htopic hid, (fun _ hc => by cases hc.1),
            fun ha => absurd ha hid⟩

/-- **And every group.** -/
theorem Job.Runs.group (hinv : ServiceInv cfg s) (hruns : Job.Runs topics s job transmission next)
    (hjobs : Replaced job next jobs jobs') {g : GroupConfig} (hg : g ∈ cfg.groups)
    (h : Accounted (groupReading cfg) SameReport (groupMirror topics s jobs published) g.id) :
    Accounted (groupReading cfg) SameReport
      (groupMirror topics s jobs' (published ++ transmission.toList)) g.id := by
  refine Accounted.work (m := groupMirror topics s jobs published) SameReport.refl rfl
    (fun hmarked => hmarked) hjobs ?_ ?_ h
  · rintro i hi state ⟨rfl, hid⟩
    exact hid ▸ (hruns.captures hinv).2 state hi
  · cases hruns with
    | elsewhere hjob htopic =>
        obtain ⟨_, hasks, _, hcarries⟩ := hjob.silent cfg g.id
        exact Or.inr ⟨publishedGroup_other (fun topic ht => htopic g.id topic (Or.inr ht)),
          hcarries, fun ha => absurd ha hasks⟩
    | deviceSnapshots =>
        refine Or.inr ⟨?_, (fun _ hc => by cases hc.1), fun ha => ha.elim⟩
        exact congrArg (fun p => publishedGroup topics p g.id) (List.append_nil published)
    | groupSnapshots =>
        refine Or.inr ⟨?_, (fun _ hc => by cases hc.1), fun _ => ?_⟩
        · exact congrArg (fun p => publishedGroup topics p g.id) (List.append_nil published)
        · obtain ⟨state, hstate⟩ := hinv.group_present g hg
          have hid := (hinv.groupInv hg hstate).groupId
          exact ⟨_, List.mem_map_of_mem (snapshots_mem hstate), Or.inr ⟨state, rfl, hid⟩⟩
    | capturedDevice htopic =>
        exact Or.inr ⟨publishedGroup_of_device htopic, (fun _ hc => by cases hc.1),
          fun ha => ha.elim⟩
    | @capturedGroup state _ htopic =>
        by_cases hid : state.groupId = g.id
        · rw [hid] at htopic
          exact Or.inl ⟨state, publishedGroup_self htopic state, Or.inr ⟨rfl, hid⟩⟩
        · refine Or.inr ⟨publishedGroup_of_group htopic hid, fun v hc => hid ?_,
            fun ha => ha.elim⟩
          obtain ⟨heq, hv⟩ := hc
          cases heq
          exact hv
    | deviceState _ htopic =>
        exact Or.inr ⟨publishedGroup_of_device htopic, (fun _ hc => by cases hc.1),
          fun ha => ha.elim⟩
    | @groupState gid state _ hstate htopic =>
        by_cases hid : gid = g.id
        · subst hid
          exact Or.inl ⟨state, publishedGroup_self htopic state, Or.inl hstate⟩
        · exact Or.inr ⟨publishedGroup_of_group htopic hid, (fun _ hc => by cases hc.1),
            fun ha => absurd ha hid⟩
    | deviceAndGroups hstate htopic =>
        refine Or.inr ⟨publishedGroup_of_device htopic, (fun _ hc => by cases hc.1), ?_⟩
        -- the record lists the groups of its device
        rintro ⟨k, hk, hgid, hdid⟩
        obtain ⟨d, rfl, hdinv⟩ := hinv.device _ _ hstate
        have hmem := hdinv.mem_groupIds.mpr ⟨k, hk, hgid, hdid⟩
        exact ⟨.groupState g.id, List.mem_map_of_mem hmem, Or.inl rfl⟩
    | @groupAndMembers gid state _ hstate htopic =>
        by_cases hid : gid = g.id
        · subst hid
          exact Or.inl ⟨state, publishedGroup_self htopic state, Or.inl hstate⟩
        · exact Or.inr ⟨publishedGroup_of_group htopic hid, (fun _ hc => by cases hc.1),
            fun ha => absurd ha hid⟩

theorem Mirrored.work (hinv : ServiceInv cfg s) (hruns : Job.Runs topics s job transmission next)
    (hjobs : Replaced job next jobs jobs') (h : Mirrored cfg topics s jobs published) :
    Mirrored cfg topics s jobs' (published ++ transmission.toList) where
  devices d hd := hruns.device hinv hjobs hd (h.devices d hd)
  groups hmode g hg := hruns.group hinv hjobs hg (h.groups hmode g hg)

end Work

end JebaoFlow
