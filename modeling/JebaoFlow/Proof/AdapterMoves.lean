import JebaoFlow.Mqtt.Json
import JebaoFlow.Proof.Convergence

/-!
# What a step of the adapter can do

Every event either leaves the adapter with the jobs it had or fewer of them, or does one of
the listed things. Invariants of the jobs and of what is published are shown case by case
from this list, and a whole run is an induction over it.
-/

namespace JebaoFlow

variable {cfg : AppConfig} {units : UnitSource} {topics : MqttTopics}
  {validator : CommandValidator}

/-- What the tasks of a link have still to do; one that has failed does nothing more. -/
def Link.jobs : Link → List Job
  | .greeting jobs => jobs
  | .online _ consumer publisher => consumer.jobs.getD [] ++ publisher.jobs.getD []
  | .disconnected | .ended _ => []

/-- Where a link is, its tasks aside. -/
inductive LinkPhase
  | away
  | greeting
  | online (stopping : Bool)
  deriving DecidableEq

def Link.phase : Link → LinkPhase
  | .disconnected | .ended _ => .away
  | .greeting _ => .greeting
  | .online stopping _ _ => .online stopping

theorem Link.jobs_away {link : Link} (h : link.phase = .away) : link.jobs = [] := by
  cases link with
  | disconnected | ended => rfl
  | greeting | online => cases h

theorem Link.online_of_phase {link : Link} {stopping : Bool} (h : link.phase = .online stopping) :
    ∃ consumer publisher, link = .online stopping consumer publisher := by
  cases link with
  | online =>
      cases h
      exact ⟨_, _, rfl⟩
  | disconnected | greeting | ended => cases h

/-! ## The jobs a task takes on -/

/-- What the consumer takes on for a message. -/
theorem Receipt.mem_jobs {s s' : ServiceState} {activity : Activity} {j : Job}
    (h : Receipt cfg units s activity s') (hj : j ∈ activity.jobs.getD []) :
    (∃ body, j = .complaint body) ∨ (∃ requestId body, j = .result requestId body)
      ∨ (∃ gid, j = .groupAndMembers gid) ∨ ∃ did, j = .deviceAndGroups did := by
  have hanswer : ∀ {requestId : String} {body : PublicationBody} {states : Job} {accepted : Bool},
      j ∈ Job.result requestId body :: (if accepted then [states] else []) →
      j = .result requestId body ∨ j = states := by
    intro requestId body states accepted hj
    rcases List.mem_cons.mp hj with rfl | hj
    · exact Or.inl rfl
    · split at hj
      · exact Or.inr (List.mem_singleton.mp hj)
      · cases hj
  cases h with
  | ignored | failed | raised => cases hj
  | complaint body => exact Or.inl ⟨body, List.mem_singleton.mp hj⟩
  | group =>
      rcases hanswer hj with rfl | rfl
      · exact Or.inr (Or.inl ⟨_, _, rfl⟩)
      · exact Or.inr (Or.inr (Or.inl ⟨_, rfl⟩))
  | device =>
      rcases hanswer hj with rfl | rfl
      · exact Or.inr (Or.inl ⟨_, _, rfl⟩)
      · exact Or.inr (Or.inr (Or.inr ⟨_, rfl⟩))

/-- What the publisher takes on for an update. -/
theorem mem_updateJobs {update : StateUpdate} {j : Job} (hj : j ∈ MqttAdapter.updateJobs update) :
    (∃ did, j = .deviceState did) ∨ ∃ gid, j = .groupState gid := by
  rcases List.mem_append.mp hj with hj | hj
  · obtain ⟨did, _, rfl⟩ := List.mem_map.mp hj
    exact Or.inl ⟨did, rfl⟩
  · obtain ⟨gid, _, rfl⟩ := List.mem_map.mp hj
    exact Or.inr ⟨gid, rfl⟩

/-- What a job leaves to do. -/
theorem Job.Runs.mem_next {s : ServiceState} {job j : Job} {transmission : Option Transmission}
    {next : List Job} (hruns : Job.Runs topics s job transmission next) (hj : j ∈ next) :
    (∃ state, j = .capturedGroup state) ∨ (∃ state, j = .capturedDevice state)
      ∨ (∃ did, j = .deviceState did) ∨ ∃ gid, j = .groupState gid := by
  cases hruns with
  | elsewhere | capturedGroup | capturedDevice | groupState | deviceState => cases hj
  | groupSnapshots =>
      obtain ⟨state, _, rfl⟩ := List.mem_map.mp hj
      exact Or.inl ⟨state, rfl⟩
  | deviceSnapshots =>
      obtain ⟨state, _, rfl⟩ := List.mem_map.mp hj
      exact Or.inr (Or.inl ⟨state, rfl⟩)
  | groupAndMembers =>
      obtain ⟨did, _, rfl⟩ := List.mem_map.mp hj
      exact Or.inr (Or.inr (Or.inl ⟨did, rfl⟩))
  | deviceAndGroups =>
      obtain ⟨gid, _, rfl⟩ := List.mem_map.mp hj
      exact Or.inr (Or.inr (Or.inr ⟨gid, rfl⟩))

/-! ## Moves -/

inductive Moves (cfg : AppConfig) (units : UnitSource) (topics : MqttTopics) (a : MqttAdapter) :
    MqttAdapter → Prop where
  /-- Nothing is published; jobs are given up, other than of a greeting. -/
  | stays {link : Link} (hjobs : link.jobs.Sublist a.link.jobs) (hphase : link.phase = a.link.phase)
      (hgreeting : a.link.phase = .greeting → link.jobs = a.link.jobs) :
      Moves cfg units topics a { a with link }
  /-- The connection is over. -/
  | left {link : Link} (hphase : link.phase = .away) : Moves cfg units topics a { a with link }
  | observed (event : ObserverEvent) (clk : Clock) :
      Moves cfg units topics a
        { a with service := (recordObserverEvent cfg units clk event a.service).2 }
  | connected (hlink : a.link = .disconnected) :
      Moves cfg units topics a { a with link := .greeting MqttAdapter.greetingJobs }
  /-- The greeting is over, and the tasks are started. -/
  | greeted {link : Link} (hold : a.link.phase = .greeting) (hdone : a.link.jobs = [])
      (hphase : link.phase = .online false) (hjobs : link.jobs = []) :
      Moves cfg units topics a { a with link }
  /-- The consumer takes a message. -/
  | received {stopping : Bool} {s : ServiceState} {link : Link} {activity : Activity}
      (hreceipt : Receipt cfg units a.service activity s)
      (hcomplaint : ∀ body, activity = .busy [.complaint body] → body.IsComplaint)
      (hold : a.link.phase = .online stopping) (hphase : link.phase = .online stopping)
      (hjobs : link.jobs = activity.jobs.getD [] ++ a.link.jobs) :
      Moves cfg units topics a { a with service := s, link }
  /-- The publisher takes the marks. -/
  | woke {stopping : Bool} {link : Link} (hold : a.link.phase = .online stopping)
      (hphase : link.phase = .online stopping)
      (hjobs : link.jobs = a.link.jobs ++ MqttAdapter.updateJobs (waitForUpdates a.service).1) :
      Moves cfg units topics a { a with service := (waitForUpdates a.service).2, link }
  /-- A job is done; in a greeting it is the first. -/
  | worked {link : Link} {job : Job} {transmission : Option Transmission}
      {before next after : List Job} (hrun : job.run topics a.service = .ok (transmission, next))
      (hold : a.link.jobs = before ++ job :: after) (hnew : link.jobs = before ++ (next ++ after))
      (hphase : link.phase = a.link.phase) (hbefore : a.link.phase = .greeting → before = []) :
      Moves cfg units topics a
        { a with link, published := a.published ++ transmission.toList }
  /-- The daemon is stopped and says so. -/
  | announced {link : Link} (hjobs : link.jobs = a.link.jobs) (hold : a.link.phase = .online false)
      (hphase : link.phase = .online true) :
      Moves cfg units topics a { a with link, published := a.published ++ [offlineNote topics] }

theorem Moves.same (a : MqttAdapter) : Moves cfg units topics a a :=
  @Moves.stays cfg units topics a a.link (List.Sublist.refl _) rfl (fun _ => rfl)

/-- What was published stays. -/
theorem Moves.published {a a' : MqttAdapter} (h : Moves cfg units topics a a') :
    ∃ sent, a'.published = a.published ++ sent := by
  cases h with
  | stays => exact ⟨[], (List.append_nil _).symm⟩
  | left => exact ⟨[], (List.append_nil _).symm⟩
  | observed => exact ⟨[], (List.append_nil _).symm⟩
  | connected => exact ⟨[], (List.append_nil _).symm⟩
  | greeted => exact ⟨[], (List.append_nil _).symm⟩
  | received => exact ⟨[], (List.append_nil _).symm⟩
  | woke => exact ⟨[], (List.append_nil _).symm⟩
  | worked => exact ⟨_, rfl⟩
  | announced => exact ⟨_, rfl⟩

/-- A task that goes on is done, raises, or has done one job. -/
theorem proceed_run (topics : MqttTopics) (s : ServiceState) (jobs : List Job) :
    (jobs = [] ∧ MqttAdapter.proceed topics s jobs = (.waiting, []))
      ∨ (∃ error, MqttAdapter.proceed topics s jobs = (.failed error, []))
      ∨ ∃ job rest transmission next, jobs = job :: rest
        ∧ job.run topics s = .ok (transmission, next)
        ∧ MqttAdapter.proceed topics s jobs = (.busy (next ++ rest), transmission.toList) := by
  cases jobs with
  | nil => exact Or.inl ⟨rfl, rfl⟩
  | cons job rest =>
      unfold MqttAdapter.proceed
      dsimp only
      cases hrun : job.run topics s with
      | error e => exact Or.inr (Or.inl ⟨.raised e, rfl⟩)
      | ok out => exact Or.inr (Or.inr ⟨job, rest, out.1, out.2, rfl, hrun, rfl⟩)

/-- The consumer complains of commands only. -/
theorem receive_complaint {clk : Clock} {message : Message} {s : ServiceState}
    {body : PublicationBody}
    (h : (MqttAdapter.receive topics cfg units validator clk message s).1 = .busy [.complaint body]) :
    body.IsComplaint := by
  unfold MqttAdapter.receive at h
  split at h
  · split at h
    · split at h
      · cases h
        trivial
      · cases h
    · split at h
      · cases h
      · cases h
  · split at h
    · cases h
    · split at h
      · split at h
        · cases h
          trivial
        · cases h
      · split at h
        · cases h
        · cases h

section Steps

variable {s : ServiceState} {jobs : List Job} {published : List Transmission} {stopping : Bool}
  {consumer publisher : Activity}

theorem moves_afterError {a : MqttAdapter} (error : TaskError) :
    Moves cfg units topics a { a with link := MqttAdapter.afterError error } := by
  have hphase : (MqttAdapter.afterError error).phase = .away := by cases error <;> rfl
  exact .left hphase

theorem moves_greet : Moves cfg units topics
    { service := s, link := .greeting jobs, published }
    (MqttAdapter.step topics cfg units validator { service := s, link := .greeting jobs, published }
      .greet) := by
  unfold MqttAdapter.step
  dsimp only
  rcases proceed_run topics s jobs with ⟨rfl, heq⟩ | ⟨error, heq⟩ |
    ⟨job, rest, transmission, next, rfl, hrun, heq⟩
  · rw [heq]
    exact .greeted rfl rfl rfl rfl
  · rw [heq]
    exact moves_afterError error
  · rw [heq]
    exact @Moves.worked cfg units topics _ _ job transmission [] next rest hrun rfl rfl rfl
      (fun _ => rfl)

/-- The consumer goes on. -/
theorem moves_consume : Moves cfg units topics
    { service := s, link := .online stopping (.busy jobs) publisher, published }
    { service := s
      link := .online stopping (MqttAdapter.proceed topics s jobs).1 publisher
      published := published ++ (MqttAdapter.proceed topics s jobs).2 } := by
  rcases proceed_run topics s jobs with ⟨rfl, heq⟩ | ⟨error, heq⟩ |
    ⟨job, rest, transmission, next, rfl, hrun, heq⟩
  · rw [heq, List.append_nil]
    exact .stays (List.Sublist.refl _) rfl nofun
  · rw [heq, List.append_nil]
    exact .stays (List.sublist_append_right _ _) rfl nofun
  · rw [heq]
    refine @Moves.worked cfg units topics _ _ job transmission [] next _ hrun rfl ?_ rfl
      (fun _ => rfl)
    exact List.append_assoc next rest (publisher.jobs.getD [])

/-- The publisher goes on. -/
theorem moves_publish : Moves cfg units topics
    { service := s, link := .online stopping consumer (.busy jobs), published }
    { service := s
      link := .online stopping consumer (MqttAdapter.proceed topics s jobs).1
      published := published ++ (MqttAdapter.proceed topics s jobs).2 } := by
  rcases proceed_run topics s jobs with ⟨rfl, heq⟩ | ⟨error, heq⟩ |
    ⟨job, rest, transmission, next, rfl, hrun, heq⟩
  · rw [heq, List.append_nil]
    exact .stays (List.Sublist.refl _) rfl nofun
  · rw [heq, List.append_nil]
    refine .stays (List.Sublist.append_left (List.nil_sublist _) _) rfl nofun
  · rw [heq]
    exact .worked hrun rfl rfl rfl nofun

end Steps

/-- **Every step of the adapter is one of the listed moves.** -/
theorem moves (a : MqttAdapter) (event : MqttAdapter.Event) :
    Moves cfg units topics a (MqttAdapter.step topics cfg units validator a event) := by
  obtain ⟨s, link, published⟩ := a
  -- in the other states of the link, or of the task it is for, an event changes nothing
  cases event with
  | observe event clk => exact .observed event clk
  | connect =>
      cases link with
      | disconnected => exact .connected rfl
      | greeting | online | ended => exact .same _
  | greet =>
      cases link with
      | greeting jobs => exact moves_greet
      | disconnected | online | ended => exact .same _
  | greetingLost =>
      cases link with
      | greeting jobs => exact .left rfl
      | disconnected | online | ended => exact .same _
  | receive message clk =>
      cases link with
      | online stopping consumer publisher =>
          cases consumer with
          | waiting =>
              exact .received (receipt cfg units topics validator clk message s)
                (fun body => receive_complaint) rfl rfl rfl
          | busy | failed => exact .same _
      | disconnected | greeting | ended => exact .same _
  | consume =>
      cases link with
      | online stopping consumer publisher =>
          cases consumer with
          | busy jobs => exact moves_consume
          | waiting | failed => exact .same _
      | disconnected | greeting | ended => exact .same _
  | consumerLost =>
      cases link with
      | online stopping consumer publisher =>
          cases consumer with
          | failed => exact .same _
          | waiting | busy => exact .stays (List.sublist_append_right _ _) rfl nofun
      | disconnected | greeting | ended => exact .same _
  | wake =>
      cases link with
      | online stopping consumer publisher =>
          cases publisher with
          | waiting =>
              unfold MqttAdapter.step
              dsimp only
              split
              · refine .woke rfl rfl ?_
                simp [Link.jobs, Activity.jobs]
              · exact .same _
          | busy | failed => exact .same _
      | disconnected | greeting | ended => exact .same _
  | publish =>
      cases link with
      | online stopping consumer publisher =>
          cases publisher with
          | busy jobs => exact moves_publish
          | waiting | failed => exact .same _
      | disconnected | greeting | ended => exact .same _
  | publisherLost =>
      cases link with
      | online stopping consumer publisher =>
          cases publisher with
          | busy jobs =>
              exact .stays (List.Sublist.append_left (List.nil_sublist _) _) rfl nofun
          | waiting | failed => exact .same _
      | disconnected | greeting | ended => exact .same _
  | stop =>
      unfold MqttAdapter.step
      dsimp only
      split
      · exact .left rfl
      · exact .same _
      · exact .same _
      · exact .announced rfl rfl rfl
      · exact .same _
  | leave =>
      unfold MqttAdapter.step
      dsimp only
      split
      · exact .left rfl
      · rename_i error _
        exact moves_afterError error
      · rename_i error _
        exact moves_afterError error
      · exact .same _

/-! ## The service -/

/-- What a message makes of the service. -/
theorem receive_service (cfg : AppConfig) (units : UnitSource) (topics : MqttTopics)
    (validator : CommandValidator) (clk : Clock) (message : Message) (s : ServiceState) :
    (MqttAdapter.receive topics cfg units validator clk message s).2 = s
      ∨ (∃ deviceId command, topics.parseDeviceCommand message.topic = some deviceId
        ∧ (MqttAdapter.receive topics cfg units validator clk message s).2
          = serviceStep cfg units s (.applyDevice deviceId command clk))
      ∨ ∃ groupId command, topics.parseGroupCommand message.topic = some groupId
        ∧ (MqttAdapter.receive topics cfg units validator clk message s).2
          = serviceStep cfg units s (.apply groupId command clk) := by
  unfold MqttAdapter.receive
  split
  · rename_i deviceId hparsed
    split
    · split <;> exact Or.inl rfl
    · rename_i command _
      refine Or.inr (Or.inl ⟨deviceId, command, hparsed, ?_⟩)
      split <;> rename_i happly <;> exact (congrArg Prod.snd happly).symm
  · split
    · exact Or.inl rfl
    · rename_i groupId hparsed
      split
      · split <;> exact Or.inl rfl
      · rename_i command _
        refine Or.inr (Or.inr ⟨groupId, command, hparsed, ?_⟩)
        split <;> rename_i happly <;> exact (congrArg Prod.snd happly).symm

/-- Nothing but a command and an observation changes a record. -/
theorem step_records (a : MqttAdapter) (event : MqttAdapter.Event)
    (hobserve : ∀ e clk, event ≠ .observe e clk) (hreceive : ∀ message clk, event ≠ .receive message clk) :
    (MqttAdapter.step topics cfg units validator a event).service.deviceStates
      = a.service.deviceStates := by
  unfold MqttAdapter.step
  cases event with
  | observe e clk => exact absurd rfl (hobserve e clk)
  | receive message clk => exact absurd rfl (hreceive message clk)
  | connect | greetingLost | consume | consumerLost | publish | publisherLost | stop | leave =>
      dsimp only
      split <;> rfl
  | greet =>
      dsimp only
      split
      · split <;> rfl
      · rfl
  | wake =>
      dsimp only
      split
      · split <;> rfl
      · rfl

end JebaoFlow
