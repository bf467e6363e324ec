import JebaoFlow.Proof.AdapterMoves
import JebaoFlow.Proof.Received
import JebaoFlow.Proof.RequestCache

/-!
# The daemon publishes genuine payloads

A state goes out under the topic of its own identifier, and a result under the request it
answers. For a state this is because the record under an identifier names it; for a result
because a cached answer is kept under its own request, so a repeated request is answered
under its own topic too.
-/

namespace JebaoFlow

open Run

variable {cfg : AppConfig} {units : UnitSource} {topics : MqttTopics}
  {validator : CommandValidator}

/-! ## Results are kept under their requests -/

structure KeyedResults (s : ServiceState) : Prop where
  group : ∀ requestId result, s.results.get? requestId = some result →
    result.requestId = requestId
  device : ∀ requestId result, s.deviceResults.get? requestId = some result →
    result.requestId = requestId

theorem keyedResults_step (s : ServiceState) (op : ServiceOp) (h : KeyedResults s) :
    KeyedResults (serviceStep cfg units s op) where
  group := (results_step s op).keyed h.group
  device := (deviceResults_step s op).keyed h.device

theorem init_keyedResults {clk : Clock} {s : ServiceState}
    (h : GroupControlService.init cfg units clk = .ok s) : KeyedResults s where
  group := by
    rw [(init_started h).results]
    nofun
  device := by
    rw [(init_started h).deviceResults]
    nofun

/-- The answer to a command carries its request id. -/
theorem GroupAnswer.requestId {groupId requestId : String} {s s' : ServiceState}
    {result : GroupCommandResult} (hkeyed : KeyedResults s)
    (h : GroupAnswer groupId requestId s (.ok result) s') : result.requestId = requestId := by
  cases h with
  | replayed hold => exact hkeyed.group _ _ hold
  | refused => rfl
  | executed => rfl

theorem DeviceAnswer.requestId {requestId : String} {s s' : ServiceState}
    {result : DeviceCommandResult} (hkeyed : KeyedResults s)
    (h : DeviceAnswer requestId s (.ok result) s') : result.requestId = requestId := by
  cases h with
  | replayed hold => exact hkeyed.device _ _ hold
  | refused => rfl
  | executed => rfl

/-! ## Jobs -/

/-- The body answers the request. -/
def PublicationBody.Answers (requestId : String) : PublicationBody → Prop
  | .groupResult result => result.requestId = requestId
  | .deviceResult result => result.requestId = requestId
  | _ => False

/-- The job publishes what its topic is for. -/
def Job.Honest : Job → Prop
  | .availability text => text = "online"
  | .complaint body => body.IsComplaint
  | .result requestId body => body.Answers requestId
  | _ => True

/-- **An honest job publishes a genuine payload, and leaves honest jobs.** -/
theorem Job.Honest.run {s : ServiceState} (hsound : Sound cfg s) {job : Job}
    {transmission : Option Transmission} {next : List Job} (hjob : job.Honest)
    (hrun : job.run topics s = .ok (transmission, next)) :
    (∀ t ∈ transmission.toList, Genuine topics t) ∧ ∀ j ∈ next, j.Honest := by
  have hone : ∀ {t : Transmission}, Genuine topics t →
      ∀ t' ∈ (some t).toList, Genuine topics t' := by
    rintro t ht t' ht'
    rw [Option.toList_some] at ht'
    exact (List.mem_singleton.mp ht').symm ▸ ht
  have hnil : ∀ j ∈ ([] : List Job), j.Honest := fun j hj => absurd hj List.not_mem_nil
  have hmap : ∀ {α : Type} (make : α → Job), (∀ x, (make x).Honest) → ∀ xs : List α,
      ∀ j ∈ xs.map make, j.Honest := by
    rintro α make hmake xs j hj
    obtain ⟨x, _, rfl⟩ := List.mem_map.mp hj
    exact hmake x
  cases job with
  | availability text =>
      cases hrun
      exact ⟨hone (.availability (Or.inl hjob)), hnil⟩
  | systemConfig =>
      cases hrun
      exact ⟨hone .systemConfig, hnil⟩
  | groupSnapshots =>
      cases hrun
      exact ⟨fun t ht => absurd ht List.not_mem_nil, hmap Job.capturedGroup (fun _ => trivial) _⟩
  | deviceSnapshots =>
      cases hrun
      exact ⟨fun t ht => absurd ht List.not_mem_nil, hmap Job.capturedDevice (fun _ => trivial) _⟩
  | capturedGroup state =>
      obtain ⟨topic, htopic, hrun⟩ := PyError.bind_eq_ok hrun
      cases hrun
      exact ⟨hone (.groupState htopic), hnil⟩
  | capturedDevice state =>
      obtain ⟨topic, htopic, hrun⟩ := PyError.bind_eq_ok hrun
      cases hrun
      exact ⟨hone (.deviceState htopic), hnil⟩
  | complaint body =>
      cases hrun
      exact ⟨hone (.complaint hjob), hnil⟩
  | result requestId body =>
      obtain ⟨topic, htopic, hrun⟩ := PyError.bind_eq_ok hrun
      cases hrun
      cases body with
      | groupResult result =>
          have hid : result.requestId = requestId := hjob
          exact ⟨hone (.groupResult (hid.symm ▸ htopic)), hnil⟩
      | deviceResult result =>
          have hid : result.requestId = requestId := hjob
          exact ⟨hone (.deviceResult (hid.symm ▸ htopic)), hnil⟩
      | invalidCommand | invalidDeviceCommand | groupState | deviceState => cases hjob
  | groupState gid =>
      obtain ⟨state, hstate, hrun⟩ := PyError.bind_eq_ok hrun
      obtain ⟨topic, htopic, hrun⟩ := PyError.bind_eq_ok hrun
      cases hrun
      obtain ⟨g, hg, hinv⟩ := hsound.inv.group gid state (snapshot_ok hstate)
      have hid : state.groupId = gid := hinv.groupId.trans hg
      exact ⟨hone (.groupState (hid.symm ▸ htopic)), hnil⟩
  | deviceState did =>
      obtain ⟨state, hstate, hrun⟩ := PyError.bind_eq_ok hrun
      obtain ⟨topic, htopic, hrun⟩ := PyError.bind_eq_ok hrun
      cases hrun
      obtain ⟨d, hd, hinv⟩ := hsound.inv.device did state (deviceSnapshot_ok hstate)
      have hid : state.deviceId = did := hinv.deviceId.trans hd
      exact ⟨hone (.deviceState (hid.symm ▸ htopic)), hnil⟩
  | groupAndMembers gid =>
      obtain ⟨state, hstate, hrun⟩ := PyError.bind_eq_ok hrun
      obtain ⟨topic, htopic, hrun⟩ := PyError.bind_eq_ok hrun
      cases hrun
      obtain ⟨g, hg, hinv⟩ := hsound.inv.group gid state (snapshot_ok hstate)
      have hid : state.groupId = gid := hinv.groupId.trans hg
      exact ⟨hone (.groupState (hid.symm ▸ htopic)), hmap Job.deviceState (fun _ => trivial) _⟩
  | deviceAndGroups did =>
      obtain ⟨state, hstate, hrun⟩ := PyError.bind_eq_ok hrun
      obtain ⟨topic, htopic, hrun⟩ := PyError.bind_eq_ok hrun
      cases hrun
      obtain ⟨d, hd, hinv⟩ := hsound.inv.device did state (deviceSnapshot_ok hstate)
      have hid : state.deviceId = did := hinv.deviceId.trans hd
      exact ⟨hone (.deviceState (hid.symm ▸ htopic)), hmap Job.groupState (fun _ => trivial) _⟩

/-! ## The adapter -/

theorem complaint_honest {body : PublicationBody} (h : body.IsComplaint) :
    ∀ j ∈ [Job.complaint body], j.Honest := by
  intro j hj
  rw [List.mem_singleton.mp hj]
  exact h

theorem answer_honest {requestId : String} {body : PublicationBody} {accepted : Bool} {states : Job}
    (hbody : body.Answers requestId) (hstates : states.Honest) :
    ∀ j ∈ Job.result requestId body :: if accepted then [states] else [], j.Honest := by
  intro j hj
  rcases List.mem_cons.mp hj with rfl | hj
  · exact hbody
  · split at hj
    · rw [List.mem_singleton.mp hj]
      exact hstates
    · cases hj

/-- What the consumer takes on for a message is honest. -/
theorem Receipt.honest {s s' : ServiceState} {activity : Activity} (hkeyed : KeyedResults s)
    (h : Receipt cfg units s activity s')
    (hcomplaint : ∀ body, activity = .busy [.complaint body] → body.IsComplaint) :
    ∀ j ∈ activity.jobs.getD [], j.Honest := by
  cases h with
  | ignored => exact fun j hj => absurd hj List.not_mem_nil
  | complaint body => exact complaint_honest (hcomplaint body rfl)
  | failed => exact fun j hj => absurd hj List.not_mem_nil
  | raised => exact fun j hj => absurd hj List.not_mem_nil
  | @group groupId command clk result _ happly =>
      have hanswer := apply_answer cfg units clk groupId command s
      rw [happly] at hanswer
      exact answer_honest (hanswer.requestId hkeyed) trivial
  | @device deviceId command clk result _ happly =>
      have hanswer := applyDevice_answer cfg units clk deviceId command s
      rw [happly] at hanswer
      exact answer_honest (hanswer.requestId hkeyed) trivial

theorem Receipt.keyedResults {s s' : ServiceState} {activity : Activity}
    (h : Receipt cfg units s activity s') (hkeyed : KeyedResults s) : KeyedResults s' := by
  cases h with
  | ignored => exact hkeyed
  | complaint => exact hkeyed
  | failed => exact hkeyed
  | raised op hs => exact hs ▸ keyedResults_step s op hkeyed
  | @group groupId command clk _ _ happly =>
      have hs : serviceStep cfg units s (.apply groupId command clk) = s' :=
        congrArg Prod.snd happly
      exact hs ▸ keyedResults_step s _ hkeyed
  | @device deviceId command clk _ _ happly =>
      have hs : serviceStep cfg units s (.applyDevice deviceId command clk) = s' :=
        congrArg Prod.snd happly
      exact hs ▸ keyedResults_step s _ hkeyed

theorem updateJobs_honest {update : StateUpdate} :
    ∀ j ∈ MqttAdapter.updateJobs update, j.Honest := by
  intro j hj
  rcases mem_updateJobs hj with ⟨_, rfl⟩ | ⟨_, rfl⟩ <;> trivial

/-- Everything published is genuine, and everything still to do is honest. -/
structure Honest (cfg : AppConfig) (topics : MqttTopics) (a : MqttAdapter) : Prop where
  sound : Sound cfg a.service
  keyed : KeyedResults a.service
  jobs : ∀ j ∈ a.link.jobs, j.Honest
  published : ∀ t ∈ a.published, Genuine topics t

/-- Whoever announces it, it is genuine that the daemon is offline. -/
theorem Honest.announce {a : MqttAdapter} {link : Link} (hlink : link.jobs = a.link.jobs)
    (h : Honest cfg topics a) :
    Honest cfg topics { a with link, published := a.published ++ [offlineNote topics] } := by
  refine ⟨h.sound, h.keyed, fun j hj => h.jobs j (hlink ▸ hj), fun t ht => ?_⟩
  rcases List.mem_append.mp ht with ht | ht
  · exact h.published t ht
  · rw [List.mem_singleton.mp ht]
    exact .availability (Or.inr rfl)

/-- **Every move keeps it so.** -/
theorem Honest.move {a a' : MqttAdapter} (hmove : Moves cfg units topics a a')
    (h : Honest cfg topics a) : Honest cfg topics a' := by
  obtain ⟨hsound, hkeyed, hjobs, hpublished⟩ := h
  have hnil : ∀ {link : Link}, link.jobs = [] → ∀ j ∈ link.jobs, j.Honest :=
    fun hlink j hj => absurd (hlink ▸ hj) List.not_mem_nil
  cases hmove with
  | stays hsub => exact ⟨hsound, hkeyed, fun j hj => hjobs j (hsub.subset hj), hpublished⟩
  | left haway => exact ⟨hsound, hkeyed, hnil (Link.jobs_away haway), hpublished⟩
  | observed event clk =>
      exact ⟨sound_step units (.observe event clk) hsound,
        keyedResults_step a.service (.observe event clk) hkeyed, hjobs, hpublished⟩
  | connected =>
      refine ⟨hsound, hkeyed, ?_, hpublished⟩
      simp [Link.jobs, MqttAdapter.greetingJobs, Job.Honest]
  | greeted _ _ _ hlink => exact ⟨hsound, hkeyed, hnil hlink, hpublished⟩
  | received hreceipt hcomplaint _ _ hnew =>
      refine ⟨hreceipt.sound hsound, hreceipt.keyedResults hkeyed, fun j hj => ?_, hpublished⟩
      rcases List.mem_append.mp (hnew ▸ hj) with hj | hj
      · exact hreceipt.honest hkeyed hcomplaint j hj
      · exact hjobs j hj
  | woke _ _ hnew =>
      refine ⟨hsound.collect, ⟨hkeyed.group, hkeyed.device⟩, fun j hj => ?_, hpublished⟩
      rcases List.mem_append.mp (hnew ▸ hj) with hj | hj
      · exact hjobs j hj
      · exact updateJobs_honest j hj
  | worked hrun hold hnew =>
      rw [hold] at hjobs
      obtain ⟨hsent, hnext⟩ := (hjobs _ (by simp)).run hsound hrun
      refine ⟨hsound, hkeyed, fun j hj => ?_, fun t ht => ?_⟩
      · rcases List.mem_append.mp (hnew ▸ hj) with hj | hj
        · exact hjobs j (List.mem_append_left _ hj)
        · rcases List.mem_append.mp hj with hj | hj
          · exact hnext j hj
          · exact hjobs j (List.mem_append_right _ (List.mem_cons_of_mem _ hj))
      · rcases List.mem_append.mp ht with ht | ht
        · exact hpublished t ht
        · exact hsent t ht
  | announced hlink => exact Honest.announce hlink ⟨hsound, hkeyed, hjobs, hpublished⟩

theorem init_honest {clk : Clock} {s : ServiceState}
    (h : GroupControlService.init cfg units clk = .ok s) {published : List Transmission}
    (hpublished : ∀ t ∈ published, Genuine topics t) :
    Honest cfg topics { service := s, published } :=
  ⟨init_sound h, init_keyedResults h, fun _ hj => absurd hj List.not_mem_nil, hpublished⟩

end JebaoFlow
