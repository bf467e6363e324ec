import JebaoFlow.Proof.Shown

/-!
# What the daemon says of itself

A greeting begins with the word that the daemon is online and its configuration. Nothing the
tasks do later is published under these two topics, so the last word there stands until the
daemon is stopped.
-/

namespace JebaoFlow

variable {cfg : AppConfig} {units : UnitSource} {topics : MqttTopics}

/-- Availability and configuration. -/
def Job.IsSystem : Job → Prop
  | .availability _ | .systemConfig => True
  | _ => False

/-- **Only the two jobs of a greeting publish under the topics of the system.** -/
theorem Job.Honest.system {s : ServiceState} {job : Job} {t : Transmission} {next : List Job}
    (hjob : job.Honest) (hrun : job.run topics s = .ok (some t, next)) :
    (t.payload.kind = .availability → job = .availability "online"
        ∧ t.payload = .availability "online")
      ∧ (t.payload.kind = .systemConfig → job = .systemConfig ∧ t.payload = .systemConfig) := by
  cases job with
  | availability text =>
      cases hrun
      cases hjob
      exact ⟨fun _ => ⟨rfl, rfl⟩, nofun⟩
  | systemConfig =>
      cases hrun
      exact ⟨nofun, fun _ => ⟨rfl, rfl⟩⟩
  | groupSnapshots | deviceSnapshots => cases hrun
  | complaint body =>
      cases hrun
      cases body with
      | invalidCommand | invalidDeviceCommand => exact ⟨nofun, nofun⟩
      | groupResult | deviceResult | groupState | deviceState => cases hjob
  | result requestId body =>
      obtain ⟨_, _, hrun⟩ := PyError.bind_eq_ok hrun
      cases hrun
      cases body with
      | groupResult | deviceResult => exact ⟨nofun, nofun⟩
      | invalidCommand | invalidDeviceCommand | groupState | deviceState => cases hjob
  | capturedGroup | capturedDevice =>
      obtain ⟨_, _, hrun⟩ := PyError.bind_eq_ok hrun
      cases hrun
      exact ⟨nofun, nofun⟩
  | groupState | deviceState | groupAndMembers | deviceAndGroups =>
      obtain ⟨_, _, hrun⟩ := PyError.bind_eq_ok hrun
      obtain ⟨_, _, hrun⟩ := PyError.bind_eq_ok hrun
      cases hrun
      exact ⟨nofun, nofun⟩

/-- A job leaves a topic as it is, or publishes a payload for it. -/
theorem last_worked {kind : TopicKind} {id topic : String} {published : List Transmission}
    {transmission : Option Transmission} (htopic : kind.build topics id = .ok topic)
    (hgenuine : ∀ t ∈ transmission.toList, Genuine topics t) :
    lastPayload (published ++ transmission.toList) topic = lastPayload published topic
      ∨ ∃ t, transmission = some t ∧ t.payload.kind = kind
        ∧ lastPayload (published ++ transmission.toList) topic = some t.payload := by
  cases transmission with
  | none =>
      left
      rw [Option.toList_none, List.append_nil]
  | some t =>
      rw [Option.toList_some, lastPayload_append]
      split
      · rename_i heq
        subst heq
        exact Or.inr ⟨t, rfl, ((hgenuine t (List.mem_singleton_self t)).kind_eq htopic).1, rfl⟩
      · exact Or.inl rfl

/-- A word is said, or a job has still to say it. -/
def Owed (jobs : List Job) (published : List Transmission) (wanted : Job) (topic : String)
    (payload : Payload) : Prop :=
  wanted ∈ jobs ∨ lastPayload published topic = some payload

/-- The job that was done said it, if it was the one to say it. -/
theorem Owed.worked {kind : TopicKind} {id topic : String} {published : List Transmission}
    {transmission : Option Transmission} {jobs jobs' : List Job} {wanted job : Job}
    {payload : Payload} (htopic : kind.build topics id = .ok topic)
    (hgenuine : ∀ t ∈ transmission.toList, Genuine topics t)
    (hstays : ∀ j ∈ jobs, j = job ∨ j ∈ jobs')
    (hpayload : ∀ t, transmission = some t → t.payload.kind = kind → t.payload = payload)
    (hdone : job = wanted →
      lastPayload (published ++ transmission.toList) topic = some payload)
    (h : Owed jobs published wanted topic payload) :
    Owed jobs' (published ++ transmission.toList) wanted topic payload := by
  rcases h with hmem | hlast
  · rcases hstays wanted hmem with hjob | hleft
    · exact Or.inr (hdone hjob.symm)
    · exact Or.inl hleft
  · rcases @last_worked _ _ _ _ published _ htopic hgenuine with hsame | ⟨t, ht, hkind, hnew⟩
    · exact Or.inr (hsame.trans hlast)
    · exact Or.inr (hpayload t ht hkind ▸ hnew)

structure Announced (topics : MqttTopics) (a : MqttAdapter) : Prop where
  /-- A greeting has said it, or has still to say it. -/
  greeting : a.link.phase = .greeting →
    Owed a.link.jobs a.published (.availability "online") topics.availability
        (.availability "online")
      ∧ Owed a.link.jobs a.published .systemConfig topics.systemConfig .systemConfig
  online : ∀ stopping, a.link.phase = .online stopping → (∀ j ∈ a.link.jobs, ¬ j.IsSystem)
    ∧ lastPayload a.published topics.availability
      = some (.availability (if stopping then "offline" else "online"))
    ∧ lastPayload a.published topics.systemConfig = some .systemConfig

theorem announced_away {a : MqttAdapter} (h : a.link.phase = .away) : Announced topics a where
  greeting hgreeting := nomatch h.symm.trans hgreeting
  online _ honline := nomatch h.symm.trans honline

section Moves

variable {a a' : MqttAdapter}

/-- A job is done. -/
theorem Announced.worked (hhonest : Honest cfg topics a) {link : Link} {job : Job}
    {transmission : Option Transmission} {before next after : List Job}
    (hrun : job.run topics a.service = .ok (transmission, next))
    (hold : a.link.jobs = before ++ job :: after) (hnew : link.jobs = before ++ (next ++ after))
    (hphase : link.phase = a.link.phase) (h : Announced topics a) :
    Announced topics { a with link, published := a.published ++ transmission.toList } := by
  have hjob := hhonest.jobs job (by simp [hold])
  have hgenuine := (hjob.run hhonest.sound hrun).1
  have hsystem : ∀ t, transmission = some t →
      (t.payload.kind = .availability → job = .availability "online"
        ∧ t.payload = .availability "online")
      ∧ (t.payload.kind = .systemConfig → job = .systemConfig ∧ t.payload = .systemConfig) :=
    fun t ht => Job.Honest.system hjob (ht ▸ hrun)
  have havailability : TopicKind.availability.build topics "" = .ok topics.availability := rfl
  have hsystemConfig : TopicKind.systemConfig.build topics "" = .ok topics.systemConfig := rfl
  refine ⟨fun hgreeting => ?_, fun stopping honline => ?_⟩
  · obtain ⟨hword, hconfig⟩ := h.greeting (hphase.symm.trans hgreeting)
    have hstays : ∀ j ∈ a.link.jobs, j = job ∨ j ∈ link.jobs := by
      intro j hj
      rw [hold] at hj
      rw [hnew]
      simp only [List.mem_append, List.mem_cons] at hj ⊢
      tauto
    refine ⟨Owed.worked havailability hgenuine hstays
        (fun t ht hkind => ((hsystem t ht).1 hkind).2) ?_ hword,
      Owed.worked hsystemConfig hgenuine hstays
        (fun t ht hkind => ((hsystem t ht).2 hkind).2) ?_ hconfig⟩
    · rintro rfl
      cases hrun
      rw [Option.toList_some, lastPayload_append, if_pos rfl]
    · rintro rfl
      cases hrun
      rw [Option.toList_some, lastPayload_append, if_pos rfl]
  · obtain ⟨hnone, hword, hconfig⟩ := h.online stopping (hphase.symm.trans honline)
    have hother : ¬ job.IsSystem := hnone job (by simp [hold])
    refine ⟨fun j hj => ?_, ?_, ?_⟩
    · rcases List.mem_append.mp (hnew ▸ hj) with hj | hj
      · exact hnone j (by simp [hold, hj])
      · rcases List.mem_append.mp hj with hj | hj
        · rcases (Job.runs hrun).mem_next hj with ⟨_, rfl⟩ | ⟨_, rfl⟩ | ⟨_, rfl⟩ | ⟨_, rfl⟩ <;>
            exact fun hsys => hsys
        · exact hnone j (by simp [hold, hj])
    · rcases last_worked havailability hgenuine with hsame | ⟨t, ht, hkind, _⟩
      · exact hsame.trans hword
      · exact absurd (((hsystem t ht).1 hkind).1 ▸ trivial) hother
    · rcases last_worked hsystemConfig hgenuine with hsame | ⟨t, ht, hkind, _⟩
      · exact hsame.trans hconfig
      · exact absurd (((hsystem t ht).2 hkind).1 ▸ trivial) hother

/-- The tasks take on nothing of the system. -/
theorem Announced.takeOn {stopping : Bool} {link : Link} {s : ServiceState} {new : List Job}
    (hold : a.link.phase = .online stopping) (hphase : link.phase = .online stopping)
    (hjobs : ∀ j ∈ link.jobs, j ∈ a.link.jobs ∨ j ∈ new) (hnew : ∀ j ∈ new, ¬ j.IsSystem)
    (h : Announced topics a) : Announced topics { a with service := s, link } := by
  obtain ⟨hnone, hword⟩ := h.online stopping hold
  refine ⟨fun hgreeting => (nomatch hphase.symm.trans hgreeting), fun b hb => ?_⟩
  obtain rfl : stopping = b := LinkPhase.online.inj (hphase.symm.trans hb)
  exact ⟨fun j hj => (hjobs j hj).elim (hnone j) (hnew j), hword⟩

/-- **Every move keeps the last word right.** -/
theorem Announced.move (hhonest : Honest cfg topics a) (hmove : Moves cfg units topics a a')
    (h : Announced topics a) : Announced topics a' := by
  cases hmove with
  | @stays link hsub hphase hgreeting =>
      refine ⟨fun hat => ?_, fun stopping honline => ?_⟩
      · have hold := hphase.symm.trans hat
        have hjobs : link.jobs = a.link.jobs := hgreeting hold
        show Owed link.jobs _ _ _ _ ∧ Owed link.jobs _ _ _ _
        rw [hjobs]
        exact h.greeting hold
      · obtain ⟨hnone, hword⟩ := h.online stopping (hphase.symm.trans honline)
        exact ⟨fun j hj => hnone j (hsub.subset hj), hword⟩
  | left haway => exact announced_away haway
  | observed => exact ⟨h.greeting, h.online⟩
  | connected =>
      refine ⟨fun _ => ⟨Or.inl (List.mem_cons_self ..), Or.inl ?_⟩, nofun⟩
      exact List.mem_cons_of_mem _ (List.mem_cons_self ..)
  | @greeted link hold hdone hphase hjobs =>
      -- nothing is left to do, so everything has been said
      obtain ⟨hword, hconfig⟩ := h.greeting hold
      rw [hdone] at hword hconfig
      refine ⟨fun hat => (nomatch hphase.symm.trans hat), fun stopping honline => ?_⟩
      obtain rfl : false = stopping := LinkPhase.online.inj (hphase.symm.trans honline)
      exact ⟨fun j hj => absurd (hjobs ▸ hj) List.not_mem_nil,
        hword.resolve_left List.not_mem_nil, hconfig.resolve_left List.not_mem_nil⟩
  | @received stopping s link activity hreceipt _ hold hphase hjobs =>
      refine h.takeOn hold hphase (fun j hj => (List.mem_append.mp (hjobs ▸ hj)).symm) fun j hj => ?_
      rcases hreceipt.mem_jobs hj with ⟨_, rfl⟩ | ⟨_, _, rfl⟩ | ⟨_, rfl⟩ | ⟨_, rfl⟩ <;>
        exact fun hsys => hsys
  | @woke stopping link hold hphase hjobs =>
      refine h.takeOn hold hphase (fun j hj => List.mem_append.mp (hjobs ▸ hj)) fun j hj => ?_
      rcases mem_updateJobs hj with ⟨_, rfl⟩ | ⟨_, rfl⟩ <;> exact fun hsys => hsys
  | worked hrun hold hnew hphase _ => exact h.worked hhonest hrun hold hnew hphase
  | @announced link hjobs hold hphase =>
      obtain ⟨hnone, _, hconfig⟩ := h.online false hold
      refine ⟨fun hat => (nomatch hphase.symm.trans hat), fun stopping honline => ?_⟩
      obtain rfl : true = stopping := LinkPhase.online.inj (hphase.symm.trans honline)
      refine ⟨fun j hj => hnone j (hjobs ▸ hj), ?_, ?_⟩
      · exact (lastPayload_append ..).trans (if_pos rfl)
      · rw [lastPayload_append, if_neg]
        · exact hconfig
        · intro heq
          exact nomatch (@TopicKind.build_unique topics .availability .systemConfig "" "" _ rfl
            (congrArg Except.ok heq.symm)).1

end Moves

end JebaoFlow
