import JebaoFlow.Proof.Consumer
import JebaoFlow.Proof.Jobs

/-!
# The retained topics converge

The observer, the consumer and the publisher step in any order, and the connection
may be lost at any publication. Whatever a subscriber does not see yet is accounted
for at every moment: it is marked, or some task has still to publish it. A greeting
asks for everything anew, so a lost connection leaves nothing to account for.
-/

namespace JebaoFlow

open Retained

variable {cfg : AppConfig} {units : UnitSource} {topics : MqttTopics}
  {validator : CommandValidator}

/-! ## The service throughout a run -/

/-- What the service keeps under every call. -/
structure Sound (cfg : AppConfig) (s : ServiceState) : Prop where
  inv : ServiceInv cfg s
  derived : DerivedInv cfg s
  poll : ReadByPoll s
  observer : cfg.runtime.mode = .observer → ObserverInv cfg s

theorem sound_step (units : UnitSource) {s : ServiceState} (op : ServiceOp) (h : Sound cfg s) :
    Sound cfg (serviceStep cfg units s op) where
  inv := serviceInv_step s op h.inv
  derived := derivedInv_step s op h.inv h.derived
  poll := readByPoll_step s op h.inv h.poll
  observer hmode := observerInv_step hmode op h.inv (h.observer hmode)

theorem init_sound {clk : Clock} {s : ServiceState}
    (h : GroupControlService.init cfg units clk = .ok s) : Sound cfg s where
  inv := (init_started h).inv
  derived := init_derived h
  poll := init_readByPoll (init_started h)
  observer _ := init_observer (init_started h)

/-- Collecting the updates touches no record. -/
theorem Sound.collect {s : ServiceState} (h : Sound cfg s) : Sound cfg (waitForUpdates s).2 where
  inv := h.inv.congr rfl rfl rfl
  derived g hg record hrecord := (h.derived g hg record hrecord).congr (fun _ _ => rfl)
  poll := h.poll
  observer hmode := (h.observer hmode).congr rfl rfl

/-! ## Jobs of the two tasks -/

/-- The job publishes what is current when it is done. -/
def Job.Current : Job → Prop
  | .groupSnapshots | .deviceSnapshots | .capturedGroup _ | .capturedDevice _ => False
  | _ => True

/-- The jobs a task has still to do; one that has failed does none of them. -/
def Activity.jobs : Activity → Option (List Job)
  | .waiting => some []
  | .busy jobs => some jobs
  | .failed _ => none

theorem Job.Current.carries {job : Job} (h : job.Current) (id : String) :
    (∀ state, ¬ (deviceReading cfg).carries job id state)
      ∧ ∀ state, ¬ (groupReading cfg).carries job id state := by
  cases job <;> simp [Job.Current, deviceReading, groupReading] at *

theorem Job.Runs.current {s : ServiceState} {job : Job} {transmission : Option Transmission}
    {next : List Job} (hruns : Job.Runs topics s job transmission next) (h : job.Current) :
    ∀ i ∈ next, i.Current := by
  intro i hi
  cases hruns with
  | groupSnapshots => cases h
  | deviceSnapshots => cases h
  | groupAndMembers =>
      obtain ⟨_, _, rfl⟩ := List.mem_map.mp hi
      trivial
  | deviceAndGroups =>
      obtain ⟨_, _, rfl⟩ := List.mem_map.mp hi
      trivial
  | elsewhere => cases hi
  | capturedGroup => cases hi
  | capturedDevice => cases hi
  | groupState => cases hi
  | deviceState => cases hi

section Steps

variable {s s' : ServiceState} {jobs jobs' : List Job} {published : List Transmission}

theorem leftToJobs_device {job : Job} {did : String} (hcurrent : ∀ j ∈ jobs, j.Current)
    (hjob : job ∈ jobs) (hasks : (deviceReading cfg).asks job did) :
    (deviceMirror topics s jobs published).LeftToJobs (deviceReading cfg) did :=
  ⟨⟨job, hjob, hasks⟩, fun state ⟨j, hj, hcarries⟩ =>
    ((hcurrent j hj).carries did).1 state hcarries⟩

theorem leftToJobs_group {job : Job} {gid : String} (hcurrent : ∀ j ∈ jobs, j.Current)
    (hjob : job ∈ jobs) (hasks : (groupReading cfg).asks job gid) :
    (groupMirror topics s jobs published).LeftToJobs (groupReading cfg) gid :=
  ⟨⟨job, hjob, hasks⟩, fun state ⟨j, hj, hcarries⟩ =>
    ((hcurrent j hj).carries gid).2 state hcarries⟩

/-- What a task takes on covers what it wrote and the marks it took away. -/
theorem Mirrored.takeOn (hkeep : ∀ j ∈ jobs, j ∈ jobs') (hcurrent : ∀ j ∈ jobs', j.Current)
    (hdevices : ∀ did ∈ s.dirtyDevices, did ∈ s'.dirtyDevices
      ∨ ∃ j ∈ jobs', (deviceReading cfg).asks j did)
    (hgroups : ∀ gid ∈ s.dirtyGroups, gid ∈ s'.dirtyGroups
      ∨ ∃ j ∈ jobs', (groupReading cfg).asks j gid)
    (hwritten : ∀ did, s'.deviceStates.get? did = s.deviceStates.get? did
      ∨ ∃ j ∈ jobs', (deviceReading cfg).asks j did)
    (hstates : cfg.runtime.mode = .observer → s'.states = s.states)
    (h : Mirrored cfg topics s jobs published) : Mirrored cfg topics s' jobs' published where
  devices d hd := by
    refine Accounted.advance (m := deviceMirror topics s jobs published)
      (fun _ _ _ => SameDevice.trans) hkeep ?_ rfl ?_ ?_ (h.devices d hd)
    · exact fun j hj state hcarries =>
        absurd hcarries (((hcurrent j hj).carries d.id).1 state)
    · intro hmarked
      rcases hdevices d.id hmarked with hm | ⟨j, hj, hasks⟩
      · exact Or.inl hm
      · exact Or.inr (leftToJobs_device hcurrent hj hasks)
    · rcases hwritten d.id with hsame | ⟨j, hj, hasks⟩
      · exact Or.inr (Or.inr fun c hc => ⟨c, hsame.trans hc, SameDevice.refl c⟩)
      · exact Or.inr (Or.inl (leftToJobs_device hcurrent hj hasks))
  groups hmode g hg := by
    refine Accounted.advance (m := groupMirror topics s jobs published)
      (fun _ _ _ => SameReport.trans) hkeep ?_ rfl ?_ ?_ (h.groups hmode g hg)
    · exact fun j hj state hcarries =>
        absurd hcarries (((hcurrent j hj).carries g.id).2 state)
    · intro hmarked
      rcases hgroups g.id hmarked with hm | ⟨j, hj, hasks⟩
      · exact Or.inl hm
      · exact Or.inr (leftToJobs_group hcurrent hj hasks)
    · refine Or.inr (Or.inr fun c hc => ⟨c, ?_, SameReport.refl c⟩)
      exact (congrArg (fun states => states.get? g.id) (hstates hmode)).trans hc

/-! ## The steps -/

/-- An observation marks what it changes. -/
theorem Mirrored.observe (hsound : Sound cfg s) (clk : Clock) (event : ObserverEvent)
    (h : Mirrored cfg topics s jobs published) :
    Mirrored cfg topics (recordObserverEvent cfg units clk event s).2 jobs published := by
  obtain ⟨hmore, _⟩ := recordObserverEvent_marks units clk event hsound.inv
  refine ⟨fun d hd => ?_, fun hmode g hg => ?_⟩
  · obtain ⟨a, ha⟩ := hsound.inv.device_present d hd
    refine Accounted.advance (m := deviceMirror topics s jobs published)
      (fun _ _ _ => SameDevice.trans) (fun _ hj => hj) (fun _ hj _ _ => hj) rfl
      (fun hm => Or.inl (hmore.devices hm)) ?_ (h.devices d hd)
    rcases observe_device clk event units hsound.inv hsound.poll ha with hm | ⟨b, hb, hab⟩
    · exact Or.inl hm
    · refine Or.inr (Or.inr fun c hc => ⟨b, hb, ?_⟩)
      obtain rfl : a = c := Option.some.inj (ha.symm.trans hc)
      exact hab
  · obtain ⟨a, ha⟩ := hsound.inv.group_present g hg
    refine Accounted.advance (m := groupMirror topics s jobs published)
      (fun _ _ _ => SameReport.trans) (fun _ hj => hj) (fun _ hj _ _ => hj) rfl
      (fun hm => Or.inl (hmore.groups hm)) ?_ (h.groups hmode g hg)
    rcases observe_group clk event units hmode hsound.inv hsound.poll hsound.derived
      (hsound.observer hmode) hg ha with hm | ⟨b, hb, hab⟩
    · exact Or.inl hm
    · refine Or.inr (Or.inr fun c hc => ⟨b, hb, ?_⟩)
      obtain rfl : a = c := Option.some.inj (ha.symm.trans hc)
      exact hab

/-- A new connection publishes everything. -/
theorem mirrored_greeting (s : ServiceState) (published : List Transmission) :
    Mirrored cfg topics s MqttAdapter.greetingJobs published where
  devices d _ := by
    refine Mirror.LeftToJobs.accounted ⟨⟨.deviceSnapshots, ?_, trivial⟩, ?_⟩
    · simp [deviceMirror, MqttAdapter.greetingJobs]
    · rintro state ⟨j, hj, rfl, _⟩
      simp [deviceMirror, MqttAdapter.greetingJobs] at hj
  groups _ g _ := by
    refine Mirror.LeftToJobs.accounted ⟨⟨.groupSnapshots, ?_, trivial⟩, ?_⟩
    · simp [groupMirror, MqttAdapter.greetingJobs]
    · rintro state ⟨j, hj, rfl, _⟩
      simp [groupMirror, MqttAdapter.greetingJobs] at hj

/-- The publisher takes the marks on as jobs. -/
theorem Mirrored.collect (hcurrent : ∀ j ∈ jobs, j.Current)
    (h : Mirrored cfg topics s jobs published) :
    Mirrored cfg topics (waitForUpdates s).2 (jobs ++ MqttAdapter.updateJobs (waitForUpdates s).1)
        published
      ∧ ∀ j ∈ jobs ++ MqttAdapter.updateJobs (waitForUpdates s).1, j.Current := by
  have hupdates : ∀ j ∈ MqttAdapter.updateJobs (waitForUpdates s).1, j.Current := by
    intro j hj
    rcases List.mem_append.mp hj with hj | hj
    · obtain ⟨_, _, rfl⟩ := List.mem_map.mp hj
      trivial
    · obtain ⟨_, _, rfl⟩ := List.mem_map.mp hj
      trivial
  have hall : ∀ j ∈ jobs ++ MqttAdapter.updateJobs (waitForUpdates s).1, j.Current := by
    intro j hj
    rcases List.mem_append.mp hj with hj | hj
    · exact hcurrent j hj
    · exact hupdates j hj
  refine ⟨Mirrored.takeOn (s := s) (fun j hj => List.mem_append_left _ hj) hall ?_ ?_
    (fun _ => Or.inl rfl) (fun _ => rfl) h, hall⟩
  · intro did hdid
    refine Or.inr ⟨.deviceState did, List.mem_append_right _ (List.mem_append_left _ ?_), rfl⟩
    exact List.mem_map_of_mem ((Finset.mem_sort _).mpr hdid)
  · intro gid hgid
    refine Or.inr ⟨.groupState gid, List.mem_append_right _ (List.mem_append_right _ ?_), rfl⟩
    exact List.mem_map_of_mem ((Finset.mem_sort _).mpr hgid)

/-! ## A message -/

/-- A group command writes no device but the members it will publish. -/
theorem ApplyOutcome.device {clk : Clock} {groupId : String} {command : GroupCommand}
    {result : GroupCommandResult} (did : String)
    (hout : ApplyOutcome cfg units clk groupId command s (.ok result) s') :
    s'.deviceStates.get? did = s.deviceStates.get? did
      ∨ result.accepted = true ∧ ∃ g ∈ cfg.groups, g.id = groupId ∧ did ∈ g.deviceIds := by
  cases hout with
  | replayed => exact Or.inl rfl
  | unknown => exact Or.inl (by rw [remember_deviceStates])
  | rejected => exact Or.inl (by rw [remember_deviceStates])
  | @accepted g _ _ _ hg hid _ _ _ hacc =>
      by_cases hdid : did ∈ g.deviceIds
      · exact Or.inr ⟨hacc.accepted, g, hg, hid, hdid⟩
      · exact Or.inl (hacc.frame did hdid)

/-- A device command writes no device but its own. -/
theorem DeviceOutcome.device {clk : Clock} {deviceId : String} {command : DeviceCommand}
    {result : DeviceCommandResult} (did : String)
    (hout : DeviceOutcome cfg units clk deviceId command s (.ok result) s') :
    s'.deviceStates.get? did = s.deviceStates.get? did
      ∨ result.accepted = true ∧ deviceId = did := by
  have hstored : ∀ {d : DeviceConfig} {updated : DeviceStatePayload}, d.id = deviceId →
      Stored cfg units clk d updated result s s' →
      s'.deviceStates.get? did = s.deviceStates.get? did
        ∨ result.accepted = true ∧ deviceId = did := by
    intro d updated hid hst
    by_cases heq : deviceId = did
    · exact Or.inr ⟨hst.accepted, heq⟩
    · left
      rw [hst.device, Dict.get?_set_ne _ _ (hid ▸ heq)]
  cases hout with
  | replayed => exact Or.inl rfl
  | unknown => exact Or.inl (by rw [rememberDevice_deviceStates])
  | rejected => exact Or.inl (by rw [rememberDevice_deviceStates])
  | resumed _ _ hid _ _ _ _ _ _ _ _ hst => exact hstored hid hst
  | patched _ _ hid _ _ _ hst => exact hstored hid hst

/-- What the consumer makes of a message, up to the first publication. -/
inductive Receipt (cfg : AppConfig) (units : UnitSource) (s : ServiceState) :
    Activity → ServiceState → Prop where
  | ignored : Receipt cfg units s .waiting s
  | complaint (body : PublicationBody) : Receipt cfg units s (.busy [.complaint body]) s
  | failed (error : TaskError) : Receipt cfg units s (.failed error) s
  | raised {error : TaskError} {s' : ServiceState} (op : ServiceOp)
      (hs : serviceStep cfg units s op = s') : Receipt cfg units s (.failed error) s'
  | group {groupId : String} {command : GroupCommand} {clk : Clock}
      {result : GroupCommandResult} {s' : ServiceState}
      (happly : apply cfg units clk groupId command s = (.ok result, s')) :
      Receipt cfg units s (.busy (.result command.requestId (.groupResult result)
        :: if result.accepted then [.groupAndMembers groupId] else [])) s'
  | device {deviceId : String} {command : DeviceCommand} {clk : Clock}
      {result : DeviceCommandResult} {s' : ServiceState}
      (happly : applyDevice cfg units clk deviceId command s = (.ok result, s')) :
      Receipt cfg units s (.busy (.result command.requestId (.deviceResult result)
        :: if result.accepted then [.deviceAndGroups deviceId] else [])) s'

/-- **Every message is received in one of the listed ways.** -/
theorem receipt (cfg : AppConfig) (units : UnitSource) (topics : MqttTopics)
    (validator : CommandValidator) (clk : Clock) (message : Message) (s : ServiceState) :
    Receipt cfg units s (MqttAdapter.receive topics cfg units validator clk message s).1
      (MqttAdapter.receive topics cfg units validator clk message s).2 := by
  unfold MqttAdapter.receive
  split
  · rename_i deviceId _
    split
    · split
      · exact .complaint _
      · exact .failed _
    · rename_i command _
      split
      · rename_i happly
        exact .raised (.applyDevice deviceId command clk) (congrArg Prod.snd happly)
      · rename_i happly
        exact .device happly
  · split
    · exact .ignored
    · rename_i groupId _
      split
      · split
        · exact .complaint _
        · exact .failed _
      · rename_i command _
        split
        · rename_i happly
          exact .raised (.apply groupId command clk) (congrArg Prod.snd happly)
        · rename_i happly
          exact .group happly

theorem Receipt.sound {activity : Activity} (h : Receipt cfg units s activity s')
    (hsound : Sound cfg s) : Sound cfg s' := by
  cases h with
  | ignored => exact hsound
  | complaint => exact hsound
  | failed => exact hsound
  | raised op hs => exact hs ▸ sound_step units op hsound
  | @group groupId command clk _ _ happly =>
      have hs : serviceStep cfg units s (.apply groupId command clk) = s' :=
        congrArg Prod.snd happly
      exact hs ▸ sound_step units _ hsound
  | @device deviceId command clk _ _ happly =>
      have hs : serviceStep cfg units s (.applyDevice deviceId command clk) = s' :=
        congrArg Prod.snd happly
      exact hs ▸ sound_step units _ hsound

/-- A task takes on new jobs; the other task's stay, and marks are only added. -/
theorem Mirrored.receive {new : List Job} (hnew : ∀ j ∈ new, j.Current)
    (hcurrent : ∀ j ∈ jobs, j.Current) (hmore : MarksMore s s')
    (hwritten : ∀ did, s'.deviceStates.get? did = s.deviceStates.get? did
      ∨ ∃ j ∈ new, (deviceReading cfg).asks j did)
    (hstates : cfg.runtime.mode = .observer → s'.states = s.states)
    (h : Mirrored cfg topics s jobs published) :
    Mirrored cfg topics s' (new ++ jobs) published ∧ ∀ j ∈ new ++ jobs, j.Current := by
  have hall : ∀ j ∈ new ++ jobs, j.Current := by
    intro j hj
    rcases List.mem_append.mp hj with hj | hj
    · exact hnew j hj
    · exact hcurrent j hj
  refine ⟨Mirrored.takeOn (s := s) (fun j hj => List.mem_append_right _ hj) hall
    (fun did hdid => Or.inl (hmore.devices hdid)) (fun gid hgid => Or.inl (hmore.groups hgid))
    (fun did => ?_) hstates h, hall⟩
  rcases hwritten did with hkept | ⟨j, hj, hasks⟩
  · exact Or.inl hkept
  · exact Or.inr ⟨j, List.mem_append_left _ hj, hasks⟩

/-- The result of a command, and the states behind it. -/
theorem answer_current {requestId : String} {body : PublicationBody} {accepted : Bool}
    {states : Job} (h : states.Current) :
    ∀ j ∈ Job.result requestId body :: if accepted then [states] else [], j.Current := by
  intro j hj
  rcases List.mem_cons.mp hj with rfl | hj
  · trivial
  · split at hj
    · obtain rfl := List.mem_singleton.mp hj
      exact h
    · cases hj

/-- What a message makes the service write is published behind the result. -/
theorem Receipt.mirrored {activity : Activity} {new : List Job}
    (hreceipt : Receipt cfg units s activity s') (hnew : activity.jobs = some new)
    (hsound : Sound cfg s) (hcurrent : ∀ j ∈ jobs, j.Current)
    (h : Mirrored cfg topics s jobs published) :
    Mirrored cfg topics s' (new ++ jobs) published ∧ ∀ j ∈ new ++ jobs, j.Current := by
  have hsame : MarksMore s s := (SameBesides.refl s).marksMore
  cases hreceipt with
  | ignored =>
      cases hnew
      exact h.receive (fun j hj => absurd hj List.not_mem_nil) hcurrent hsame
        (fun _ => Or.inl rfl) (fun _ => rfl)
  | complaint body =>
      cases hnew
      refine h.receive (fun j hj => ?_) hcurrent hsame (fun _ => Or.inl rfl) (fun _ => rfl)
      obtain rfl := List.mem_singleton.mp hj
      trivial
  | failed => cases hnew
  | raised => cases hnew
  | @group groupId command clk result _ happly =>
      cases hnew
      have hout := apply_outcome units clk groupId command hsound.inv
      have hanswer := apply_answer cfg units clk groupId command s
      rw [happly] at hout hanswer
      refine h.receive (answer_current trivial) hcurrent hanswer.marksMore (fun did => ?_)
        (fun hmode => hout.changed.states_kept hmode (fun _ _ => ServiceOp.noConfusion))
      -- an accepted command may have written the members, which are published next
      rcases hout.device did with hkept | ⟨haccepted, hmember⟩
      · exact Or.inl hkept
      · rw [haccepted, if_pos rfl]
        exact Or.inr ⟨.groupAndMembers groupId, by simp, hmember⟩
  | @device deviceId command clk result _ happly =>
      cases hnew
      have hout := applyDevice_outcome units clk deviceId command hsound.inv
      have hanswer := applyDevice_answer cfg units clk deviceId command s
      rw [happly] at hout hanswer
      refine h.receive (answer_current trivial) hcurrent hanswer.marksMore (fun did => ?_)
        (fun hmode => hout.changed.states_kept hmode (fun _ _ => ServiceOp.noConfusion))
      rcases hout.device did with hkept | ⟨haccepted, hown⟩
      · exact Or.inl hkept
      · rw [haccepted, if_pos rfl]
        exact Or.inr ⟨.deviceAndGroups deviceId, by simp, hown⟩

/-! ## One step of the adapter -/

/-- A task that goes on is done, raises, or has done one job. -/
theorem proceed_cases (topics : MqttTopics) (s : ServiceState) (jobs : List Job) :
    (jobs = [] ∧ MqttAdapter.proceed topics s jobs = (.waiting, []))
      ∨ (∃ error, MqttAdapter.proceed topics s jobs = (.failed error, []))
      ∨ ∃ job rest transmission next, jobs = job :: rest ∧ Job.Runs topics s job transmission next
        ∧ MqttAdapter.proceed topics s jobs = (.busy (next ++ rest), transmission.toList) := by
  cases jobs with
  | nil => exact Or.inl ⟨rfl, rfl⟩
  | cons job rest =>
      unfold MqttAdapter.proceed
      dsimp only
      cases hrun : job.run topics s with
      | error e => exact Or.inr (Or.inl ⟨.raised e, rfl⟩)
      | ok out =>
          obtain ⟨transmission, next⟩ := out
          exact Or.inr (Or.inr ⟨job, rest, transmission, next, rfl, Job.runs hrun, rfl⟩)

/-- While it is connected, everything is accounted for by the jobs of its tasks. -/
def Tracked (cfg : AppConfig) (topics : MqttTopics) (s : ServiceState)
    (published : List Transmission) : Link → Prop
  | .greeting jobs => Mirrored cfg topics s jobs published
  | .online _ consumer publisher => ∀ xs ys, consumer.jobs = some xs → publisher.jobs = some ys →
      Mirrored cfg topics s (xs ++ ys) published ∧ ∀ j ∈ xs ++ ys, j.Current
  | .disconnected | .ended _ => True

structure Converging (cfg : AppConfig) (topics : MqttTopics) (a : MqttAdapter) : Prop where
  sound : Sound cfg a.service
  tracked : Tracked cfg topics a.service a.published a.link

theorem Tracked.observe (hsound : Sound cfg s) (clk : Clock) (event : ObserverEvent) {link : Link}
    (h : Tracked cfg topics s published link) :
    Tracked cfg topics (recordObserverEvent cfg units clk event s).2 published link := by
  cases link with
  | disconnected => trivial
  | ended => trivial
  | greeting jobs => exact Mirrored.observe hsound clk event h
  | online stopping consumer publisher =>
      intro xs ys hxs hys
      obtain ⟨hmirrored, hcurrent⟩ := h xs ys hxs hys
      exact ⟨hmirrored.observe hsound clk event, hcurrent⟩

/-- The greeting goes on, and ends in two waiting tasks. -/
theorem converging_greet (hsound : Sound cfg s) (h : Mirrored cfg topics s jobs published) :
    Converging cfg topics (MqttAdapter.step topics cfg units validator
      { service := s, link := .greeting jobs, published } .greet) := by
  unfold MqttAdapter.step
  dsimp only
  rcases proceed_cases topics s jobs with ⟨rfl, heq⟩ | ⟨error, heq⟩ |
    ⟨job, rest, transmission, next, rfl, hruns, heq⟩
  · rw [heq]
    refine ⟨hsound, fun xs ys hxs hys => ?_⟩
    cases hxs
    cases hys
    exact ⟨h, fun j hj => absurd hj List.not_mem_nil⟩
  · rw [heq]
    refine ⟨hsound, ?_⟩
    cases error <;> trivial
  · rw [heq]
    exact ⟨hsound, h.work hsound.inv hruns (Replaced.head job next rest)⟩

/-- One of the tasks goes on, between the jobs of the others. -/
theorem Mirrored.proceed {before after new : List Job} (hsound : Sound cfg s)
    (h : Mirrored cfg topics s (before ++ (jobs ++ after)) published)
    (hcurrent : ∀ j ∈ before ++ (jobs ++ after), j.Current)
    (hnew : (MqttAdapter.proceed topics s jobs).1.jobs = some new) :
    Mirrored cfg topics s (before ++ (new ++ after))
        (published ++ (MqttAdapter.proceed topics s jobs).2)
      ∧ ∀ j ∈ before ++ (new ++ after), j.Current := by
  rcases proceed_cases topics s jobs with ⟨rfl, heq⟩ | ⟨error, heq⟩ |
    ⟨job, rest, transmission, next, rfl, hruns, heq⟩
  · rw [heq] at hnew ⊢
    cases hnew
    rw [List.append_nil published]
    exact ⟨h, hcurrent⟩
  · rw [heq] at hnew
    cases hnew
  · rw [heq] at hnew ⊢
    cases hnew
    have hreplaced := ((Replaced.head job next rest).append after).prepend before
    refine ⟨h.work hsound.inv hruns hreplaced, fun j hj => ?_⟩
    rcases hreplaced.only j hj with hold | hfollows
    · exact hcurrent j hold
    · exact hruns.current (hcurrent job hreplaced.mem) j hfollows

/-- The consumer goes on. -/
theorem tracked_consume (hsound : Sound cfg s) {stopping : Bool} {publisher : Activity}
    (h : Tracked cfg topics s published (.online stopping (.busy jobs) publisher)) :
    Tracked cfg topics s (published ++ (MqttAdapter.proceed topics s jobs).2)
      (.online stopping (MqttAdapter.proceed topics s jobs).1 publisher) := by
  intro xs ys hxs hys
  obtain ⟨hmirrored, hcurrent⟩ := h jobs ys rfl hys
  rw [← List.nil_append (jobs ++ ys)] at hmirrored hcurrent
  rw [← List.nil_append (xs ++ ys)]
  exact hmirrored.proceed hsound hcurrent hxs

/-- The publisher goes on. -/
theorem tracked_publish (hsound : Sound cfg s) {stopping : Bool} {consumer : Activity}
    (h : Tracked cfg topics s published (.online stopping consumer (.busy jobs))) :
    Tracked cfg topics s (published ++ (MqttAdapter.proceed topics s jobs).2)
      (.online stopping consumer (MqttAdapter.proceed topics s jobs).1) := by
  intro xs ys hxs hys
  obtain ⟨hmirrored, hcurrent⟩ := h xs jobs hxs rfl
  rw [← List.append_nil jobs] at hmirrored hcurrent
  rw [← List.append_nil ys]
  exact hmirrored.proceed hsound hcurrent hys

/-- Going offline is announced on a topic of its own. -/
theorem tracked_stop (hsound : Sound cfg s) {stopping stopping' : Bool}
    {consumer publisher : Activity}
    (h : Tracked cfg topics s published (.online stopping consumer publisher)) :
    Tracked cfg topics s (published ++ [{
        topic := topics.availability, payload := .availability "offline", retain := true }])
      (.online stopping' consumer publisher) := by
  intro xs ys hxs hys
  obtain ⟨hmirrored, hcurrent⟩ := h xs ys hxs hys
  refine ⟨?_, hcurrent⟩
  have hjob : ∀ j ∈ .availability "offline" :: (xs ++ ys), j.Current := by
    intro j hj
    rcases List.mem_cons.mp hj with rfl | hj
    · trivial
    · exact hcurrent j hj
  have hpending : Mirrored cfg topics s (.availability "offline" :: (xs ++ ys)) published :=
    hmirrored.takeOn (fun j hj => List.mem_cons_of_mem _ hj) hjob (fun _ h => Or.inl h)
      (fun _ h => Or.inl h) (fun _ => Or.inl rfl) (fun _ => rfl)
  have hruns : Job.Runs topics s (.availability "offline") (some {
      topic := topics.availability, payload := .availability "offline", retain := true }) [] :=
    Job.runs rfl
  exact hpending.work hsound.inv hruns (Replaced.head _ [] (xs ++ ys))

end Steps

/-- **Every step keeps everything accounted for.** -/
theorem converging_step (a : MqttAdapter) (event : MqttAdapter.Event)
    (h : Converging cfg topics a) :
    Converging cfg topics (MqttAdapter.step topics cfg units validator a event) := by
  obtain ⟨s, link, published⟩ := a
  obtain ⟨hsound, htracked⟩ := h
  dsimp only at hsound htracked
  -- in the other states of the link, or of the task it is for, an event changes nothing
  cases event with
  | observe event clk =>
      exact ⟨sound_step units (.observe event clk) hsound, htracked.observe hsound clk event⟩
  | connect =>
      cases link with
      | disconnected => exact ⟨hsound, mirrored_greeting s published⟩
      | greeting | online | ended => exact ⟨hsound, htracked⟩
  | greet =>
      cases link with
      | greeting jobs => exact converging_greet hsound htracked
      | disconnected | online | ended => exact ⟨hsound, htracked⟩
  | greetingLost =>
      cases link with
      | greeting jobs => exact ⟨hsound, trivial⟩
      | disconnected | online | ended => exact ⟨hsound, htracked⟩
  | receive message clk =>
      cases link with
      | online stopping consumer publisher =>
          cases consumer with
          | waiting =>
              have hreceipt := receipt cfg units topics validator clk message s
              refine ⟨hreceipt.sound hsound, fun xs ys hxs hys => ?_⟩
              obtain ⟨hmirrored, hcurrent⟩ := htracked [] ys rfl hys
              exact hreceipt.mirrored hxs hsound hcurrent hmirrored
          | busy | failed => exact ⟨hsound, htracked⟩
      | disconnected | greeting | ended => exact ⟨hsound, htracked⟩
  | consume =>
      cases link with
      | online stopping consumer publisher =>
          cases consumer with
          | busy jobs => exact ⟨hsound, tracked_consume hsound htracked⟩
          | waiting | failed => exact ⟨hsound, htracked⟩
      | disconnected | greeting | ended => exact ⟨hsound, htracked⟩
  | consumerLost =>
      cases link with
      | online stopping consumer publisher =>
          cases consumer with
          | failed => exact ⟨hsound, htracked⟩
          | waiting | busy => exact ⟨hsound, fun _ _ hxs => by cases hxs⟩
      | disconnected | greeting | ended => exact ⟨hsound, htracked⟩
  | wake =>
      cases link with
      | online stopping consumer publisher =>
          cases publisher with
          | waiting =>
              unfold MqttAdapter.step
              dsimp only
              split
              · refine ⟨hsound.collect, fun xs ys hxs hys => ?_⟩
                cases hys
                obtain ⟨hmirrored, hcurrent⟩ := htracked xs [] hxs rfl
                rw [List.append_nil] at hmirrored hcurrent
                exact hmirrored.collect hcurrent
              · exact ⟨hsound, htracked⟩
          | busy | failed => exact ⟨hsound, htracked⟩
      | disconnected | greeting | ended => exact ⟨hsound, htracked⟩
  | publish =>
      cases link with
      | online stopping consumer publisher =>
          cases publisher with
          | busy jobs => exact ⟨hsound, tracked_publish hsound htracked⟩
          | waiting | failed => exact ⟨hsound, htracked⟩
      | disconnected | greeting | ended => exact ⟨hsound, htracked⟩
  | publisherLost =>
      cases link with
      | online stopping consumer publisher =>
          cases publisher with
          | busy jobs => exact ⟨hsound, fun _ _ _ hys => by cases hys⟩
          | waiting | failed => exact ⟨hsound, htracked⟩
      | disconnected | greeting | ended => exact ⟨hsound, htracked⟩
  | stop =>
      unfold MqttAdapter.step
      dsimp only
      split
      · exact ⟨hsound, trivial⟩
      · exact ⟨hsound, htracked⟩
      · exact ⟨hsound, htracked⟩
      · exact ⟨hsound, tracked_stop hsound htracked⟩
      · exact ⟨hsound, htracked⟩
  | leave =>
      unfold MqttAdapter.step
      dsimp only
      split
      · exact ⟨hsound, trivial⟩
      · rename_i error _
        exact ⟨hsound, by cases error <;> trivial⟩
      · rename_i error _
        exact ⟨hsound, by cases error <;> trivial⟩
      · exact ⟨hsound, htracked⟩

/-! ## Runs -/

theorem idle_online {link : Link} (h : link.idle = true) :
    ∃ stopping, link = .online stopping .waiting .waiting := by
  unfold Link.idle at h
  split at h
  · exact ⟨_, rfl⟩
  · cases h

/--
**The retained topics converge and lose no update.**

Take any run of the adapter from the start of the service: observations, messages,
the steps of the three tasks and lost connections in any order. Whenever it is
connected, its consumer idle, its publisher waiting and nothing is marked, the last
payload on every device topic is the device's current record, `last_seen_at` and the
schedule's device clock aside. In observer mode the last payload on every group topic
is the group's, `last_seen_at` and the targets of the moment aside. Attributes and
schedules are equal where the host calls them equal.
-/
theorem retained_topics_converge {s₀ : ServiceState} {clk₀ : Clock}
    (hinit : GroupControlService.init cfg units clk₀ = .ok s₀)
    (events : List MqttAdapter.Event) :
    let a := Run.exec (MqttAdapter.step topics cfg units validator) { service := s₀ } events
    a.Quiet →
      (∀ d ∈ cfg.devices, ∃ topic device state, topics.deviceState d.id = .ok topic
        ∧ a.service.deviceStates.get? d.id = some device
        ∧ lastPayload a.published topic = some (.message (.deviceState state))
        ∧ SameDevice state device)
      ∧ (cfg.runtime.mode = .observer → ∀ g ∈ cfg.groups, ∃ topic group state,
        topics.groupState g.id = .ok topic ∧ a.service.states.get? g.id = some group
        ∧ lastPayload a.published topic = some (.message (.groupState state))
        ∧ SameReport state group) := by
  intro a hquiet
  have hstart : Converging cfg topics { service := s₀ } := ⟨init_sound hinit, trivial⟩
  have hconverging : Converging cfg topics a :=
    Run.invariant_exec (fun a event h => converging_step a event h) hstart
  obtain ⟨hidle, hdevices, hgroups⟩ := hquiet
  obtain ⟨stopping, hlink⟩ := idle_online hidle
  have htracked := hconverging.tracked
  rw [hlink] at htracked
  obtain ⟨hmirrored, _⟩ := htracked [] [] rfl rfl
  refine ⟨fun d hd => ?_, fun hmode g hg => ?_⟩
  · have hunmarked : d.id ∉ a.service.dirtyDevices := hdevices ▸ Finset.notMem_empty d.id
    obtain ⟨state, hpublished, device, hdevice, hsame⟩ :=
      (hmirrored.devices d hd).settled hunmarked rfl
    obtain ⟨topic, htopic, hlast⟩ := publishedDevice_eq_some hpublished
    exact ⟨topic, device, state, htopic, hdevice, hlast, hsame⟩
  · have hunmarked : g.id ∉ a.service.dirtyGroups := hgroups ▸ Finset.notMem_empty g.id
    obtain ⟨state, hpublished, group, hgroup, hsame⟩ :=
      (hmirrored.groups hmode g hg).settled hunmarked rfl
    obtain ⟨topic, htopic, hlast⟩ := publishedGroup_eq_some hpublished
    exact ⟨topic, group, state, htopic, hgroup, hlast, hsame⟩

/--
A connection lost between the two snapshots of a greeting, a poll while there is no
connection, and another one, a refused command and the publisher's turn on the next.
-/
def interruptedRun : List MqttAdapter.Event :=
  [.connect, .greet, .greet, .greet, .greet, .greetingLost, .observe leftPoll (fun _ => 0),
    .connect] ++ List.replicate 9 .greet
    ++ [.observe leftPollAgain (fun _ => 1), .receive (stopOn "flow").message (fun _ => 1),
      .consume, .wake, .publish, .consume, .publish, .publish]

/-- The pump's last payload is its record after all of that. -/
theorem retained_topics_converge_watchedTank :
    let a := Run.exec (MqttAdapter.step ⟨"flow"⟩ watchedTank steadyUnits stopValidator)
      { service := startState watchedTank steadyUnits (fun _ => 0) } interruptedRun
    (∃ topic device state, (⟨"flow"⟩ : MqttTopics).deviceState "left" = .ok topic
      ∧ a.service.deviceStates.get? "left" = some device
      ∧ lastPayload a.published topic = some (.message (.deviceState state))
      ∧ SameDevice state device)
    ∧ ∃ topic group state, (⟨"flow"⟩ : MqttTopics).groupState "flow" = .ok topic
      ∧ a.service.states.get? "flow" = some group
      ∧ lastPayload a.published topic = some (.message (.groupState state))
      ∧ SameReport state group := by
  intro a
  have hinit := @startState_eq watchedTank steadyUnits (fun _ => 0) (by decide +kernel)
  have hquiet : a.Quiet := by decide +kernel
  obtain ⟨hdevices, hgroups⟩ := retained_topics_converge hinit interruptedRun hquiet
  exact ⟨hdevices leftPump (List.mem_cons_self ..), hgroups rfl reefFlow (List.mem_cons_self ..)⟩

end JebaoFlow
