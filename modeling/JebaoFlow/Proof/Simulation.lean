import JebaoFlow.Mqtt.Connection

/-!
# The consumer on its own is part of the adapter

`Mqtt.Client` handles a message in one go and reads off a schedule what happens
during each publication. Under a schedule of observations that is a run of the
adapter: the consumer takes its jobs one by one, the observer steps in between,
and service, publications and exceptions are the same.
-/

namespace JebaoFlow

open Run

variable {cfg : AppConfig} {units : UnitSource} {topics : MqttTopics}
  {validator : CommandValidator} {schedule : Schedule}

/-- The consumer's publication, as the client transmits it. -/
def Publication.transmission (p : Publication) : Transmission :=
  { topic := p.topic, payload := .message p.body, retain := p.retain }

/-- Nothing but observations. -/
def Observes (steps : List Background) : Prop :=
  ∀ b ∈ steps, ∃ event clk, b = .observe event clk

/-- Where a task is when its first jobs are over, or one of them has raised. -/
def Activity.after (rest : List Job) : Except PyError Unit → Activity
  | .ok () => .busy rest
  | .error e => .failed (.raised e)

/-- The adapter with its consumer suspended somewhere. -/
def MqttAdapter.consuming (a : AdapterState) (stopping : Bool) (consumer publisher : Activity)
    (earlier : List Transmission) : MqttAdapter where
  service := a.service
  link := .online stopping consumer publisher
  published := earlier ++ a.published.map Publication.transmission

/-- Some run of the adapter takes the consumer through these jobs to this outcome. -/
def Simulated (cfg : AppConfig) (units : UnitSource) (topics : MqttTopics)
    (validator : CommandValidator) (jobs : List Job) (a : AdapterState)
    (out : Except PyError Unit × AdapterState) : Prop :=
  ∀ stopping publisher rest earlier, ∃ events,
    exec (MqttAdapter.step topics cfg units validator)
        (.consuming a stopping (.busy (jobs ++ rest)) publisher earlier) events
      = .consuming out.2 stopping (.after rest out.1) publisher earlier

/-- Waiting while the observer steps. -/
theorem wait_simulated (cfg : AppConfig) (units : UnitSource) (topics : MqttTopics)
    (validator : CommandValidator) (steps : List Background) (hsteps : Observes steps)
    (a : AdapterState) (stopping : Bool) (consumer publisher : Activity)
    (earlier : List Transmission) :
    ∃ events, exec (MqttAdapter.step topics cfg units validator)
        (.consuming a stopping consumer publisher earlier) events
      = .consuming (a.wait cfg units steps) stopping consumer publisher earlier := by
  induction steps generalizing a with
  | nil => exact ⟨[], rfl⟩
  | cons b steps ih =>
      obtain ⟨event, clk, rfl⟩ := hsteps b (List.mem_cons_self ..)
      obtain ⟨events, hevents⟩ := ih (fun b hb => hsteps b (List.mem_cons_of_mem _ hb))
        (a.wait cfg units [.observe event clk])
      exact ⟨.observe event clk :: events, hevents⟩

section Jobs

variable {a b : AdapterState} {out : Except PyError Unit × AdapterState} {job : Job}
  {xs ys next : List Job} {p : Publication}

theorem Simulated.nil (a : AdapterState) : Simulated cfg units topics validator [] a (.ok (), a) :=
  fun _ _ _ _ => ⟨[], rfl⟩

/-- One job after the other. -/
theorem Simulated.append (hfirst : Simulated cfg units topics validator xs a (.ok (), b))
    (hsecond : Simulated cfg units topics validator ys b out) :
    Simulated cfg units topics validator (xs ++ ys) a out := by
  intro stopping publisher rest earlier
  obtain ⟨events, hevents⟩ := hfirst stopping publisher (ys ++ rest) earlier
  obtain ⟨events', hevents'⟩ := hsecond stopping publisher rest earlier
  refine ⟨events ++ events', ?_⟩
  rw [exec_append, List.append_assoc, hevents]
  exact hevents'

/-- An exception leaves the other jobs undone. -/
theorem Simulated.append_error {e : PyError}
    (hfirst : Simulated cfg units topics validator xs a (.error e, b)) :
    Simulated cfg units topics validator (xs ++ ys) a (.error e, b) := by
  intro stopping publisher rest earlier
  obtain ⟨events, hevents⟩ := hfirst stopping publisher (ys ++ rest) earlier
  rw [List.append_assoc]
  exact ⟨events, hevents⟩

theorem Simulated.raise {e : PyError} (h : job.run topics a.service = .error e) :
    Simulated cfg units topics validator [job] a (.error e, a) := by
  intro stopping publisher rest earlier
  refine ⟨[.consume], ?_⟩
  rw [exec_cons, exec_nil]
  unfold MqttAdapter.consuming MqttAdapter.step MqttAdapter.proceed
  dsimp only [List.cons_append]
  rw [h]
  simp [Activity.after]

/-- A job that publishes, and what follows it. -/
theorem Simulated.publish (hschedule : ∀ n, Observes (schedule n))
    (h : job.run topics a.service = .ok (some p.transmission, next))
    (hnext : Simulated cfg units topics validator next
      (JebaoFlow.publish cfg units schedule p a) out) :
    Simulated cfg units topics validator [job] a out := by
  intro stopping publisher rest earlier
  obtain ⟨waited, hwaited⟩ := wait_simulated cfg units topics validator
    (schedule a.published.length) (hschedule _) { a with published := a.published ++ [p] } stopping
    (.busy (next ++ rest)) publisher earlier
  obtain ⟨events, hevents⟩ := hnext stopping publisher rest earlier
  refine ⟨.consume :: (waited ++ events), ?_⟩
  rw [exec_cons, exec_append]
  have hstep : MqttAdapter.step topics cfg units validator
      (.consuming a stopping (.busy ([job] ++ rest)) publisher earlier) .consume
      = .consuming { a with published := a.published ++ [p] } stopping (.busy (next ++ rest))
          publisher earlier := by
    unfold MqttAdapter.consuming MqttAdapter.step MqttAdapter.proceed
    dsimp only [List.cons_append]
    rw [h]
    simp
  rw [hstep, hwaited]
  exact hevents

/-! ## Snapshots -/

theorem publishGroupState_simulated (hschedule : ∀ n, Observes (schedule n)) (gid : String)
    (a : AdapterState) : Simulated cfg units topics validator [.groupState gid] a
      ((publishGroupState cfg units schedule topics gid a).1.map (fun _ => ()),
        (publishGroupState cfg units schedule topics gid a).2) := by
  unfold publishGroupState
  cases hstate : snapshot gid a.service with
  | error e => exact .raise (by rw [Job.run, hstate]; rfl)
  | ok state =>
      cases htopic : topics.groupState gid with
      | error e => exact .raise (by rw [Job.run, hstate, htopic]; rfl)
      | ok topic =>
          exact .publish hschedule (p := { topic, body := .groupState state, retain := true })
            (by rw [Job.run, hstate, htopic]; rfl) (.nil _)

theorem publishDeviceState_simulated (hschedule : ∀ n, Observes (schedule n)) (did : String)
    (a : AdapterState) : Simulated cfg units topics validator [.deviceState did] a
      ((publishDeviceState cfg units schedule topics did a).1.map (fun _ => ()),
        (publishDeviceState cfg units schedule topics did a).2) := by
  unfold publishDeviceState
  cases hstate : deviceSnapshot did a.service with
  | error e => exact .raise (by rw [Job.run, hstate]; rfl)
  | ok state =>
      cases htopic : topics.deviceState did with
      | error e => exact .raise (by rw [Job.run, hstate, htopic]; rfl)
      | ok topic =>
          exact .publish hschedule (p := { topic, body := .deviceState state, retain := true })
            (by rw [Job.run, hstate, htopic]; rfl) (.nil _)

/-- The loop over the ids is the jobs for them in order. -/
theorem publishEach_simulated {α : Type} {job : String → Job}
    {publishOne : String → AdapterState → Except PyError α × AdapterState}
    (hone : ∀ id a, Simulated cfg units topics validator [job id] a
      ((publishOne id a).1.map (fun _ => ()), (publishOne id a).2))
    (ids : List String) (a : AdapterState) :
    Simulated cfg units topics validator (ids.map job) a (publishEach publishOne ids a) := by
  induction ids generalizing a with
  | nil => exact .nil a
  | cons id ids ih =>
      have hid := hone id a
      unfold publishEach
      cases hout : publishOne id a with
      | mk r b =>
          rw [hout] at hid
          cases r with
          | error e =>
              rw [List.map_cons, ← List.singleton_append]
              exact hid.append_error
          | ok x => exact Simulated.append hid (ih b)

theorem publishGroupAndMembers_simulated (hschedule : ∀ n, Observes (schedule n)) (gid : String)
    (a : AdapterState) : Simulated cfg units topics validator [.groupAndMembers gid] a
      (publishGroupAndMembers cfg units schedule topics gid a) := by
  unfold publishGroupAndMembers publishGroupState
  cases hstate : snapshot gid a.service with
  | error e => exact .raise (by rw [Job.run, hstate]; rfl)
  | ok state =>
      cases htopic : topics.groupState gid with
      | error e => exact .raise (by rw [Job.run, hstate, htopic]; rfl)
      | ok topic =>
          exact .publish hschedule (p := { topic, body := .groupState state, retain := true })
            (by rw [Job.run, hstate, htopic]; rfl)
            (publishEach_simulated (publishDeviceState_simulated hschedule) _ _)

theorem publishDeviceAndGroups_simulated (hschedule : ∀ n, Observes (schedule n)) (did : String)
    (a : AdapterState) : Simulated cfg units topics validator [.deviceAndGroups did] a
      (publishDeviceAndGroups cfg units schedule topics did a) := by
  unfold publishDeviceAndGroups publishDeviceState
  cases hstate : deviceSnapshot did a.service with
  | error e => exact .raise (by rw [Job.run, hstate]; rfl)
  | ok state =>
      cases htopic : topics.deviceState did with
      | error e => exact .raise (by rw [Job.run, hstate, htopic]; rfl)
      | ok topic =>
          exact .publish hschedule (p := { topic, body := .deviceState state, retain := true })
            (by rw [Job.run, hstate, htopic]; rfl)
            (publishEach_simulated (publishGroupState_simulated hschedule) _ _)

theorem respond_simulated (hschedule : ∀ n, Observes (schedule n)) (requestId : String)
    (result : PublicationBody) (accepted : Bool)
    {publishStates : AdapterState → Except PyError Unit × AdapterState}
    (hstates : ∀ b, Simulated cfg units topics validator [job] b (publishStates b))
    (a : AdapterState) :
    Simulated cfg units topics validator
      (.result requestId result :: if accepted then [job] else []) a
      (respond cfg units schedule topics requestId result accepted publishStates a) := by
  unfold respond
  cases htopic : topics.requestResult requestId with
  | error e => exact Simulated.append_error (.raise (by rw [Job.run, htopic]; rfl))
  | ok topic =>
      have hfirst : Simulated cfg units topics validator [.result requestId result] a
          (.ok (), publish cfg units schedule { topic, body := result } a) :=
        .publish hschedule (p := { topic, body := result }) (by rw [Job.run, htopic]; rfl) (.nil _)
      cases accepted with
      | true => exact hfirst.append (hstates _)
      | false => exact hfirst

end Jobs

/-! ## Messages -/

/-- Where the consumer is when it has handled its messages, or one has raised. -/
def Activity.handled : Except PyError Unit → Activity
  | .ok () => .waiting
  | .error e => .failed (.raised e)

/-- Some run of the adapter takes the waiting consumer to this outcome. -/
def Handles (cfg : AppConfig) (units : UnitSource) (topics : MqttTopics)
    (validator : CommandValidator) (a : AdapterState) (out : Except PyError Unit × AdapterState) :
    Prop :=
  ∀ stopping publisher earlier, ∃ events,
    exec (MqttAdapter.step topics cfg units validator)
        (.consuming a stopping .waiting publisher earlier) events
      = .consuming out.2 stopping (.handled out.1) publisher earlier

section Messages

variable {jobs : List Job} {clk : Clock} {message : Message} {a b : AdapterState}
  {s' : ServiceState} {out : Except PyError Unit × AdapterState}

/-- The jobs of a message are handled when its first step left them. -/
theorem Simulated.receive
    (hreceive : MqttAdapter.receive topics cfg units validator clk message a.service
      = (.busy jobs, s'))
    (h : Simulated cfg units topics validator jobs { a with service := s' } out) :
    Handles cfg units topics validator a out := by
  intro stopping publisher earlier
  obtain ⟨events, hevents⟩ := h stopping publisher [] earlier
  have hstep : MqttAdapter.step topics cfg units validator
      (.consuming a stopping .waiting publisher earlier) (.receive message clk)
      = .consuming { a with service := s' } stopping (.busy jobs) publisher earlier := by
    unfold MqttAdapter.consuming MqttAdapter.step
    dsimp only
    rw [hreceive]
  rw [List.append_nil] at hevents
  obtain ⟨r, b⟩ := out
  cases r with
  | error e =>
      refine ⟨.receive message clk :: events, ?_⟩
      rw [exec_cons, hstep, hevents]
      rfl
  | ok u =>
      -- the last publication returns, and the consumer waits for the next message
      refine ⟨.receive message clk :: (events ++ [.consume]), ?_⟩
      rw [exec_cons, hstep, exec_append, hevents, exec_cons, exec_nil]
      unfold MqttAdapter.consuming MqttAdapter.step
      simp [Activity.after, MqttAdapter.proceed, Activity.handled]

/-- A message that leaves no jobs is handled in one step. -/
theorem Handles.received {r : Except PyError Unit}
    (hreceive : MqttAdapter.receive topics cfg units validator clk message a.service
      = (.handled r, s')) : Handles cfg units topics validator a (r, { a with service := s' }) := by
  intro stopping publisher earlier
  refine ⟨[.receive message clk], ?_⟩
  rw [exec_cons, exec_nil]
  unfold MqttAdapter.consuming MqttAdapter.step
  dsimp only
  rw [hreceive]

theorem Handles.nil (a : AdapterState) : Handles cfg units topics validator a (.ok (), a) :=
  fun _ _ _ => ⟨[], rfl⟩

/-- One message after the other. -/
theorem Handles.append (hfirst : Handles cfg units topics validator a (.ok (), b))
    (hsecond : Handles cfg units topics validator b out) :
    Handles cfg units topics validator a out := by
  intro stopping publisher earlier
  obtain ⟨events, hevents⟩ := hfirst stopping publisher earlier
  obtain ⟨events', hevents'⟩ := hsecond stopping publisher earlier
  refine ⟨events ++ events', ?_⟩
  rw [exec_append, hevents]
  exact hevents'

/-- What the observer does before a message. -/
theorem Handles.wait {steps : List Background} (hsteps : Observes steps)
    (h : Handles cfg units topics validator (a.wait cfg units steps) out) :
    Handles cfg units topics validator a out := by
  intro stopping publisher earlier
  obtain ⟨waited, hwaited⟩ :=
    wait_simulated cfg units topics validator steps hsteps a stopping .waiting publisher earlier
  obtain ⟨events, hevents⟩ := h stopping publisher earlier
  refine ⟨waited ++ events, ?_⟩
  rw [exec_append, hwaited]
  exact hevents

theorem consumeDevice_simulated (hschedule : ∀ n, Observes (schedule n)) {deviceId : String}
    (hdevice : topics.parseDeviceCommand message.topic = some deviceId) (clk : Clock)
    (a : AdapterState) :
    Handles cfg units topics validator a
      (consumeDevice cfg units schedule topics validator clk deviceId message.payload a) := by
  unfold consumeDevice
  cases hvalid : validator.device message.payload with
  | error e =>
      dsimp only
      split
      case isTrue hinvalid =>
        have hreceive : MqttAdapter.receive topics cfg units validator clk message a.service
            = (.busy [.complaint (.invalidDeviceCommand deviceId)], a.service) := by
          simp [MqttAdapter.receive, hdevice, hvalid, hinvalid]
        exact Simulated.receive hreceive (.publish hschedule (p := {
          topic := topics.systemStatus, body := .invalidDeviceCommand deviceId }) rfl (.nil _))
      case isFalse hinvalid =>
        have hreceive : MqttAdapter.receive topics cfg units validator clk message a.service
            = (.handled (.error e), a.service) := by
          simp [MqttAdapter.receive, hdevice, hvalid, hinvalid, Activity.handled]
        exact Handles.received hreceive
  | ok command =>
      dsimp only
      cases happly : applyDevice cfg units clk deviceId command a.service with
      | mk r s' =>
          cases r with
          | error e =>
              have hreceive : MqttAdapter.receive topics cfg units validator clk message a.service
                  = (.handled (.error e), s') := by
                simp [MqttAdapter.receive, hdevice, hvalid, happly, Activity.handled]
              exact Handles.received hreceive
          | ok result =>
              have hreceive : MqttAdapter.receive topics cfg units validator clk message a.service
                  = (.busy (.result command.requestId (.deviceResult result)
                      :: if result.accepted then [.deviceAndGroups deviceId] else []), s') := by
                simp [MqttAdapter.receive, hdevice, hvalid, happly]
              exact Simulated.receive hreceive (respond_simulated hschedule _ _ _
                (publishDeviceAndGroups_simulated hschedule deviceId) _)

theorem consumeGroup_simulated (hschedule : ∀ n, Observes (schedule n)) {groupId : String}
    (hdevice : topics.parseDeviceCommand message.topic = none)
    (hgroup : topics.parseGroupCommand message.topic = some groupId) (clk : Clock)
    (a : AdapterState) :
    Handles cfg units topics validator a
      (consumeGroup cfg units schedule topics validator clk groupId message.payload a) := by
  unfold consumeGroup
  cases hvalid : validator.group message.payload with
  | error e =>
      dsimp only
      split
      case isTrue hinvalid =>
        have hreceive : MqttAdapter.receive topics cfg units validator clk message a.service
            = (.busy [.complaint (.invalidCommand groupId)], a.service) := by
          simp [MqttAdapter.receive, hdevice, hgroup, hvalid, hinvalid]
        exact Simulated.receive hreceive (.publish hschedule (p := {
          topic := topics.systemStatus, body := .invalidCommand groupId }) rfl (.nil _))
      case isFalse hinvalid =>
        have hreceive : MqttAdapter.receive topics cfg units validator clk message a.service
            = (.handled (.error e), a.service) := by
          simp [MqttAdapter.receive, hdevice, hgroup, hvalid, hinvalid, Activity.handled]
        exact Handles.received hreceive
  | ok command =>
      dsimp only
      cases happly : apply cfg units clk groupId command a.service with
      | mk r s' =>
          cases r with
          | error e =>
              have hreceive : MqttAdapter.receive topics cfg units validator clk message a.service
                  = (.handled (.error e), s') := by
                simp [MqttAdapter.receive, hdevice, hgroup, hvalid, happly, Activity.handled]
              exact Handles.received hreceive
          | ok result =>
              have hreceive : MqttAdapter.receive topics cfg units validator clk message a.service
                  = (.busy (.result command.requestId (.groupResult result)
                      :: if result.accepted then [.groupAndMembers groupId] else []), s') := by
                simp [MqttAdapter.receive, hdevice, hgroup, hvalid, happly]
              exact Simulated.receive hreceive (respond_simulated hschedule _ _ _
                (publishGroupAndMembers_simulated hschedule groupId) _)

theorem consumeMessage_simulated (hschedule : ∀ n, Observes (schedule n)) (clk : Clock)
    (message : Message) (a : AdapterState) :
    Handles cfg units topics validator a
      (consumeMessage cfg units schedule topics validator clk message a) := by
  unfold consumeMessage
  cases hdevice : topics.parseDeviceCommand message.topic with
  | some deviceId => exact consumeDevice_simulated hschedule hdevice clk a
  | none =>
      cases hgroup : topics.parseGroupCommand message.topic with
      | some groupId => exact consumeGroup_simulated hschedule hdevice hgroup clk a
      | none =>
          have hreceive : MqttAdapter.receive topics cfg units validator clk message a.service
              = (.handled (.ok ()), a.service) := by
            simp [MqttAdapter.receive, hdevice, hgroup, Activity.handled]
          exact Handles.received hreceive

end Messages

/--
**What the consumer does on its own, the adapter can do.** The observations in the
schedule and between the messages become steps of the observer, and the consumer
ends up waiting, or failed with the exception that ended `consume`.
-/
theorem consume_simulated (hschedule : ∀ n, Observes (schedule n)) (ds : List Delivery)
    (hds : ∀ d ∈ ds, Observes d.waited) (a : AdapterState) :
    Handles cfg units topics validator a
      (consume cfg units schedule topics validator ds a) := by
  induction ds generalizing a with
  | nil => exact .nil a
  | cons d ds ih =>
      have hdelivered := (@consumeMessage_simulated cfg units topics validator schedule hschedule
        d.clk d.message (a.wait cfg units d.waited)).wait (hds d (List.mem_cons_self ..))
      unfold consume deliver
      cases hout : consumeMessage cfg units schedule topics validator d.clk d.message
        (a.wait cfg units d.waited) with
      | mk r b =>
          rw [hout] at hdelivered
          cases r with
          | error e => exact hdelivered
          | ok u =>
              exact hdelivered.append (ih (fun d' hd' => hds d' (List.mem_cons_of_mem _ hd')) b)

end JebaoFlow
