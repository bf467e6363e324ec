import JebaoFlow.Mqtt.Client
import JebaoFlow.Proof.Changes

/-!
# The command consumer

What one message makes the consumer do, and which messages end it.

The `except` clauses of the consumer cover the validation of a command and
nothing after it. Unknown targets are answered by the service with a rejection,
so the later snapshot lookups find their target — unless the answer is a recorded
one: the result cache is keyed by the request id alone, and an accepted result
comes back whatever the topic of the replay names. The other way out is a patch
that the pattern calculator cannot evaluate.
-/

namespace JebaoFlow

variable {cfg : AppConfig} {units : UnitSource} {schedule : Schedule} {topics : MqttTopics}
  {validator : CommandValidator}

/-! ## Waiting -/

theorem ServiceInv.background {s : ServiceState} (h : ServiceInv cfg s) (step : Background) :
    ServiceInv cfg (backgroundStep cfg units s step) := by
  cases step with
  | observe event clk => exact (recordObserverEvent_outcome units clk event h).serviceInv h
  | collectUpdates => exact h.congr rfl rfl rfl

theorem ServiceInv.wait {a : AdapterState} (h : ServiceInv cfg a.service)
    (steps : List Background) : ServiceInv cfg (AdapterState.wait cfg units steps a).service :=
  Run.invariant_exec (fun _ step hs => hs.background step) h

theorem ServiceInv.publish {a : AdapterState} (h : ServiceInv cfg a.service)
    (publication : Publication) :
    ServiceInv cfg (publish cfg units schedule publication a).service :=
  ServiceInv.wait (a := { a with published := _ }) h _

@[simp] theorem publish_published (publication : Publication) (a : AdapterState) :
    (publish cfg units schedule publication a).published = a.published ++ [publication] := rfl

/-! ## Publishing snapshots -/

/-- The retained snapshot of one device, on that device's topic. -/
def IsDeviceState (topics : MqttTopics) (deviceId : String) (p : Publication) : Prop :=
  ∃ topic state, topics.deviceState deviceId = .ok topic ∧ state.deviceId = deviceId
    ∧ p = { topic, body := .deviceState state, retain := true }

/-- The retained snapshot of one group, on that group's topic. -/
def IsGroupState (topics : MqttTopics) (groupId : String) (p : Publication) : Prop :=
  ∃ topic state, topics.groupState groupId = .ok topic ∧ state.groupId = groupId
    ∧ p = { topic, body := .groupState state, retain := true }

/-- The adapter went on from `a` to `a'` and published `ps` on the way. -/
structure Published (cfg : AppConfig) (a a' : AdapterState) (ps : List Publication) : Prop where
  inv : ServiceInv cfg a'.service
  published : a'.published = a.published ++ ps

theorem Published.trans {a b c : AdapterState} {ps qs : List Publication}
    (h : Published cfg a b ps) (h' : Published cfg b c qs) : Published cfg a c (ps ++ qs) :=
  ⟨h'.inv, by rw [h'.published, h.published, List.append_assoc]⟩

theorem Published.one {a : AdapterState} (h : ServiceInv cfg a.service)
    (publication : Publication) :
    Published cfg a (publish cfg units schedule publication a) [publication] :=
  ⟨h.publish publication, publish_published ..⟩

/-- A configured device's snapshot goes out. -/
theorem publishDeviceState_ok {d : DeviceConfig} (hd : d ∈ cfg.devices) {a : AdapterState}
    (h : ServiceInv cfg a.service) :
    ∃ state a' p, publishDeviceState cfg units schedule topics d.id a = (.ok state, a')
      ∧ Published cfg a a' [p] ∧ IsDeviceState topics d.id p ∧ DeviceInv cfg d state := by
  obtain ⟨state, hstate⟩ := h.device_present d hd
  have hdinv := h.deviceInv hd hstate
  have htopic : topics.deviceState d.id = .ok s!"{topics.topicPrefix}/devices/{d.id}/state" := by
    unfold MqttTopics.deviceState
    rw [topicSegment_identifier d.id_ok]
    rfl
  unfold publishDeviceState deviceSnapshot
  rw [hstate]
  dsimp only
  rw [htopic]
  exact ⟨state, _, _, rfl, .one h _, ⟨_, state, htopic, hdinv.deviceId, rfl⟩, hdinv⟩

/-- A configured group's snapshot goes out. -/
theorem publishGroupState_ok {g : GroupConfig} (hg : g ∈ cfg.groups) {a : AdapterState}
    (h : ServiceInv cfg a.service) :
    ∃ state a' p, publishGroupState cfg units schedule topics g.id a = (.ok state, a')
      ∧ Published cfg a a' [p] ∧ IsGroupState topics g.id p ∧ GroupInv cfg g state := by
  obtain ⟨state, hstate⟩ := h.group_present g hg
  have hginv := h.groupInv hg hstate
  have htopic : topics.groupState g.id = .ok s!"{topics.topicPrefix}/groups/{g.id}/state" := by
    unfold MqttTopics.groupState
    rw [topicSegment_identifier g.id_ok]
    rfl
  unfold publishGroupState snapshot
  rw [hstate]
  dsimp only
  rw [htopic]
  exact ⟨state, _, _, rfl, .one h _, ⟨_, state, htopic, hginv.groupId, rfl⟩, hginv⟩

/-- A loop over targets whose snapshots go out publishes them all, in order. -/
theorem publishEach_ok {α : Type} {Is : String → Publication → Prop}
    {publishOne : String → AdapterState → Except PyError α × AdapterState} :
    ∀ {ids : List String} {a : AdapterState},
      (∀ id ∈ ids, ∀ b, ServiceInv cfg b.service →
        ∃ x b' p, publishOne id b = (.ok x, b') ∧ Published cfg b b' [p] ∧ Is id p) →
      ServiceInv cfg a.service →
      ∃ a' ps, publishEach publishOne ids a = (.ok (), a') ∧ Published cfg a a' ps
        ∧ List.Forall₂ Is ids ps
  | [], a, _, h => ⟨a, [], rfl, ⟨h, (List.append_nil _).symm⟩, .nil⟩
  | id :: ids, a, hone, h => by
      obtain ⟨x, b, p, hb, hpub, hp⟩ := hone id (List.mem_cons_self ..) a h
      obtain ⟨a', ps, hrest, hpubs, hps⟩ := publishEach_ok
        (fun i (hi : i ∈ ids) => hone i (List.mem_cons_of_mem _ hi)) hpub.inv
      refine ⟨a', p :: ps, ?_, hpub.trans hpubs, .cons hp hps⟩
      unfold publishEach
      rw [hb]
      exact hrest

/-- The snapshots behind an accepted group command: the group's, then its members'. -/
def IsGroupReport (topics : MqttTopics) (g : GroupConfig) (ps : List Publication) : Prop :=
  ∃ p ps', ps = p :: ps' ∧ IsGroupState topics g.id p
    ∧ List.Forall₂ (IsDeviceState topics) g.deviceIds ps'

/-- The snapshots behind an accepted device command: the device's, then its groups'. -/
def IsDeviceReport (cfg : AppConfig) (topics : MqttTopics) (d : DeviceConfig)
    (ps : List Publication) : Prop :=
  ∃ p ps', ps = p :: ps' ∧ IsDeviceState topics d.id p
    ∧ List.Forall₂ (IsGroupState topics) ((cfg.groupsOf d.id).map GroupConfig.id) ps'

theorem publishGroupAndMembers_ok {g : GroupConfig} (hg : g ∈ cfg.groups) {a : AdapterState}
    (h : ServiceInv cfg a.service) :
    ∃ a' ps, publishGroupAndMembers cfg units schedule topics g.id a = (.ok (), a')
      ∧ Published cfg a a' ps ∧ IsGroupReport topics g ps := by
  obtain ⟨state, b, p, hb, hpub, hp, hginv⟩ := publishGroupState_ok hg h
  have hone : ∀ id ∈ g.deviceIds, ∀ b, ServiceInv cfg b.service →
      ∃ x b' p, publishDeviceState cfg units schedule topics id b = (.ok x, b')
        ∧ Published cfg b b' [p] ∧ IsDeviceState topics id p := by
    intro id hid b hb
    obtain ⟨m, hm, rfl⟩ := List.mem_map.mp hid
    obtain ⟨d, hd, hdid, _⟩ := AppConfig.deviceConfig_member hg hm
    obtain ⟨x, b', p, hx, hpub, hp, _⟩ := publishDeviceState_ok hd hb
    rw [hdid] at hx hp
    exact ⟨x, b', p, hx, hpub, hp⟩
  obtain ⟨a', ps, hrest, hpubs, hps⟩ := publishEach_ok hone hpub.inv
  refine ⟨a', p :: ps, ?_, hpub.trans hpubs, p, ps, rfl, hp, hps⟩
  unfold publishGroupAndMembers
  rw [hb]
  dsimp only
  rw [hginv.keys]
  exact hrest

theorem publishDeviceAndGroups_ok {d : DeviceConfig} (hd : d ∈ cfg.devices) {a : AdapterState}
    (h : ServiceInv cfg a.service) :
    ∃ a' ps, publishDeviceAndGroups cfg units schedule topics d.id a = (.ok (), a')
      ∧ Published cfg a a' ps ∧ IsDeviceReport cfg topics d ps := by
  obtain ⟨state, b, p, hb, hpub, hp, hdinv⟩ := publishDeviceState_ok hd h
  have hone : ∀ id ∈ (cfg.groupsOf d.id).map GroupConfig.id, ∀ b, ServiceInv cfg b.service →
      ∃ x b' p, publishGroupState cfg units schedule topics id b = (.ok x, b')
        ∧ Published cfg b b' [p] ∧ IsGroupState topics id p := by
    intro id hid b hb
    obtain ⟨g, hg, rfl⟩ := List.mem_map.mp hid
    obtain ⟨x, b', p, hx, hpub, hp, _⟩ :=
      publishGroupState_ok (AppConfig.mem_groupsOf.mp hg).1 hb
    exact ⟨x, b', p, hx, hpub, hp⟩
  obtain ⟨a', ps, hrest, hpubs, hps⟩ := publishEach_ok hone hpub.inv
  refine ⟨a', p :: ps, ?_, hpub.trans hpubs, p, ps, rfl, hp, hps⟩
  unfold publishDeviceAndGroups
  rw [hb]
  dsimp only
  rw [hdinv.groupIds]
  exact hrest

/-- A result goes out, and the snapshots behind an accepted one with it. -/
theorem respond_ok {requestId : String} (hid : isRequestId requestId = true)
    (result : PublicationBody) {accepted : Bool}
    {publishStates : AdapterState → Except PyError Unit × AdapterState}
    {Report : List Publication → Prop} {a : AdapterState} (h : ServiceInv cfg a.service)
    (hstates : accepted = true → ∀ b, ServiceInv cfg b.service →
      ∃ a' ps, publishStates b = (.ok (), a') ∧ Published cfg b a' ps ∧ Report ps) :
    ∃ topic a' ps,
      respond cfg units schedule topics requestId result accepted publishStates a = (.ok (), a')
      ∧ topics.requestResult requestId = .ok topic
      ∧ Published cfg a a' ({ topic, body := result } :: ps)
      ∧ (accepted = true → Report ps) ∧ (accepted = false → ps = []) := by
  have htopic : topics.requestResult requestId
      = .ok s!"{topics.topicPrefix}/requests/{requestId}/result" := by
    unfold MqttTopics.requestResult
    rw [topicSegment_requestId hid]
    rfl
  unfold respond
  rw [htopic]
  dsimp only
  have hfirst : Published cfg a (publish cfg units schedule
      { topic := s!"{topics.topicPrefix}/requests/{requestId}/result", body := result } a) _ :=
    .one h _
  cases haccepted : accepted with
  | true =>
      obtain ⟨a', ps, hps, hpubs, hreport⟩ := hstates haccepted _ hfirst.inv
      exact ⟨_, a', ps, hps, rfl, hfirst.trans hpubs, fun _ => hreport,
        (fun hc => absurd hc.symm Bool.false_ne_true)⟩
  | false =>
      exact ⟨_, _, [], rfl, rfl, hfirst, (fun hc => absurd hc Bool.false_ne_true), fun _ => rfl⟩

/-- Without a record there is no snapshot, whatever happened while the result went out. -/
theorem respond_error {requestId : String} (hid : isRequestId requestId = true)
    (result : PublicationBody)
    {publishStates : AdapterState → Except PyError Unit × AdapterState} {a : AdapterState}
    (h : ServiceInv cfg a.service)
    (hstates : ∀ b, ServiceInv cfg b.service → ∃ e a', publishStates b = (.error e, a')) :
    ∃ e a',
      respond cfg units schedule topics requestId result true publishStates a = (.error e, a') := by
  unfold respond MqttTopics.requestResult
  rw [topicSegment_requestId hid]
  exact hstates _ (h.publish _)

/-! ## One message -/

/-- A message the consumer does not survive in the service state it is handled in. -/
inductive Fatal (cfg : AppConfig) (topics : MqttTopics) (validator : CommandValidator)
    (message : Message) (s : ServiceState) : Prop where
  /-- The replay of an accepted group request on the topic of an unknown group. -/
  | replayedGroup {groupId : String} {command : GroupCommand} {result : GroupCommandResult}
      (hdevice : topics.parseDeviceCommand message.topic = none)
      (hgroup : topics.parseGroupCommand message.topic = some groupId)
      (hvalid : validator.group message.payload = .ok command)
      (hold : s.results.get? command.requestId = some result) (haccepted : result.accepted = true)
      (hunknown : cfg.group? groupId = none)
  /-- The replay of an accepted device request on the topic of an unknown device. -/
  | replayedDevice {deviceId : String} {command : DeviceCommand} {result : DeviceCommandResult}
      (hdevice : topics.parseDeviceCommand message.topic = some deviceId)
      (hvalid : validator.device message.payload = .ok command)
      (hold : s.deviceResults.get? command.requestId = some result)
      (haccepted : result.accepted = true)
      (hunknown : ∀ d ∈ cfg.devices, d.id ≠ deviceId)

/-- What one message may make the consumer publish: nothing, a complaint, or an answer. -/
inductive Reaction (cfg : AppConfig) (units : UnitSource) (topics : MqttTopics)
    (validator : CommandValidator) (clk : Clock) (message : Message) (s : ServiceState) :
    List Publication → Prop where
  | ignored (hdevice : topics.parseDeviceCommand message.topic = none)
      (hgroup : topics.parseGroupCommand message.topic = none) :
      Reaction cfg units topics validator clk message s []
  | invalidGroup {groupId : String} {e : PyError}
      (hdevice : topics.parseDeviceCommand message.topic = none)
      (hgroup : topics.parseGroupCommand message.topic = some groupId)
      (hinvalid : validator.group message.payload = .error e) :
      Reaction cfg units topics validator clk message s
        [{ topic := topics.systemStatus, body := .invalidCommand groupId }]
  | invalidDevice {deviceId : String} {e : PyError}
      (hdevice : topics.parseDeviceCommand message.topic = some deviceId)
      (hinvalid : validator.device message.payload = .error e) :
      Reaction cfg units topics validator clk message s
        [{ topic := topics.systemStatus, body := .invalidDeviceCommand deviceId }]
  | rejectedGroup {groupId topic : String} {command : GroupCommand} {result : GroupCommandResult}
      (hdevice : topics.parseDeviceCommand message.topic = none)
      (hgroup : topics.parseGroupCommand message.topic = some groupId)
      (hvalid : validator.group message.payload = .ok command)
      (hresult : (apply cfg units clk groupId command s).1 = .ok result)
      (hrejected : result.accepted = false)
      (htopic : topics.requestResult command.requestId = .ok topic) :
      Reaction cfg units topics validator clk message s [{ topic, body := .groupResult result }]
  | acceptedGroup {topic : String} {g : GroupConfig} {command : GroupCommand}
      {result : GroupCommandResult} {ps : List Publication} (hg : g ∈ cfg.groups)
      (hdevice : topics.parseDeviceCommand message.topic = none)
      (hgroup : topics.parseGroupCommand message.topic = some g.id)
      (hvalid : validator.group message.payload = .ok command)
      (hresult : (apply cfg units clk g.id command s).1 = .ok result)
      (haccepted : result.accepted = true)
      (htopic : topics.requestResult command.requestId = .ok topic)
      (hreport : IsGroupReport topics g ps) :
      Reaction cfg units topics validator clk message s
        ({ topic, body := .groupResult result } :: ps)
  | rejectedDevice {deviceId topic : String} {command : DeviceCommand}
      {result : DeviceCommandResult}
      (hdevice : topics.parseDeviceCommand message.topic = some deviceId)
      (hvalid : validator.device message.payload = .ok command)
      (hresult : (applyDevice cfg units clk deviceId command s).1 = .ok result)
      (hrejected : result.accepted = false)
      (htopic : topics.requestResult command.requestId = .ok topic) :
      Reaction cfg units topics validator clk message s [{ topic, body := .deviceResult result }]
  | acceptedDevice {topic : String} {d : DeviceConfig} {command : DeviceCommand}
      {result : DeviceCommandResult} {ps : List Publication} (hd : d ∈ cfg.devices)
      (hdevice : topics.parseDeviceCommand message.topic = some d.id)
      (hvalid : validator.device message.payload = .ok command)
      (hresult : (applyDevice cfg units clk d.id command s).1 = .ok result)
      (haccepted : result.accepted = true)
      (htopic : topics.requestResult command.requestId = .ok topic)
      (hreport : IsDeviceReport cfg topics d ps) :
      Reaction cfg units topics validator clk message s
        ({ topic, body := .deviceResult result } :: ps)

/-! ## What the service answers -/

/-- An accepted result names a configured group, or is an old one replayed on an unknown topic. -/
theorem ApplyOutcome.target {s s' : ServiceState} {clk : Clock} {groupId : String}
    {command : GroupCommand} {result : GroupCommandResult}
    (hout : ApplyOutcome cfg units clk groupId command s (.ok result) s')
    (haccepted : result.accepted = true) :
    (∃ g ∈ cfg.groups, g.id = groupId)
      ∨ (s.results.get? command.requestId = some result ∧ cfg.group? groupId = none) := by
  cases hout with
  | replayed hold =>
      cases hgroup : cfg.group? groupId with
      | none => exact Or.inr ⟨hold, rfl⟩
      | some g => exact Or.inl ⟨g, AppConfig.group?_eq_some_iff.mp hgroup⟩
  | unknown _ _ hresult => exact absurd (haccepted.symm.trans hresult) Bool.noConfusion
  | rejected _ _ _ _ _ hresult => exact absurd (haccepted.symm.trans hresult) Bool.noConfusion
  | accepted _ hg hid => exact Or.inl ⟨_, hg, hid⟩

theorem DeviceOutcome.target {s s' : ServiceState} {clk : Clock} {deviceId : String}
    {command : DeviceCommand} {result : DeviceCommandResult}
    (hout : DeviceOutcome cfg units clk deviceId command s (.ok result) s')
    (haccepted : result.accepted = true) :
    (∃ d ∈ cfg.devices, d.id = deviceId)
      ∨ (s.deviceResults.get? command.requestId = some result
        ∧ ∀ d ∈ cfg.devices, d.id ≠ deviceId) := by
  cases hout with
  | replayed hold =>
      by_cases hdevice : ∃ d ∈ cfg.devices, d.id = deviceId
      · exact Or.inl hdevice
      · exact Or.inr ⟨hold, fun d hd hid => hdevice ⟨d, hd, hid⟩⟩
  | unknown _ _ hresult => exact absurd (haccepted.symm.trans hresult) Bool.noConfusion
  | rejected _ _ _ _ _ hresult => exact absurd (haccepted.symm.trans hresult) Bool.noConfusion
  | resumed _ hd hid => exact Or.inl ⟨_, hd, hid⟩
  | patched _ hd hid => exact Or.inl ⟨_, hd, hid⟩

/-! ## One message, handled -/

theorem consumeGroup_ok {a : AdapterState} (h : ServiceInv cfg a.service) {clk : Clock}
    {message : Message} {groupId : String}
    (hdevice : topics.parseDeviceCommand message.topic = none)
    (hgroup : topics.parseGroupCommand message.topic = some groupId)
    (hsafe : ¬ Fatal cfg topics validator message a.service) :
    ∃ a' ps, consumeGroup cfg units schedule topics validator clk groupId message.payload a
        = (.ok (), a')
      ∧ Published cfg a a' ps ∧ Reaction cfg units topics validator clk message a.service ps := by
  unfold consumeGroup
  cases hvalid : validator.group message.payload with
  | error e =>
      obtain ⟨text, rfl⟩ := validator.group_raises _ _ hvalid
      exact ⟨_, _, rfl, .one h _, .invalidGroup hdevice hgroup hvalid⟩
  | ok command =>
      have hout := apply_outcome units clk groupId command h
      rcases hr : apply cfg units clk groupId command a.service with ⟨r, s'⟩
      rw [hr] at hout
      have hinv := hout.serviceInv h
      have hresult : (apply cfg units clk groupId command a.service).1 = r := by rw [hr]
      dsimp only
      rw [hr]
      cases r with
      | error e => cases hout
      | ok result =>
          have hstates : result.accepted = true → ∀ b, ServiceInv cfg b.service →
              ∃ a' ps, publishGroupAndMembers cfg units schedule topics groupId b = (.ok (), a')
                ∧ Published cfg b a' ps
                ∧ ∃ g ∈ cfg.groups, g.id = groupId ∧ IsGroupReport topics g ps := by
            intro haccepted b hb
            rcases hout.target haccepted with ⟨g, hg, rfl⟩ | ⟨hold, hunknown⟩
            · obtain ⟨a', ps, hps, hpubs, hreport⟩ := publishGroupAndMembers_ok hg hb
              exact ⟨a', ps, hps, hpubs, g, hg, rfl, hreport⟩
            · exact absurd (.replayedGroup hdevice hgroup hvalid hold haccepted hunknown) hsafe
          obtain ⟨topic, a', ps, hrespond, htopic, hpub, hyes, hno⟩ :=
            respond_ok (a := { a with service := s' }) command.requestId_ok (.groupResult result)
              hinv hstates
          refine ⟨a', _, hrespond, ⟨hpub.inv, hpub.published⟩, ?_⟩
          cases haccepted : result.accepted with
          | true =>
              obtain ⟨g, hg, rfl, hreport⟩ := hyes haccepted
              exact .acceptedGroup hg hdevice hgroup hvalid hresult haccepted htopic hreport
          | false =>
              rw [hno haccepted]
              exact .rejectedGroup hdevice hgroup hvalid hresult haccepted htopic

theorem consumeDevice_ok {a : AdapterState} (h : ServiceInv cfg a.service) {clk : Clock}
    {message : Message} {deviceId : String}
    (hdevice : topics.parseDeviceCommand message.topic = some deviceId)
    (hsafe : ¬ Fatal cfg topics validator message a.service) :
    ∃ a' ps, consumeDevice cfg units schedule topics validator clk deviceId message.payload a
        = (.ok (), a')
      ∧ Published cfg a a' ps ∧ Reaction cfg units topics validator clk message a.service ps := by
  unfold consumeDevice
  cases hvalid : validator.device message.payload with
  | error e =>
      obtain ⟨text, rfl⟩ := validator.device_raises _ _ hvalid
      exact ⟨_, _, rfl, .one h _, .invalidDevice hdevice hvalid⟩
  | ok command =>
      have hout := applyDevice_outcome units clk deviceId command h
      rcases hr : applyDevice cfg units clk deviceId command a.service with ⟨r, s'⟩
      rw [hr] at hout
      have hinv := hout.serviceInv h
      have hresult : (applyDevice cfg units clk deviceId command a.service).1 = r := by rw [hr]
      dsimp only
      rw [hr]
      cases r with
      | error e => cases hout
      | ok result =>
          have hstates : result.accepted = true → ∀ b, ServiceInv cfg b.service →
              ∃ a' ps, publishDeviceAndGroups cfg units schedule topics deviceId b = (.ok (), a')
                ∧ Published cfg b a' ps
                ∧ ∃ d ∈ cfg.devices, d.id = deviceId ∧ IsDeviceReport cfg topics d ps := by
            intro haccepted b hb
            rcases hout.target haccepted with ⟨d, hd, rfl⟩ | ⟨hold, hunknown⟩
            · obtain ⟨a', ps, hps, hpubs, hreport⟩ := publishDeviceAndGroups_ok hd hb
              exact ⟨a', ps, hps, hpubs, d, hd, rfl, hreport⟩
            · exact absurd (.replayedDevice hdevice hvalid hold haccepted hunknown) hsafe
          obtain ⟨topic, a', ps, hrespond, htopic, hpub, hyes, hno⟩ :=
            respond_ok (a := { a with service := s' }) command.requestId_ok (.deviceResult result)
              hinv hstates
          refine ⟨a', _, hrespond, ⟨hpub.inv, hpub.published⟩, ?_⟩
          cases haccepted : result.accepted with
          | true =>
              obtain ⟨d, hd, rfl, hreport⟩ := hyes haccepted
              exact .acceptedDevice hd hdevice hvalid hresult haccepted htopic hreport
          | false =>
              rw [hno haccepted]
              exact .rejectedDevice hdevice hvalid hresult haccepted htopic

/-- A message that is not fatal is handled. -/
theorem consumeMessage_ok {a : AdapterState} (h : ServiceInv cfg a.service) {clk : Clock}
    {message : Message} (hsafe : ¬ Fatal cfg topics validator message a.service) :
    ∃ a' ps, consumeMessage cfg units schedule topics validator clk message a = (.ok (), a')
      ∧ Published cfg a a' ps ∧ Reaction cfg units topics validator clk message a.service ps := by
  unfold consumeMessage
  cases hdevice : topics.parseDeviceCommand message.topic with
  | some deviceId => exact consumeDevice_ok h hdevice hsafe
  | none =>
      dsimp only
      cases hgroup : topics.parseGroupCommand message.topic with
      | some groupId => exact consumeGroup_ok h hdevice hgroup hsafe
      | none =>
          exact ⟨a, [], rfl, ⟨h, (List.append_nil _).symm⟩, .ignored hdevice hgroup⟩

/-! ## One message, not handled -/

theorem publishGroupAndMembers_error {groupId : String} (hunknown : cfg.group? groupId = none)
    {a : AdapterState} (h : ServiceInv cfg a.service) :
    ∃ e a', publishGroupAndMembers cfg units schedule topics groupId a = (.error e, a') := by
  unfold publishGroupAndMembers publishGroupState snapshot
  cases hstate : a.service.states.get? groupId with
  | none => exact ⟨_, _, rfl⟩
  | some state =>
      obtain ⟨g, hid, hginv⟩ := h.group groupId state hstate
      have hknown := AppConfig.group?_eq_some_iff.mpr ⟨hginv.mem, hid⟩
      exact absurd (hunknown.symm.trans hknown) (Option.some_ne_none g).symm

theorem publishDeviceAndGroups_error {deviceId : String}
    (hunknown : ∀ d ∈ cfg.devices, d.id ≠ deviceId) {a : AdapterState}
    (h : ServiceInv cfg a.service) :
    ∃ e a', publishDeviceAndGroups cfg units schedule topics deviceId a = (.error e, a') := by
  unfold publishDeviceAndGroups publishDeviceState deviceSnapshot
  cases hstate : a.service.deviceStates.get? deviceId with
  | none => exact ⟨_, _, rfl⟩
  | some state =>
      obtain ⟨d, hid, hdinv⟩ := h.device deviceId state hstate
      exact absurd hid (hunknown d hdinv.mem)

/-- A fatal message raises. -/
theorem consumeMessage_error {a : AdapterState} (h : ServiceInv cfg a.service) (clk : Clock)
    {message : Message} (hfatal : Fatal cfg topics validator message a.service) :
    ∃ e a', consumeMessage cfg units schedule topics validator clk message a = (.error e, a') := by
  unfold consumeMessage
  cases hfatal with
  | @replayedGroup groupId command result hdevice hgroup hvalid hold haccepted hunknown =>
      rw [hdevice]
      dsimp only
      rw [hgroup]
      have happly : apply cfg units clk groupId command a.service = (.ok result, a.service) := by
        unfold apply
        rw [hold]
      dsimp only
      unfold consumeGroup
      rw [hvalid]
      dsimp only
      rw [happly]
      dsimp only
      rw [haccepted]
      exact respond_error command.requestId_ok _ h
        (fun b hb => publishGroupAndMembers_error hunknown hb)
  | @replayedDevice deviceId command result hdevice hvalid hold haccepted hunknown =>
      rw [hdevice]
      have happly : applyDevice cfg units clk deviceId command a.service
          = (.ok result, a.service) := by
        unfold applyDevice
        rw [hold]
      dsimp only
      unfold consumeDevice
      rw [hvalid]
      dsimp only
      rw [happly]
      dsimp only
      rw [haccepted]
      exact respond_error command.requestId_ok _ h
        (fun b hb => publishDeviceAndGroups_error hunknown hb)

/-! ## Runs of messages -/

/-- The adapter after one message. -/
def consumerStep (cfg : AppConfig) (units : UnitSource) (schedule : Schedule)
    (topics : MqttTopics) (validator : CommandValidator) (a : AdapterState) (d : Delivery) :
    AdapterState :=
  (deliver cfg units schedule topics validator a d).2

/-- The message is handled without an exception, and with one of the listed reactions. -/
def Handled (cfg : AppConfig) (units : UnitSource) (schedule : Schedule) (topics : MqttTopics)
    (validator : CommandValidator) (a : AdapterState) (d : Delivery) : Prop :=
  ∃ a' ps, deliver cfg units schedule topics validator a d = (.ok (), a')
    ∧ a'.published = a.published ++ ps
    ∧ Reaction cfg units topics validator d.clk d.message
        (AdapterState.wait cfg units d.waited a).service ps

/-- The message is not fatal in the service state it is handled in. -/
def Survivable (cfg : AppConfig) (units : UnitSource) (topics : MqttTopics)
    (validator : CommandValidator) (a : AdapterState) (d : Delivery) : Prop :=
  ¬ Fatal cfg topics validator d.message (AdapterState.wait cfg units d.waited a).service

theorem handled_iff {a : AdapterState} (h : ServiceInv cfg a.service) (d : Delivery) :
    Handled cfg units schedule topics validator a d ↔ Survivable cfg units topics validator a d := by
  have hwait : ServiceInv cfg (AdapterState.wait cfg units d.waited a).service :=
    ServiceInv.wait h d.waited
  constructor
  · rintro ⟨a', ps, hok, _⟩ hfatal
    have herror : ∃ e a'', deliver cfg units schedule topics validator a d = (.error e, a'') :=
      consumeMessage_error hwait d.clk hfatal
    obtain ⟨e, a'', he⟩ := herror
    have : (Except.ok () : Except PyError Unit) = .error e :=
      congrArg Prod.fst (hok.symm.trans he)
    exact Except.noConfusion rfl rfl (heq_of_eq this)
  · intro hsafe
    obtain ⟨a', ps, hok, hpub, hreaction⟩ := consumeMessage_ok hwait hsafe
    exact ⟨a', ps, hok, hpub.published, hreaction⟩

theorem Survivable.serviceInv {a : AdapterState} (h : ServiceInv cfg a.service) {d : Delivery}
    (hsafe : Survivable cfg units topics validator a d) :
    ServiceInv cfg (consumerStep cfg units schedule topics validator a d).service := by
  obtain ⟨a', ps, hok, hpub, _⟩ := consumeMessage_ok (ServiceInv.wait h d.waited) hsafe
  unfold consumerStep deliver
  rw [hok]
  exact hpub.inv

/-- A run whose messages are all handled is consumed to its end. -/
theorem consume_ok {ds : List Delivery} {a : AdapterState}
    (hds : Run.Each (consumerStep cfg units schedule topics validator)
      (Handled cfg units schedule topics validator) a ds) :
    (consume cfg units schedule topics validator ds a).1 = .ok () := by
  induction ds generalizing a with
  | nil => rfl
  | cons d ds ih =>
      obtain ⟨⟨a', ps, hok, _⟩, hrest⟩ := hds
      have hstep : consumerStep cfg units schedule topics validator a d = a' := by
        unfold consumerStep
        rw [hok]
      unfold consume
      rw [hok]
      rw [hstep] at hrest
      exact ih hrest

/--
**The consumer handles every message of a run exactly when none is fatal.**

Handling means that `_consume` returns from the whole run, and that each message
was ignored, reported as invalid, rejected with a result, or accepted and its
state published.
-/
theorem consumer_survives_iff {s : ServiceState} (hs : Reachable cfg units s)
    (ds : List Delivery) :
    ((consume cfg units schedule topics validator ds { service := s }).1 = .ok ()
        ∧ Run.Each (consumerStep cfg units schedule topics validator)
            (Handled cfg units schedule topics validator) { service := s } ds)
      ↔ Run.Each (consumerStep cfg units schedule topics validator)
          (Survivable cfg units topics validator) { service := s } ds := by
  have hboth : Run.Each (consumerStep cfg units schedule topics validator)
        (Handled cfg units schedule topics validator) { service := s } ds
      ↔ Run.Each (consumerStep cfg units schedule topics validator)
        (Survivable cfg units topics validator) { service := s } ds :=
    Run.each_iff_of_invariant (fun _ _ hsafe ha => hsafe.serviceInv ha)
      (fun _ d ha => handled_iff ha d) (reachable_inv hs)
  constructor
  · rintro ⟨_, hall⟩
    exact hboth.mp hall
  · intro hall
    have hhandled := hboth.mpr hall
    exact ⟨consume_ok hhandled, hhandled⟩

/-! ## A replay on an unknown topic -/

def stopText : String := "\x7b\"request_id\":\"stop-001\",\"action\":\"emergency_stop\"\x7d"

/-- The bytes of an ASCII text. -/
def asciiBytes (text : String) : Bytes := text.toList.map (fun c => UInt8.ofNat c.toNat)

/-- A validator that knows the stop button and refuses everything else. -/
def stopValidator : CommandValidator where
  group payload :=
    if payload = asciiBytes stopText then .ok plainStop
    else .error (.validationError "Invalid JSON")
  device _ := .error (.validationError "Invalid JSON")
  group_raises payload e h := by
    split at h
    · cases h
    · cases h
      exact ⟨_, rfl⟩
  device_raises payload e h := by
    cases h
    exact ⟨_, rfl⟩

/-- The stop button, pressed on the topic of a group. -/
def stopOn (groupId : String) : Delivery where
  waited := []
  message := { topic := s!"flow/groups/{groupId}/command", payload := asciiBytes stopText }
  clk _ := 1

/-- On the topic of its group, the stop button is survivable in every state. -/
theorem stopOn_survivable (a : AdapterState) :
    Survivable reefTank steadyUnits ⟨"flow"⟩ stopValidator a (stopOn "flow") := by
  have hkind : (⟨"flow"⟩ : MqttTopics).parseDeviceCommand (stopOn "flow").message.topic = none := by
    decide +kernel
  have htarget : (⟨"flow"⟩ : MqttTopics).parseGroupCommand (stopOn "flow").message.topic
      = some "flow" := by decide +kernel
  intro hfatal
  cases hfatal with
  | replayedGroup _ hgroup _ _ _ hunknown =>
      cases htarget.symm.trans hgroup
      exact absurd hunknown (by decide)
  | replayedDevice hdevice => exact absurd (hkind.symm.trans hdevice) (Option.some_ne_none _).symm

/-- Two presses of the same stop button are both handled. -/
theorem consumer_survives_reefTank :
    (consume reefTank steadyUnits (fun _ => []) ⟨"flow"⟩ stopValidator
        [stopOn "flow", stopOn "flow"]
        { service := startState reefTank steadyUnits (fun _ => 0) }).1 = .ok ()
      ∧ Run.Each (consumerStep reefTank steadyUnits (fun _ => []) ⟨"flow"⟩ stopValidator)
          (Handled reefTank steadyUnits (fun _ => []) ⟨"flow"⟩ stopValidator)
          { service := startState reefTank steadyUnits (fun _ => 0) }
          [stopOn "flow", stopOn "flow"] := by
  have hstart : starts reefTank steadyUnits (fun _ => 0) = true := by decide +kernel
  exact (consumer_survives_iff (reachable_startState hstart []) _).mpr
    ⟨stopOn_survivable _, stopOn_survivable _, trivial⟩

/--
**A replay kills the consumer.** The stop button is accepted on the topic of its
group; the same bytes on the topic of a group that does not exist find the
recorded result, and the snapshot behind it raises.
-/
theorem consumer_killed_reefTank :
    Reachable reefTank steadyUnits (startState reefTank steadyUnits (fun _ => 0))
      ∧ (consume reefTank steadyUnits (fun _ => []) ⟨"flow"⟩ stopValidator
          [stopOn "flow", stopOn "unknown"]
          { service := startState reefTank steadyUnits (fun _ => 0) }).1
        = .error (.keyError "unknown group 'unknown'") := by
  have hstart : starts reefTank steadyUnits (fun _ => 0) = true := by decide +kernel
  refine ⟨reachable_startState hstart [], ?_⟩
  decide +kernel

end JebaoFlow
