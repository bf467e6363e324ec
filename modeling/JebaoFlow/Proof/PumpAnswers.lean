import JebaoFlow.Proof.JournalShown
import JebaoFlow.Proof.Sessions

/-!
# What the pumps answered

The sessions in use are read to the end, so what the observer reports of a pump is what the pump
answered to the very read, and from there it goes to the dashboard. The other way, what the observer
writes to the pumps asks for nothing but this.
-/

namespace JebaoFlow

open HomeAssistant Run

variable {i : ℕ} {worker : Worker}

/-! ## The network -/

namespace Network

variable {site : Site} {n : Network site}

/-- What is read of the device at this place is the answer to the read. -/
def SettledAt (n : Network site) (i : ℕ) : Prop :=
  ∀ worker device, n.worker i = some worker → worker.phase.inUse = true → n.devices i = some device →
    device.stack.session.unread = []

/-- The answer is what was reported. -/
def Reported (answer : Answer) (reading : String × DeviceState) : Prop :=
  answer.deviceId = reading.1 ∧ answer.Says reading.2

/-- The pumps said what was reported of them, in this order, one answer for each report. -/
def Said (n : Network site) : Prop :=
  ∃ said : List Answer, List.Forall₂ Reported said (readings n.installation.observer.events)
    ∧ said.Sublist n.answers

structure Inv (n : Network site) : Prop where
  installation : n.installation.Inv
  settled : ∀ i, n.SettledAt i
  said : n.Said

/-- The pumps answer every request of the call with one frame of the right command. -/
def Event.Answered : Event → Prop
  | .connect _ _ passcodeIo loginIo _ _ _ _ =>
      IsReply .passcodeResponse passcodeIo.reply ∧ IsReply .loginResponse loginIo.reply
  | .read _ io _ _ _ _ _ => IsReply .serialTransmitResponse io.reply
  | .begin _ _ _ _ | .disconnect _ _ | .lose _ | .other _ => True

theorem act_observer (hworker : n.worker i = some worker) (action : WorkerAction) (clks : ℕ → Clock) :
    (n.act i action clks).installation.observer
      = workerStep n.installation.observer i worker action := by
  show observerStep site.cfg n.installation.observer (.worker i action) = _
  unfold observerStep
  unfold Network.worker at hworker
  dsimp only
  rw [hworker]

/-- A step of a worker leaves the other places as they are. -/
theorem settled_act (hworker : n.worker i = some worker) {action : WorkerAction} (clks : ℕ → Clock)
    (hothers : ∀ j, j ≠ i → n.SettledAt j)
    (hself : action.Keeps worker → ∀ device, n.devices i = some device →
      device.stack.session.unread = []) (j : ℕ) : (n.act i action clks).SettledAt j := by
  obtain ⟨worker', hstepped, hkeeps⟩ := workerStep_keeps hworker action
  intro other device hother huse hdevice
  unfold Network.worker at hother
  rw [act_observer hworker, hstepped.workers, List.getElem?_set] at hother
  split at hother
  · rename_i heq
    subst heq
    split at hother
    · cases hother
      exact hself (hkeeps huse) device hdevice
    · cases hother
  · rename_i hne
    exact hothers j (fun h => hne h.symm) other device hother huse hdevice

theorem said_act (hworker : n.worker i = some worker) {action : WorkerAction} (clks : ℕ → Clock)
    (hsaid : n.Said) {answers : List Answer} (hkept : n.answers.Sublist answers)
    (hread : ∀ state, action = .read state →
      ∃ answer, answers = n.answers ++ [answer] ∧ Reported answer (worker.deviceId, state)) :
    Said { n.act i action clks with answers } := by
  obtain ⟨said, hreported, hsublist⟩ := hsaid
  have hreports := workerStep_reports n.installation.observer i worker action
  rw [← act_observer hworker action clks] at hreports
  rcases hreports with hsame | ⟨state, haction, hmore⟩
  · exact ⟨said, hsame ▸ hreported, hsublist.trans hkept⟩
  · obtain ⟨answer, rfl, hself⟩ := hread state haction
    exact ⟨said ++ [answer], hmore ▸ List.rel_append hreported (.cons hself .nil),
      hsublist.append (List.Sublist.refl _)⟩

/-- What keeps a worker on its session is what the call itself came to. -/
theorem Keeps.result {ending : CallEnd} {result : WorkerAction}
    (h : (ending.action worker result).Keeps worker) : result.Keeps worker := by
  unfold CallEnd.action at h
  cases ending with
  | seen => exact h
  | left => exact h.elim
  | interrupted =>
      dsimp only at h
      split at h
      · rename_i hcancelled
        exact absurd hcancelled (by rw [h.2]; exact Bool.false_ne_true)
      · exact h

theorem action_read {ending : CallEnd} {result : WorkerAction} {state : DeviceState}
    (h : ending.action worker result = .read state) : result = .read state := by
  unfold CallEnd.action at h
  cases ending with
  | seen => exact h
  | left => cases h
  | interrupted =>
      dsimp only at h
      split at h
      · cases h
      · exact h

theorem not_failed_keeps (hawaits : worker.phase.awaits = true) {text : String} {occurredAt : Datetime} :
    ¬ (WorkerAction.failed text occurredAt).Keeps worker := by
  rintro ⟨_, hnot⟩
  rw [hawaits] at hnot
  cases hnot

theorem settled_wire (hsettled : ∀ i, n.SettledAt i) (i : ℕ) (device : LanDevice) (stack : LanStack)
    {j : ℕ} (hne : j ≠ i) : (n.wire i device stack).SettledAt j := by
  intro worker device' hworker huse hdevice
  unfold wire at hdevice
  dsimp only at hdevice
  rw [Function.update_of_ne hne] at hdevice
  exact hsettled j worker device' hworker huse hdevice

theorem wire_device (n : Network site) (i : ℕ) (device : LanDevice) (stack : LanStack) :
    (n.wire i device stack).devices i = some { device with stack } :=
  Function.update_self ..

/-- A new device has read nothing yet. -/
theorem create_unread {device : LanDevice} (h : create site.cfg worker = .ok device) :
    device.stack.session.unread = [] := by
  unfold create at h
  split at h
  · cases h
  · rename_i config _
    cases hmade : createReadOnlyLanDevice config worker.endpoint.address worker.endpoint.productKey with
    | error e =>
        rw [hmade] at h
        cases h
    | ok adapter =>
        rw [hmade] at h
        cases h
        rfl

/-- A step of a worker, after whatever has become of its session. -/
theorem inv_act (hinstallation : n.installation.Inv) (hsaid : n.Said)
    (hworker : n.worker i = some worker) {action : WorkerAction} (clks : ℕ → Clock)
    (hothers : ∀ j, j ≠ i → n.SettledAt j)
    (hself : action.Keeps worker → ∀ device, n.devices i = some device →
      device.stack.session.unread = [])
    {answers : List Answer} (hkept : n.answers.Sublist answers)
    (hread : ∀ state, action = .read state →
      ∃ answer, answers = n.answers ++ [answer] ∧ Reported answer (worker.deviceId, state)) :
    Inv { n.act i action clks with answers } where
  installation := Installation.inv_step (.observer (.worker i action) clks) hinstallation
  settled := settled_act hworker clks hothers hself
  said := said_act hworker clks hsaid hkept hread

/-- A call of a worker, and what it makes of it. -/
theorem inv_call (hinv : n.Inv) (hworker : n.worker i = some worker) (device : LanDevice)
    (stack : LanStack) {action : WorkerAction} (clks : ℕ → Clock)
    (hself : action.Keeps worker → stack.session.unread = [])
    {answers : List Answer} (hkept : n.answers.Sublist answers)
    (hread : ∀ state, action = .read state →
      ∃ answer, answers = n.answers ++ [answer] ∧ Reported answer (worker.deviceId, state)) :
    Inv { (n.wire i device stack).act i action clks with answers } := by
  refine inv_act (n := n.wire i device stack) hinv.installation hinv.said hworker clks
    (fun j hne => settled_wire hinv.settled i device stack hne) (fun hkeeps device' hdevice' => ?_)
    hkept hread
  rw [wire_device] at hdevice'
  cases hdevice'
  exact hself hkeeps

/-- A step that does not concern the sessions. -/
theorem inv_elsewhere (hinv : n.Inv) {installation : Installation site}
    (hinstallation : installation.Inv)
    (helsewhere : Elsewhere n.installation.observer installation.observer) :
    Inv { n with installation } where
  installation := hinstallation
  settled i worker' device hworker' huse hdevice := by
    obtain ⟨worker, hworker, hused⟩ := helsewhere.workers hworker' huse
    exact hinv.settled i worker device hworker hused hdevice
  said := by
    obtain ⟨said, hreported, hsublist⟩ := hinv.said
    exact ⟨said, helsewhere.events.symm ▸ hreported, hsublist⟩

/-- A step of the observer or of the deployment without a session. -/
theorem inv_other (hinv : n.Inv) {event : Installation.Event} (hevent : onSession event = false) :
    Inv { n with installation := n.installation.step event } := by
  have hinstallation := Installation.inv_step event hinv.installation
  have hstay : Elsewhere n.installation.observer n.installation.observer :=
    elsewhere_of_same rfl rfl
  cases event with
  | observer action clks =>
      by_cases hworkers : ∀ i step, action ≠ .worker i step
      · exact inv_elsewhere hinv hinstallation (observerStep_elsewhere hworkers)
      · obtain ⟨i, action', rfl⟩ : ∃ i step, action = .worker i step := by
          simpa only [not_forall, not_not] using hworkers
        cases hworker : n.worker i with
        | none =>
            have hsame : observerStep site.cfg n.installation.observer (.worker i action')
                = n.installation.observer := by
              unfold observerStep
              unfold Network.worker at hworker
              dsimp only
              rw [hworker]
            exact inv_elsewhere hinv hinstallation (elsewhere_of_same
              (congrArg ObserverState.workers hsame) (congrArg ObserverState.events hsame))
        | some worker =>
            have hself : action'.Keeps worker → ∀ device, n.devices i = some device →
                device.stack.session.unread = [] := by
              intro hkeeps device hdevice
              refine hinv.settled i worker device hworker ?_ hdevice
              cases action' with
              | begin | connected | read | disconnected => cases hevent
              | failed => exact hkeeps.1
              | left => exact hkeeps.elim
              | interrupted => exact hkeeps.1
              | acquired | started | appended | polled => exact hkeeps
            refine inv_act hinv.installation hinv.said hworker clks (fun j _ => hinv.settled j) hself
              (List.Sublist.refl _) ?_
            rintro state rfl
            cases hevent
  | deployment event =>
      have hcases : Elsewhere n.installation.observer (n.installation.step (.deployment event)).observer
          ∨ ∃ file, (n.installation.step (.deployment event)).observer = { file } := by
        unfold Installation.step
        split
        · rename_i heq
          cases heq
        · exact Or.inl hstay
        · split
          · exact Or.inr ⟨_, rfl⟩
          · exact Or.inl hstay
        · exact Or.inl hstay
      rcases hcases with helsewhere | ⟨file, hnew⟩
      · exact inv_elsewhere hinv hinstallation helsewhere
      · refine ⟨hinstallation, fun i worker device hworker => ?_, [], ?_, List.nil_sublist _⟩
        · unfold Network.worker at hworker
          dsimp only at hworker
          rw [hnew] at hworker
          cases hworker
        · dsimp only
          rw [hnew]
          exact .nil

/-- **Every step keeps the sessions in use read to the end.** -/
theorem inv_step (event : Event) (hanswered : event.Answered) (hinv : n.Inv) : (n.step event).Inv := by
  cases event with
  | begin i text occurredAt clks =>
      unfold step
      dsimp only
      split
      · exact hinv
      · rename_i worker hworker
        have hbegun (created : Except String Unit) :
            Inv { n.act i (.begin created occurredAt) clks with
              devices := Function.update n.devices i (create site.cfg worker).toOption } := by
          have hothers (j : ℕ) (hne : j ≠ i) : SettledAt { n with
              devices := Function.update n.devices i (create site.cfg worker).toOption } j := by
            intro worker' device hworker' huse hdevice
            dsimp only at hdevice
            rw [Function.update_of_ne hne] at hdevice
            exact hinv.settled j worker' device hworker' huse hdevice
          refine inv_act (n := { n with
              devices := Function.update n.devices i (create site.cfg worker).toOption })
            hinv.installation hinv.said hworker clks hothers (fun _ device hdevice => ?_)
            (List.Sublist.refl _) ?_
          · dsimp only at hdevice
            rw [Function.update_self] at hdevice
            cases hcreated : create site.cfg worker with
            | error e =>
                rw [hcreated] at hdevice
                cases hdevice
            | ok made =>
                rw [hcreated] at hdevice
                cases hdevice
                exact create_unread hcreated
          · rintro _ ⟨⟩
        split
        · exact hbegun _
        · exact hbegun _
        · exact hinv
  | connect i opened passcodeIo loginIo ending text occurredAt clks =>
      unfold step
      dsimp only
      split
      · rename_i worker device hworker hdevice
        split
        · rename_i hphase
          have huse : worker.phase.inUse = true := by rw [hphase]; rfl
          have hunread := hinv.settled i worker device hworker huse hdevice
          cases hconnect : device.stack.connect device.session opened passcodeIo loginIo with
          | mk result stack =>
          refine inv_call hinv hworker device stack clks (fun hkeeps => ?_) (List.Sublist.refl _) ?_
          · cases result with
            | error e => exact absurd (Keeps.result hkeeps) (not_failed_keeps (by rw [hphase]; rfl))
            | ok u => exact connect_settled hanswered.1 hanswered.2 hunread hconnect
          · intro state hstate
            cases result with
            | error e => cases action_read hstate
            | ok u => cases action_read hstate
        · exact hinv
      · exact hinv
  | read i io observedAt ending text occurredAt clks =>
      unfold step
      dsimp only
      split
      · rename_i worker device hworker hdevice
        split
        · rename_i hphase
          have huse : worker.phase.inUse = true := by rw [hphase]; rfl
          have hunread := hinv.settled i worker device hworker huse hdevice
          cases hgot : device.stack.getState device.session device.adapter io observedAt with
          | mk result stack =>
          refine inv_call hinv hworker device stack clks (fun hkeeps => ?_)
            (List.sublist_append_left ..) ?_
          · cases result with
            | error e => exact absurd (Keeps.result hkeeps) (not_failed_keeps (by rw [hphase]; rfl))
            | ok state => exact (getState_answered hanswered hunread hgot worker.deviceId).1
          · intro state hstate
            cases result with
            | error e => cases action_read hstate
            | ok read =>
                cases action_read hstate
                exact ⟨_, rfl, rfl, (getState_answered hanswered hunread hgot worker.deviceId).2⟩
        · exact hinv
      · exact hinv
  | disconnect i clks =>
      unfold step
      dsimp only
      split
      · rename_i worker device hworker hdevice
        split
        · rename_i last hphase
          have hnot : ¬ worker.phase.inUse = true := by
            rw [hphase]
            exact Bool.false_ne_true
          refine inv_call hinv hworker device _ clks ?_ (List.Sublist.refl _) ?_
          · exact fun hkeeps => absurd hkeeps hnot
          · rintro _ ⟨⟩
        · exact hinv
      · exact hinv
  | lose i =>
      unfold step
      dsimp only
      split
      · rename_i device hdevice
        refine ⟨hinv.installation, fun j worker' device' hworker' huse hdevice' => ?_, hinv.said⟩
        by_cases heq : j = i
        · subst heq
          rw [wire_device] at hdevice'
          cases hdevice'
          rfl
        · exact settled_wire hinv.settled i device _ heq worker' device' hworker' huse hdevice'
      · exact hinv
  | other event =>
      unfold step
      dsimp only
      split
      · exact hinv
      · rename_i hnot
        exact inv_other hinv (Bool.eq_false_iff.mpr hnot)

theorem inv_start {service : ServiceState} {clk : Clock}
    (hinit : GroupControlService.init site.cfg site.units clk = .ok service) :
    (start service : Network site).Inv where
  installation := Installation.inv_start hinit
  settled _ _ _ hworker := by cases hworker
  said := ⟨[], .nil, List.nil_sublist _⟩

theorem inv_exec {service : ServiceState} {clk : Clock}
    (hinit : GroupControlService.init site.cfg site.units clk = .ok service) {events : List Event}
    (hanswered : ∀ event ∈ events, event.Answered) :
    (exec step (start service : Network site) events).Inv :=
  (always_of_each (fun _ event h hinv => inv_step event h hinv) (fun _ hinv => hinv)
    (each_of_forall hanswered) (inv_start hinit)).last

theorem sight_readings (deviceId : String) (events : List ObserverEvent) :
    (Sight.of deviceId events).reads
      = ((readings events).filter (fun reading => reading.1 = deviceId)).map Prod.snd := by
  unfold readings
  rw [sight_reads, List.filterMap_filter, List.filter_filterMap, List.map_filterMap]
  congr 1
  funext event
  by_cases heq : event.deviceId = deviceId
  · cases event.state <;> simp [heq]
  · cases event.state <;> simp [heq]

/-- What was read of a pump is what it said. -/
theorem Said.reads (hsaid : n.Said) (deviceId : String) :
    ∃ said : List Answer, said.Sublist n.answers ∧ (∀ answer ∈ said, answer.deviceId = deviceId)
      ∧ List.Forall₂ Answer.Says said
        (Sight.of deviceId n.installation.observer.events).reads := by
  obtain ⟨said, hreported, hsublist⟩ := hsaid
  refine ⟨said.filter (fun answer => answer.deviceId = deviceId), List.filter_sublist.trans hsublist,
    fun answer hanswer => of_decide_eq_true (List.mem_filter.mp hanswer).2, ?_⟩
  rw [sight_readings, List.forall₂_map_right_iff]
  refine (List.rel_filter (fun answer reading hself => ?_) hreported).imp fun _ _ hself => hself.2
  show decide (answer.deviceId = deviceId) = true ↔ decide (reading.1 = deviceId) = true
  rw [hself.1]

/-! ## What goes to the pumps -/

theorem plain_wire (hplain : PlainRequests n.written) (i : ℕ) {device : LanDevice} {stack : LanStack}
    (hwrites : WritesPlainly device.stack stack) : PlainRequests (n.wire i device stack).written := by
  obtain ⟨new, hnew, hplain'⟩ := hwrites
  show PlainRequests (n.written ++ stack.written.drop device.stack.written.length)
  rw [hnew, List.drop_left]
  exact hplain.append hplain'

theorem plain_step (event : Event) (hplain : PlainRequests n.written) :
    PlainRequests (n.step event).written := by
  cases event with
  | begin i text occurredAt clks =>
      unfold step
      dsimp only
      split
      · exact hplain
      · split
        · exact hplain
        · exact hplain
        · exact hplain
  | connect i opened passcodeIo loginIo ending text occurredAt clks =>
      unfold step
      dsimp only
      split
      · split
        · exact plain_wire hplain i (connect_writes ..)
        · exact hplain
      · exact hplain
  | read i io observedAt ending text occurredAt clks =>
      unfold step
      dsimp only
      split
      · split
        · exact plain_wire hplain i (getState_writes ..)
        · exact hplain
      · exact hplain
  | disconnect i clks =>
      unfold step
      dsimp only
      split
      · split
        · exact plain_wire hplain i (disconnect_writes ..)
        · exact hplain
      · exact hplain
  | lose i =>
      unfold step
      dsimp only
      split
      · exact plain_wire hplain i (writesPlainly_call _ trivial)
      · exact hplain
  | other event =>
      unfold step
      dsimp only
      split
      · exact hplain
      · exact hplain

end Network

/-! ## From the pumps to the dashboard -/

section Run

variable {site : Site}

/--
**The dashboard shows what the pumps answered.**

Take any run of the daemon on its network, where a pump answers each request with one frame of the
right command and sends nothing unasked. Answers may be late, cut off or lost, connections may close,
workers may be cancelled, and the daemon may start again. The reads of a pump since the last start are
states that it sent, one answer for each read and in this order: a late answer is never taken for
that to a later read. Whenever everything has arrived, the entities show the newest of these states.
-/
theorem dashboard_shows_answers {clk : Clock} {service : ServiceState}
    (hinit : GroupControlService.init site.cfg site.units clk = .ok service) (conv : Conversions)
    {events : List Network.Event} (hanswered : ∀ event ∈ events, event.Answered) :
    let n := exec Network.step (Network.start service : Network site) events
    ∀ device ∈ site.cfg.devices,
      let sight := Sight.of device.id n.installation.observer.events
      (∃ said : List Answer, said.Sublist n.answers ∧ (∀ answer ∈ said, answer.deviceId = device.id)
        ∧ List.Forall₂ Answer.Says said sight.reads)
      ∧ (n.installation.deployment.AtRest → ∃ stopping,
        n.installation.deployment.adapter.link = .online stopping .waiting .waiting
        ∧ SightShown conv site n.installation.deployment.home.state.1 device (!stopping) sight) := by
  intro n device hdevice sight
  have hinv : n.Inv := Network.inv_exec hinit hanswered
  refine ⟨hinv.said.reads device.id, fun hrest => ?_⟩
  obtain ⟨stopping, hlink, hshown⟩ := dashboard_rest hinv.installation conv hrest
  exact ⟨stopping, hlink, hshown device hdevice⟩

/-- A status with a flow of 30. -/
def leftStatus : ExchangeIo where
  drained := true
  reply := magic ++ 0x95 :: 3 :: 0 :: 0 :: 0x91 :: stateReplyAction :: 1 :: 0 :: 30
    :: List.replicate 398 0
  delivered := 500

/-- The left wavemaker lets the observer in and answers a read. -/
def leftWavemakerAnswers : List Network.Event :=
  [.begin 0 "" 0 (fun _ => 0),
    .connect 0 (.ok ()) (replying 100 .passcodeResponse [0, 3, 97, 98, 99])
      (replying 100 .loginResponse [0]) .seen "" 0 (fun _ => 0),
    .read 0 leftStatus 0 .seen "" 0 (fun _ => 0)]

/-- The run of the two wavemakers, with these calls in the place of what they came to. -/
def wavemakersOnlineRun : List Network.Event :=
  (wavemakersRun.take 13).map .other ++ leftWavemakerAnswers ++ (wavemakersRun.drop 16).map .other

/-- Where it ends. -/
def wavemakersOnline : Network (tankSite pairedTank) :=
  exec Network.step (Network.start (startState pairedTank steadyUnits (fun _ => 0)))
    wavemakersOnlineRun

theorem wavemakersOnlineRun_answered : ∀ event ∈ wavemakersOnlineRun, event.Answered := by
  have hothers (events : List Installation.Event) :
      ∀ event ∈ events.map Network.Event.other, event.Answered := by
    intro event hevent
    obtain ⟨_, _, rfl⟩ := List.mem_map.mp hevent
    trivial
  intro event hevent
  rcases List.mem_append.mp hevent with hevent | hevent
  · rcases List.mem_append.mp hevent with hevent | hevent
    · exact hothers _ event hevent
    · fin_cases hevent
      · trivial
      · exact loggingIn_answered
      · exact ⟨⟨0x91, stateReplyAction :: 1 :: 0 :: 30 :: List.replicate 398 0, 0⟩,
          by decide +kernel, rfl⟩
  · exact hothers _ event hevent

theorem wavemakersOnline_atRest : wavemakersOnline.installation.deployment.AtRest :=
  ⟨by decide +kernel, by decide +kernel, session_empty (by decide +kernel)⟩

theorem dashboard_shows_answers_wavemakers :
    ActualPowerSensor.nativeValue wavemakersOnline.installation.deployment.home.state.1
        ((tankSite pairedTank).deviceEntity leftWavemaker "actual_power") = .ok (some 30)
      ∧ ∃ said : List Answer, said.length = 1 ∧ said.Sublist wavemakersOnline.answers
        ∧ List.Forall₂ Answer.Says said
          (Sight.of leftWavemaker.id wavemakersOnline.installation.observer.events).reads := by
  have hinit := @startState_eq pairedTank steadyUnits (fun _ => 0) (by decide +kernel)
  obtain ⟨⟨said, hsublist, _, hsays⟩, hshown⟩ := @dashboard_shows_answers (tankSite pairedTank) _ _
    hinit plainConversions wavemakersOnlineRun wavemakersOnlineRun_answered leftWavemaker
    (List.mem_cons_self ..)
  obtain ⟨_, _, hshown⟩ := hshown wavemakersOnline_atRest
  have hread : (Sight.of leftWavemaker.id
      wavemakersOnline.installation.observer.events).reads.length = 1 := by decide +kernel
  have hnewest : (Sight.of leftWavemaker.id wavemakersOnline.installation.observer.events).newest.map
      (fun state => (state.power.val : ℤ)) = some 30 := by decide +kernel
  unfold wavemakersOnline at hread hnewest ⊢
  exact ⟨hshown.actualPower.trans (congrArg Except.ok hnewest), said,
    hsays.length_eq.trans hread, hsublist, hsays⟩

/--
**The daemon controls no pump.**

Whatever happens to the daemon, its pumps and the network, restarts and forged answers included:
everything that is ever written to a pump over a session is a frame that asks for a passcode, logs in
or asks for a status. What the discovery broadcasts goes over no session.
-/
theorem daemon_only_asks (service : ServiceState) (events : List Network.Event) :
    PlainRequests (exec Network.step (Network.start service : Network site) events).written :=
  @invariant_exec _ _ _ (fun n : Network site => PlainRequests n.written)
    (fun _ event hplain => Network.plain_step event hplain) events _ plainRequests_nil

end Run

end JebaoFlow
