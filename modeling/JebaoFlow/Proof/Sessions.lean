import JebaoFlow.Proof.Journal
import JebaoFlow.Proof.Wire
import JebaoFlow.Network

/-!
# Sessions that are used until they fail

A session that has timed out may return the answer to an earlier request. A worker of the observer
never gets to see such an answer: when a call has raised it closes its device, and builds another one
when it tries again. What is left to show of the session is that a call which returns has read all
that the pump sent, and that a status it returns came in answer to this very call.
-/

namespace JebaoFlow

open GizwitsSession

variable {cfg : AppConfig} {s s' : ObserverState} {i : ℕ} {worker worker' : Worker}

/-! ## Workers on their sessions -/

/-- The worker goes on with its session after what it awaits, if that does not raise. -/
def Phase.inUse : Phase → Bool
  | .connecting | .reading | .polling => true
  | .waiting record | .queued record | .writing record _ => record.current.isSome
  | _ => false

/-- What a session call or a delay of the worker is awaited in. -/
def Phase.awaits : Phase → Bool
  | .connecting | .reading | .polling => true
  | _ => false

/-- The worker uses a session after this step only if this holds before it. -/
def WorkerAction.Keeps (worker : Worker) : WorkerAction → Prop
  | .begin _ _ => True
  | .failed _ _ => worker.phase.inUse = true ∧ worker.phase.awaits = false
  | .left => False
  | .interrupted => worker.phase.inUse = true ∧ worker.cancelled = false
  | _ => worker.phase.inUse = true

theorem close_inUse (last : Bool) : (worker.close last).phase.inUse = false := by
  unfold Worker.close
  split
  · cases last <;> rfl
  · rfl

theorem Failed.inUse (h : Failed worker' worker) : worker'.phase.inUse = false := by
  rcases h with ⟨record, rfl | rfl, _, hnone⟩ | rfl
  · show record.current.isSome = false
    rw [hnone]
    rfl
  · show record.current.isSome = false
    rw [hnone]
    rfl
  · exact close_inUse false

theorem terminate_inUse : worker.terminate.phase.inUse = false := by
  unfold Worker.terminate
  split
  · rfl
  · rfl
  · rfl
  · rfl
  · exact close_inUse true

/-- **A worker whose call raised does not use its session again.** -/
theorem workerStep_keeps (h : s.workers[i]? = some worker) (action : WorkerAction) :
    ∃ worker', Stepped s (workerStep s i worker action) i worker'
      ∧ (worker'.phase.inUse = true → action.Keeps worker) := by
  have hfail (error : String) (occurredAt : Datetime) : ∃ worker',
      Stepped s (s.fail i worker error occurredAt) i worker'
        ∧ (worker'.phase.inUse = true → (WorkerAction.failed error occurredAt).Keeps worker) := by
    obtain ⟨worker', hstepped, hfailed⟩ := fail_stepped s i worker error occurredAt
    refine ⟨worker', hstepped, fun huse => ?_⟩
    rw [hfailed.inUse] at huse
    cases huse
  have hset (phase : Phase) (hkeeps : phase.inUse = true → action.Keeps worker) : ∃ worker',
      Stepped s (s.setWorker i { worker with phase }) i worker'
        ∧ (worker'.phase.inUse = true → action.Keeps worker) :=
    ⟨_, stepped_setWorker .., hkeeps⟩
  unfold workerStep
  split
  case h_1 hphase =>
      obtain ⟨worker', hstepped, _⟩ := begin_stepped s i _ _ (Or.inl hphase)
      exact ⟨worker', hstepped, fun _ => trivial⟩
  case h_2 hphase =>
      obtain ⟨worker', hstepped, _⟩ := begin_stepped s i _ _ (Or.inr hphase)
      exact ⟨worker', hstepped, fun _ => trivial⟩
  case h_3 hphase =>
      refine hset .reading fun _ => ?_
      show worker.phase.inUse = true
      rw [hphase]
      rfl
  case h_4 hphase =>
      have hold : worker.phase.inUse = true := by rw [hphase]; rfl
      split
      · rename_i hreport
        obtain ⟨worker', hstepped, _⟩ := append_stepped _ i worker _
        exact ⟨worker', reported_stepped hreport hstepped, fun _ => hold⟩
      · rename_i hreport
        exact ⟨_, reported_stepped hreport (stepped_setWorker ..), fun _ => hold⟩
  case h_5 | h_6 | h_7 => exact hfail _ _
  case h_8 hphase =>
      split
      · refine ⟨_, ⟨rfl, rfl, rfl, List.prefix_rfl⟩, fun huse => ?_⟩
        show worker.phase.inUse = true
        rw [hphase]
        exact huse
      · exact ⟨worker, stepped_self h, id⟩
  case h_9 hphase =>
      refine ⟨_, ⟨rfl, rfl, rfl, List.prefix_rfl⟩, fun huse => ?_⟩
      show worker.phase.inUse = true
      rw [hphase]
      exact huse
  case h_10 hphase =>
      split
      · exact ⟨worker, stepped_self h, id⟩
      · refine ⟨_, release_stepped (stepped_setWorker ..), fun huse => ?_⟩
        show worker.phase.inUse = true
        unfold Worker.resume at huse
        split at huse
        · rename_i hsome
          rw [hphase]
          exact hsome
        · rw [close_inUse] at huse
          cases huse
  case h_11 hphase =>
      refine hset .reading fun _ => ?_
      show worker.phase.inUse = true
      rw [hphase]
      rfl
  case h_12 last _ =>
      refine ⟨_, stepped_setWorker .., fun huse => ?_⟩
      cases last <;> cases huse
  case h_13 =>
      refine ⟨_, release_stepped (stepped_setWorker ..), fun huse => ?_⟩
      rw [terminate_inUse] at huse
      cases huse
  case h_14 =>
      split
      · refine ⟨_, release_stepped (stepped_setWorker ..), fun huse => ?_⟩
        rw [terminate_inUse] at huse
        cases huse
      · rename_i hnot
        exact ⟨worker, stepped_self h, fun huse => ⟨huse, Bool.eq_false_iff.mpr hnot⟩⟩
  case h_15 action _ _ hleft hinterrupted _ _ _ _ hconnecting hreading hpolling _ _ _ _ _ =>
      refine ⟨worker, stepped_self h, fun huse => ?_⟩
      cases haction : action with
      | failed error occurredAt =>
          refine ⟨huse, ?_⟩
          cases hphase : worker.phase with
          | connecting => exact (hconnecting error occurredAt haction hphase).elim
          | reading => exact (hreading error occurredAt haction hphase).elim
          | polling => exact (hpolling error occurredAt haction hphase).elim
          | _ => rfl
      | left => exact hleft haction
      | interrupted => exact (hinterrupted haction).elim
      | begin => trivial
      | _ => exact huse

/-! ## What is reported -/

/-- The states of pumps among the events. -/
def readings (events : List ObserverEvent) : List (String × DeviceState) :=
  events.filterMap (fun event => event.state.map (fun state => (event.deviceId, state)))

theorem readings_quiet {event : ObserverEvent} (h : s'.events = s.events ++ [event])
    (hnone : event.state = none) : readings s'.events = readings s.events := by
  rw [h]
  unfold readings
  rw [List.filterMap_append, List.filterMap_cons, hnone]
  exact List.append_nil _

theorem readings_read {event : ObserverEvent} {state : DeviceState}
    (h : s'.events = s.events ++ [event]) (hsome : event.state = some state) :
    readings s'.events = readings s.events ++ [(event.deviceId, state)] := by
  rw [h]
  unfold readings
  rw [List.filterMap_append, List.filterMap_cons, hsome]
  rfl

/-- What the step adds, which is at most the state it has read. -/
def Reports (s s' : ObserverState) (deviceId : String) (action : WorkerAction) : Prop :=
  readings s'.events = readings s.events
    ∨ ∃ state, action = .read state ∧ readings s'.events = readings s.events ++ [(deviceId, state)]

theorem reports_none {deviceId : String} {action : WorkerAction} (h : s'.events = s.events) :
    Reports s s' deviceId action := Or.inl (congrArg readings h)

theorem append_events (s : ObserverState) (i : ℕ) (worker : Worker) (record : JournalRecord) :
    (s.append i worker record).events = s.events := by
  unfold ObserverState.append
  split <;> rfl

theorem release_events (s : ObserverState) (i : ℕ) : (s.release i).events = s.events := by
  unfold ObserverState.release
  split <;> rfl

theorem fail_events (s : ObserverState) (i : ℕ) (worker : Worker) (error : String)
    (occurredAt : Datetime) : (s.fail i worker error occurredAt).events = s.events
      ++ [{ deviceId := worker.deviceId, status := .offline, occurredAt, error := some error }] := by
  unfold ObserverState.fail
  split
  · rename_i reported record hreport
    rw [append_events]
    exact congrArg (fun result => result.1.events) hreport.symm
  · rename_i reported hreport
    exact congrArg (fun result => result.1.events) hreport.symm

/-- **A worker reports a state only when it has read one.** -/
theorem workerStep_reports (s : ObserverState) (i : ℕ) (worker : Worker) (action : WorkerAction) :
    Reports s (workerStep s i worker action) worker.deviceId action := by
  unfold workerStep
  split
  case h_1 | h_2 =>
      unfold ObserverState.begin
      dsimp only
      split
      · exact Or.inl (readings_quiet rfl rfl)
      · exact Or.inl ((readings_quiet (fail_events ..) rfl).trans (readings_quiet rfl rfl))
  case h_3 | h_11 | h_12 => exact reports_none rfl
  case h_4 state _ =>
      refine Or.inr ⟨state, rfl, ?_⟩
      split
      · rename_i hreport
        exact readings_read ((append_events ..).trans
          (congrArg (fun result => result.1.events) hreport.symm)) rfl
      · rename_i hreport
        exact readings_read (congrArg (fun result => result.1.events) hreport.symm) rfl
  case h_5 | h_6 | h_7 => exact Or.inl (readings_quiet (fail_events ..) rfl)
  case h_8 => split <;> exact reports_none rfl
  case h_9 => exact reports_none rfl
  case h_10 =>
      split
      · exact reports_none rfl
      · exact reports_none (release_events s i)
  case h_13 => exact reports_none (release_events s i)
  case h_14 =>
      split
      · exact reports_none (release_events s i)
      · exact reports_none rfl
  case h_15 => exact reports_none rfl

/-- No worker comes to use a session, and no state is reported. -/
structure Elsewhere (s s' : ObserverState) : Prop where
  workers : ∀ {j : ℕ} {worker' : Worker}, s'.workers[j]? = some worker' →
    worker'.phase.inUse = true → ∃ worker, s.workers[j]? = some worker ∧ worker.phase.inUse = true
  events : readings s'.events = readings s.events

theorem elsewhere_of_same (hworkers : s'.workers = s.workers) (hevents : s'.events = s.events) :
    Elsewhere s s' where
  workers hget huse := ⟨_, hworkers ▸ hget, huse⟩
  events := congrArg readings hevents

theorem Elsewhere.trans {t : ObserverState} (h : Elsewhere s s') (h' : Elsewhere s' t) :
    Elsewhere s t where
  workers hget huse := by
    obtain ⟨worker', hget', huse'⟩ := h'.workers hget huse
    exact h.workers hget' huse'
  events := h'.events.trans h.events

theorem Asked.elsewhere {asked : ℕ → Bool} (h : Asked s s' asked) : Elsewhere s s' where
  workers {j worker'} hget huse := by
    rw [h.workers, Option.map_eq_some_iff] at hget
    obtain ⟨worker, hworker, rfl⟩ := hget
    exact ⟨worker, hworker, huse⟩
  events := congrArg readings h.events

theorem elsewhere_spawn (s : ObserverState) (config : DeviceConfig) (endpoint : ResolvedDevice) :
    Elsewhere s (s.spawn config endpoint) where
  workers hget huse := by
    rcases spawn_getElem?.mp hget with hget | ⟨_, rfl⟩
    · exact ⟨_, hget, huse⟩
    · cases huse
  events := rfl

theorem elsewhere_unmap (s : ObserverState) (config : DeviceConfig) (occurredAt : Datetime) :
    Elsewhere s (s.unmap config occurredAt) where
  workers hget huse := ⟨_, hget, huse⟩
  events := readings_quiet rfl rfl

/-- **Only the steps of the workers concern the sessions.** -/
theorem observerStep_elsewhere {action : ObserverAction} (h : ∀ i step, action ≠ .worker i step) :
    Elsewhere s (observerStep cfg s action) := by
  have hstay : Elsewhere s s := elsewhere_of_same rfl rfl
  have hgo (reconciler : Reconciler) (table : Dict String (ResolvedDevice × ℕ)) :
      Elsewhere s { s with reconciler, table } := elsewhere_of_same rfl rfl
  have hstop : Elsewhere s s.stop := by
    obtain ⟨asked, hasked⟩ := asked_stop s
    exact hasked.elsewhere
  unfold observerStep
  split
  case h_1 => split <;> exact elsewhere_of_same rfl rfl
  case h_2 =>
      split
      · split
        · exact hgo _ s.table
        · exact hgo _ s.table
        · exact hstop
      · exact hgo _ s.table
  case h_3 => exact hgo _ s.table
  case h_4 =>
      have hcancel (j : ℕ) (reconciler : Reconciler) : Elsewhere s { s.cancel j with reconciler } :=
        (asked_cancel s j).elsewhere.trans (elsewhere_of_same rfl rfl)
      unfold ObserverState.bindOne
      dsimp only
      split
      · exact (hgo _ s.table).trans (elsewhere_unmap ..)
      · exact hcancel _ _
      · exact (hgo _ s.table).trans (elsewhere_spawn ..)
      · split
        · exact hgo _ s.table
        · exact hcancel _ _
  case h_5 =>
      split
      · unfold ObserverState.bindGathered
        dsimp only
        split
        · exact (hgo _ _).trans (elsewhere_unmap ..)
        · exact (hgo _ s.table).trans (elsewhere_spawn ..)
      · exact hstay
  case h_6 | h_7 => exact hstay
  case h_8 => exact hstop
  case h_9 => split <;> exact elsewhere_of_same rfl rfl
  case h_10 => exact absurd rfl (h _ _)
  case h_11 => split <;> exact elsewhere_of_same rfl rfl
  case h_12 => exact elsewhere_of_same rfl rfl
  case h_13 => exact hstay

/-! ## Calls on a session with nothing unread -/

section Calls

variable {session : GizwitsSession} {dev : LanJebaoDevice} {k k' : LanStack}

/-- The reply is a status that makes this state of the pump. -/
def Answer.Says (answer : Answer) (state : DeviceState) : Prop :=
  ∃ frame raw values, decodeFrame answer.reply = .ok frame ∧ statusOf frame = .ok raw
    ∧ answer.adapter.schema.decodeStatus raw = .ok values
    ∧ answer.adapter.stateOf raw values answer.observedAt = .ok state

theorem connect_unread {s : SessionState} {opened : Except ProtocolError Unit}
    (hsettled : s.unread = []) : (s.connect opened).2.unread = [] := by
  unfold SessionState.connect
  split
  · exact hsettled
  · split
    · exact hsettled
    · rfl

theorem authenticate_unread {s s' : SessionState} {passcodeIo loginIo : ExchangeIo} {passcode : Bytes}
    (hpasscode : IsReply .passcodeResponse passcodeIo.reply)
    (hlogin : IsReply .loginResponse loginIo.reply) (hsettled : s.unread = [])
    (h : session.authenticate passcodeIo loginIo s = (.ok passcode, s')) : s'.unread = [] := by
  obtain ⟨first, s₁, payload, second, s₂, hlogs, _, rfl⟩ := authenticate_ok_iff.mp h
  have hfirst := (ownReply_iff hpasscode hlogs.passcode).mpr (not_overtaken_of_settled hsettled)
  exact ((ownReply_iff hlogin hlogs.login).mpr (not_overtaken_of_settled hfirst.2)).2

/-- A device that has connected has read all that the pump sent. -/
theorem connect_settled {opened : Except ProtocolError Unit} {passcodeIo loginIo : ExchangeIo}
    (hpasscode : IsReply .passcodeResponse passcodeIo.reply)
    (hlogin : IsReply .loginResponse loginIo.reply) (hsettled : k.session.unread = [])
    (h : k.connect session opened passcodeIo loginIo = (.ok (), k')) : k'.session.unread = [] := by
  unfold LanStack.connect at h
  split at h
  · cases h
  · dsimp only at h
    have hopened : (k.call session (.connect opened)).session.unread = [] := connect_unread hsettled
    generalize k.call session (.connect opened) = called at h hopened
    cases hlogged : session.authenticate passcodeIo loginIo called.session with
    | mk result s' =>
        rw [hlogged] at h
        cases result with
        | error e => cases h
        | ok passcode =>
            have hread := authenticate_unread hpasscode hlogin hopened hlogged
            obtain ⟨_, rfl⟩ := Prod.mk.inj h
            show (session.authenticate passcodeIo loginIo called.session).2.unread = []
            rw [hlogged]
            exact hread

/-- **A status that is read is the answer to this read.** -/
theorem getState_answered {io : ExchangeIo} {observedAt : Datetime} {state : DeviceState}
    (hreply : IsReply .serialTransmitResponse io.reply) (hsettled : k.session.unread = [])
    (h : k.getState session dev io observedAt = (.ok state, k')) (deviceId : String) :
    k'.session.unread = []
      ∧ Answer.Says { deviceId, adapter := dev, reply := io.reply, observedAt } state := by
  unfold LanStack.getState at h
  dsimp only at h
  obtain ⟨hresult, rfl⟩ := Prod.mk.inj h
  unfold LanStack.readRawState at hresult
  show (session.readRawState io k.session).2.unread = [] ∧ _
  cases hraw : session.readRawState io k.session with
  | mk result s' =>
      rw [hraw] at hresult
      cases result with
      | error e => cases hresult
      | ok raw =>
          obtain ⟨_, frame, hexchange, hstatus⟩ := readRawState_ok_iff.mp hraw
          have hown := (ownReply_iff hreply hexchange).mpr (not_overtaken_of_settled hsettled)
          refine ⟨hown.2, ?_⟩
          unfold LanJebaoDevice.getState LanJebaoDevice.readValues at hresult
          dsimp only [Except.mapError] at hresult
          cases hvalues : dev.schema.decodeStatus raw with
          | error e =>
              rw [hvalues] at hresult
              cases hresult
          | ok values =>
              rw [hvalues] at hresult
              dsimp only at hresult
              cases hmade : dev.stateOf raw values observedAt with
              | error e =>
                  rw [hmade] at hresult
                  cases hresult
              | ok made =>
                  rw [hmade] at hresult
                  cases hresult
                  exact ⟨frame, raw, values, hown.1, hstatus, hvalues, hmade⟩

end Calls

/-! ## What the calls write -/

section Written

variable {session : GizwitsSession} {dev : LanJebaoDevice} (k : LanStack)

/-- The call wrote requests that control nothing. -/
def WritesPlainly (k k' : LanStack) : Prop := ∃ new, k'.written = k.written ++ new ∧ PlainRequests new

theorem writesPlainly_call {op : SessionOp} (h : op.Plain) : WritesPlainly k (k.call session op) :=
  ⟨_, rfl, writes_plain h k.session⟩

theorem WritesPlainly.trans {k k' k'' : LanStack} (h : WritesPlainly k k') (h' : WritesPlainly k' k'') :
    WritesPlainly k k'' := by
  obtain ⟨new, hnew, hplain⟩ := h
  obtain ⟨new', hnew', hplain'⟩ := h'
  exact ⟨new ++ new', by rw [hnew', hnew, List.append_assoc], hplain.append hplain'⟩

theorem connect_writes (opened : Except ProtocolError Unit) (passcodeIo loginIo : ExchangeIo) :
    WritesPlainly k (k.connect session opened passcodeIo loginIo).2 := by
  have hopened : WritesPlainly k (k.call session (.connect opened)) := writesPlainly_call k trivial
  have hlogged : WritesPlainly (k.call session (.connect opened))
      ((k.call session (.connect opened)).call session (.authenticate passcodeIo loginIo)) :=
    writesPlainly_call _ trivial
  unfold LanStack.connect
  split
  · exact hopened
  · exact hopened.trans hlogged

theorem getState_writes (io : ExchangeIo) (observedAt : Datetime) :
    WritesPlainly k (k.getState session dev io observedAt).2 := by
  have hread : WritesPlainly k (k.call session (.readRawState io)) := writesPlainly_call k trivial
  exact hread

theorem disconnect_writes : WritesPlainly k (k.disconnect session) := by
  have hclosed : WritesPlainly k (k.call session .disconnect) := writesPlainly_call k trivial
  exact hclosed

end Written

end JebaoFlow
