import JebaoFlow.Proof.Signatures

/-!
# The grammar of the journal

Which record a report writes depends on two things the observer remembers of the device:
the state it reported last, and whether it is offline. The two report functions update
them in different orders, so a device can be offline before it was ever seen.

As long as the writes succeed, what is in the journal is a word of a small language, cut
off somewhere; the invariant says how much of the word has been written for each value of
that memory. The memory does not depend on the writes: a call whose write failed has
changed it all the same, and the next call goes on from there.
-/

namespace JebaoFlow

/-! ## The language -/

/-- What follows the first read: changes, and recoveries of a device that went offline. -/
inductive Rounds : List JournalEvent → Prop
  | none : Rounds []
  | changed {events : List JournalEvent} (h : Rounds events) : Rounds (events ++ [.stateChanged])
  | recovered {events : List JournalEvent} (h : Rounds events) :
      Rounds (events ++ [.offline, .recovered])

/-- The whole history of a device: it may be offline first, and it is first seen once. -/
def JournalHistory (events : List JournalEvent) : Prop :=
  ∃ opening rounds, (opening = [] ∨ opening = [.offline]) ∧ Rounds rounds
    ∧ events = opening ++ .firstSeen :: rounds

theorem JournalHistory.changed {events : List JournalEvent} (h : JournalHistory events) :
    JournalHistory (events ++ [.stateChanged]) := by
  obtain ⟨opening, rounds, hopening, hrounds, rfl⟩ := h
  exact ⟨opening, rounds ++ [.stateChanged], hopening, .changed hrounds, by simp⟩

theorem JournalHistory.recovered {events : List JournalEvent} (h : JournalHistory events) :
    JournalHistory (events ++ [.offline] ++ [.recovered]) := by
  obtain ⟨opening, rounds, hopening, hrounds, rfl⟩ := h
  exact ⟨opening, rounds ++ [.offline, .recovered], hopening, .recovered hrounds, by simp⟩

/-- How much is written, by whether a state was reported and whether the device is offline. -/
def SoFar (events : List JournalEvent) (seen isOffline : Bool) : Prop :=
  match seen, isOffline with
  | false, false => events = []
  | false, true => events = [.offline]
  | true, false => JournalHistory events
  | true, true => ∃ history, JournalHistory history ∧ events = history ++ [.offline]

/-- **What is written is a history, cut off.** -/
theorem SoFar.cut {events : List JournalEvent} {seen isOffline : Bool}
    (h : SoFar events seen isOffline) : ∃ history, JournalHistory history ∧ events <+: history := by
  cases seen with
  | false =>
      have hfirst : JournalHistory ([.offline] ++ [.firstSeen]) :=
        ⟨[.offline], [], Or.inr rfl, .none, rfl⟩
      cases isOffline with
      | false => exact ⟨_, hfirst, h ▸ List.nil_prefix⟩
      | true => exact ⟨_, hfirst, h ▸ List.prefix_append ..⟩
  | true =>
      cases isOffline with
      | false => exact ⟨events, h, List.prefix_refl _⟩
      | true =>
          obtain ⟨history, hhistory, rfl⟩ := h
          exact ⟨_, hhistory.recovered, List.prefix_append ..⟩

/-! ## What a report writes -/

/-- The event of a report, given what is remembered of its device. -/
def written (previous : Option DeviceState) (isOffline : Bool) : Report → Option JournalEvent
  | .online _ state =>
      match previous with
      | none => some .firstSeen
      | some previous =>
          if isOffline then some .recovered
          else if previous.sameSignature state = false then some .stateChanged
          else none
  | .offline .. => if isOffline then none else some .offline

/-- The next event keeps to the language. -/
theorem SoFar.step {events : List JournalEvent} {previous : Option DeviceState} {isOffline : Bool}
    (h : SoFar events previous.isSome isOffline) (report : Report) :
    SoFar (events ++ (written previous isOffline report).toList)
      (match report with
        | .online .. => true
        | .offline .. => previous.isSome)
      (match report with
        | .online .. => false
        | .offline .. => true) := by
  cases report with
  | online deviceId state =>
      cases previous with
      | none =>
          -- seen for the first time, from the start or after it was offline
          cases isOffline with
          | false => exact ⟨[], [], Or.inl rfl, .none, by rw [show events = [] from h]; rfl⟩
          | true =>
              exact ⟨[.offline], [], Or.inr rfl, .none, by rw [show events = [.offline] from h]; rfl⟩
      | some previous =>
          cases isOffline with
          | false =>
              have hhistory : JournalHistory events := h
              cases hsame : previous.sameSignature state with
              | true =>
                  have hnone : written (some previous) false (.online deviceId state) = none := by
                    simp [written, hsame]
                  rw [hnone]
                  exact (List.append_nil events).symm ▸ hhistory
              | false =>
                  have hchanged : written (some previous) false (.online deviceId state)
                      = some .stateChanged := by simp [written, hsame]
                  rw [hchanged]
                  exact hhistory.changed
          | true =>
              obtain ⟨history, hhistory, rfl⟩ := h
              exact hhistory.recovered
  | offline deviceId error occurredAt =>
      cases isOffline with
      | true => exact (List.append_nil events).symm ▸ h
      | false =>
          cases previous with
          | none => exact (show events = [] from h) ▸ rfl
          | some previous => exact ⟨events, h, rfl⟩

section Reports

variable (s : ObserverState) (report : Report) (call : Completed)

/-- The events in the journal of a device. -/
def eventsOf (deviceId : String) (s : ObserverState) : List JournalEvent :=
  (journalOf deviceId s).map JournalRecord.event

/-- The record has this event, and what was remembered as its `previous`. -/
theorem report_record :
    (s.report report).2.map JournalRecord.event
        = written (s.lastStates.get? report.deviceId) (report.deviceId ∈ s.offline) report
      ∧ ∀ record ∈ (s.report report).2, record.deviceId = report.deviceId
        ∧ record.previous = s.lastStates.get? report.deviceId := by
  cases report with
  | online deviceId state =>
      show (s.reportState deviceId state).2.map JournalRecord.event = written _ _ _
        ∧ ∀ record ∈ (s.reportState deviceId state).2, _
      unfold ObserverState.reportState written Report.deviceId
      cases hprevious : s.lastStates.get? deviceId with
      | none =>
          refine ⟨rfl, fun record h => ?_⟩
          cases h
          exact ⟨rfl, rfl⟩
      | some previous =>
          dsimp only
          cases decide (deviceId ∈ s.offline) with
          | true =>
              refine ⟨rfl, fun record h => ?_⟩
              cases h
              exact ⟨rfl, rfl⟩
          | false =>
              cases previous.sameSignature state with
              | true => exact ⟨rfl, fun record h => by cases h⟩
              | false =>
                  refine ⟨rfl, fun record h => ?_⟩
                  cases h
                  exact ⟨rfl, rfl⟩
  | offline deviceId error occurredAt =>
      show (s.reportOffline deviceId error occurredAt).2.map JournalRecord.event = written _ _ _
        ∧ ∀ record ∈ (s.reportOffline deviceId error occurredAt).2, _
      unfold ObserverState.reportOffline written Report.deviceId
      by_cases hoffline : deviceId ∈ s.offline
      · rw [decide_eq_true hoffline]
        simp only [hoffline, not_true_eq_false, decide_false]
        exact ⟨rfl, fun record h => by cases h⟩
      · rw [decide_eq_false hoffline]
        simp only [hoffline, not_false_eq_true, decide_true]
        refine ⟨rfl, fun record h => ?_⟩
        cases h
        exact ⟨rfl, rfl⟩

/-- The memory and the sink do not depend on the write. -/
theorem complete_memory : (s.complete call).lastStates = (s.report call.report).1.lastStates
    ∧ (s.complete call).offline = (s.report call.report).1.offline
    ∧ (s.complete call).events = (s.report call.report).1.events := by
  unfold ObserverState.complete
  dsimp only
  split <;> exact ⟨rfl, rfl, rfl⟩

/-- A report of a state is what is remembered, and one of another device changes nothing. -/
theorem complete_lastStates (deviceId : String) : (s.complete call).lastStates.get? deviceId
    = (call.report.stateOf deviceId).or (s.lastStates.get? deviceId) := by
  rw [(complete_memory s call).1]
  cases call.report with
  | online other state =>
      show (s.lastStates.set other state).get? deviceId = _
      rw [Dict.get?_set, Report.stateOf]
      by_cases h : other = deviceId
      · rw [if_pos h, if_pos h]
        rfl
      · rw [if_neg h, if_neg h]
        rfl
  | offline other error occurredAt => rfl

/-- A device is offline from its report on, until a state of it is reported. -/
theorem complete_offline (deviceId : String) : deviceId ∈ (s.complete call).offline
    ↔ (∃ error occurredAt, call.report = .offline deviceId error occurredAt)
      ∨ (deviceId ∈ s.offline ∧ call.report.stateOf deviceId = none) := by
  rw [(complete_memory s call).2.1]
  cases call.report with
  | online other state =>
      show deviceId ∈ s.offline.filter (fun known => known ≠ other) ↔ _
      rw [List.mem_filter, Report.stateOf]
      by_cases h : other = deviceId
      · simp [h]
      · simp [h, Ne.symm h]
  | offline other error occurredAt =>
      have hreport : (∃ error' occurredAt', Report.offline other error occurredAt
          = .offline deviceId error' occurredAt') ↔ other = deviceId := by
        constructor
        · rintro ⟨_, _, h⟩
          exact (Report.offline.inj h).1
        · rintro rfl
          exact ⟨error, occurredAt, rfl⟩
      show deviceId ∈ (if decide (other ∉ s.offline) then other :: s.offline else s.offline) ↔ _
      rw [hreport, Report.stateOf]
      by_cases hother : other ∈ s.offline
      · rw [if_neg (by simpa using hother)]
        exact ⟨fun h => Or.inr ⟨h, rfl⟩, fun h => h.elim (fun h => h ▸ hother) And.left⟩
      · rw [if_pos (by simpa using hother), List.mem_cons, eq_comm]
        simp

/-- Up to its record, a call does not touch the file. -/
theorem report_file : (s.report report).1.file = s.file := by
  cases report with
  | online other state => rfl
  | offline other error occurredAt => rfl

/-- The file has one line more when there is a record and its write succeeds. -/
theorem complete_file : (s.complete call).file
    = s.file ++ (if call.written then (s.report call.report).2.toList else []) := by
  unfold ObserverState.complete
  dsimp only
  split
  · show (s.report call.report).1.file ++ _ = _
    rw [report_file]
  · show (s.report call.report).1.file = _
    rw [report_file, List.append_nil]

/-- A call for another device adds nothing to the journal of this one. -/
theorem complete_journal_other {deviceId : String} (h : call.report.deviceId ≠ deviceId) :
    journalOf deviceId (s.complete call) = journalOf deviceId s := by
  have hrecord := (report_record s call.report).2
  unfold journalOf
  rw [complete_file, List.filter_append, List.append_right_eq_self, List.filter_eq_nil_iff]
  intro record hmem hid
  split at hmem
  · exact h ((hrecord record (Option.mem_toList.mp hmem)).1.symm.trans (of_decide_eq_true hid))
  · exact List.not_mem_nil hmem

/-- What a successful call adds to the journal of its device. -/
theorem complete_journal : journalOf report.deviceId (s.complete { report })
    = journalOf report.deviceId s ++ (s.report report).2.toList := by
  have hrecord := (report_record s report).2
  unfold journalOf
  rw [complete_file, if_pos rfl, List.filter_append]
  congr 1
  rw [List.filter_eq_self]
  intro record hmem
  exact decide_eq_true (hrecord record (Option.mem_toList.mp hmem)).1

theorem complete_events : eventsOf report.deviceId (s.complete { report })
    = eventsOf report.deviceId s ++ (written (s.lastStates.get? report.deviceId)
        (report.deviceId ∈ s.offline) report).toList := by
  unfold eventsOf
  rw [complete_journal, List.map_append, ← (report_record s report).1]
  cases (s.report report).2 <;> rfl

end Reports

/-! ## Sequences of calls -/

theorem observed_append (calls : List Completed) (call : Completed) :
    observed (calls ++ [call]) = (observed calls).complete call := by
  unfold observed
  rw [Run.exec_append]
  rfl

theorem lastState_append (deviceId : String) (calls : List Completed) (call : Completed) :
    lastState deviceId (calls ++ [call])
      = (call.report.stateOf deviceId).or (lastState deviceId calls) := by
  unfold lastState
  rw [List.filterMap_append, List.getLast?_append]
  cases h : call.report.stateOf deviceId with
  | none => simp [h]
  | some state => simp [h]

theorem offlineSince_append {deviceId : String} {calls : List Completed} {call : Completed} :
    OfflineSince deviceId (calls ++ [call])
      ↔ (∃ error occurredAt, call.report = .offline deviceId error occurredAt)
        ∨ (OfflineSince deviceId calls ∧ call.report.stateOf deviceId = none) := by
  constructor
  · rintro ⟨before, error, occurredAt, written, after, heq, hafter⟩
    rcases List.eq_nil_or_concat after with rfl | ⟨after, last, rfl⟩
    · obtain rfl := List.append_inj_right' heq rfl |> List.singleton_inj.mp
      exact Or.inl ⟨error, occurredAt, rfl⟩
    · have hsplit : calls ++ [call]
          = (before ++ ⟨.offline deviceId error occurredAt, written⟩ :: after) ++ [last] := by
        rw [heq, List.concat_eq_append, List.append_assoc, List.cons_append]
      obtain ⟨hcalls, hlast⟩ := List.append_inj' hsplit rfl
      obtain rfl := List.singleton_inj.mp hlast
      rw [List.concat_eq_append] at hafter
      exact Or.inr ⟨⟨before, error, occurredAt, written, after, hcalls,
        fun c hc => hafter c (List.mem_append_left _ hc)⟩,
        hafter call (List.mem_append_right _ (List.mem_singleton_self _))⟩
  · rintro (⟨error, occurredAt, hreport⟩ |
      ⟨⟨before, error, occurredAt, written, after, rfl, hafter⟩, hnone⟩)
    · exact ⟨calls, error, occurredAt, call.written, [], by rw [← hreport],
        fun c hc => absurd hc List.not_mem_nil⟩
    · refine ⟨before, error, occurredAt, written, after ++ [call], by simp, fun c hc => ?_⟩
      rcases List.mem_append.mp hc with hc | hc
      · exact hafter c hc
      · exact List.mem_singleton.mp hc ▸ hnone

/-- **The observer remembers the last state, and whether the device was offline since.** -/
theorem observed_memory (deviceId : String) (calls : List Completed) :
    (observed calls).lastStates.get? deviceId = lastState deviceId calls
      ∧ (deviceId ∈ (observed calls).offline ↔ OfflineSince deviceId calls) := by
  induction calls using List.reverseRecOn with
  | nil =>
      refine ⟨rfl, fun h => (by cases h), ?_⟩
      rintro ⟨before, error, occurredAt, written, after, heq, _⟩
      exact absurd heq.symm (by simp)
  | append_singleton calls call ih =>
      rw [observed_append, complete_lastStates, complete_offline, lastState_append,
        offlineSince_append, ih.1, ih.2]
      exact ⟨rfl, Iff.rfl⟩

/-- A call for another device leaves what is remembered of this one. -/
theorem stateOf_other {deviceId : String} {report : Report} (h : report.deviceId ≠ deviceId) :
    report.stateOf deviceId = none := by
  cases report with
  | online other state => exact if_neg h
  | offline other error occurredAt => rfl

theorem complete_offline_other (s : ObserverState) {deviceId : String} {call : Completed}
    (h : call.report.deviceId ≠ deviceId) :
    deviceId ∈ (s.complete call).offline ↔ deviceId ∈ s.offline := by
  refine (complete_offline s call deviceId).trans ⟨?_, fun hmem => Or.inr ⟨hmem, stateOf_other h⟩⟩
  rintro (⟨_, _, hreport⟩ | ⟨hmem, _⟩)
  · rw [hreport] at h
    exact absurd rfl h
  · exact hmem

/-- The journal of a device is a history, cut off where the memory says. -/
def WrittenSoFar (deviceId : String) (s : ObserverState) : Prop :=
  SoFar (eventsOf deviceId s) (s.lastStates.get? deviceId).isSome (deviceId ∈ s.offline)

theorem writtenSoFar_other {deviceId : String} {s : ObserverState} {call : Completed}
    (h : call.report.deviceId ≠ deviceId) (hwritten : WrittenSoFar deviceId s) :
    WrittenSoFar deviceId (s.complete call) := by
  have hoffline : (deviceId ∈ (s.complete call).offline) = (deviceId ∈ s.offline) :=
    propext (complete_offline_other s h)
  unfold WrittenSoFar eventsOf at hwritten ⊢
  rw [complete_journal_other _ _ h, complete_lastStates, stateOf_other h]
  simp only [hoffline]
  exact hwritten

/-- **A call whose write succeeds takes the history one event further.** -/
theorem writtenSoFar_self {deviceId : String} {report : Report} {s : ObserverState}
    (h : report.deviceId = deviceId) (hwritten : WrittenSoFar deviceId s) :
    WrittenSoFar deviceId (s.complete { report }) := by
  have hstep := hwritten.step report
  have hoffline := complete_offline s { report } deviceId
  have hevents := complete_events s report
  rw [h] at hevents
  unfold WrittenSoFar
  rw [hevents, complete_lastStates]
  cases report with
  | online other state =>
      have hstate : (Report.online other state).stateOf deviceId = some state := if_pos h
      have hback : ¬ deviceId ∈ (s.complete { report := .online other state }).offline := by
        intro hmem
        rcases hoffline.mp hmem with ⟨_, _, hreport⟩ | ⟨_, hreport⟩
        · cases hreport
        · exact Option.some_ne_none _ (hstate.symm.trans hreport)
      rw [hstate, decide_eq_false hback]
      exact hstep
  | offline other error occurredAt =>
      have hgone : deviceId
          ∈ (s.complete { report := .offline other error occurredAt }).offline :=
        hoffline.mpr (Or.inl ⟨error, occurredAt, h ▸ rfl⟩)
      rw [decide_eq_true hgone]
      exact hstep

/-- **While the writes for a device succeed, its journal is a history, cut off somewhere.** -/
theorem observed_written {deviceId : String} {calls : List Completed}
    (hwritten : ∀ call ∈ calls, call.report.deviceId = deviceId → call.written = true) :
    WrittenSoFar deviceId (observed calls) := by
  induction calls using List.reverseRecOn with
  | nil => rfl
  | append_singleton calls call ih =>
      have hbefore := ih (fun c hc => hwritten c (List.mem_append_left _ hc))
      have hcall := hwritten call (List.mem_append_right _ (List.mem_singleton_self _))
      rw [observed_append]
      by_cases h : call.report.deviceId = deviceId
      · obtain ⟨report, success⟩ := call
        obtain rfl : success = true := hcall h
        exact writtenSoFar_self h hbefore
      · exact writtenSoFar_other h hbefore

/-! ## The machine completes its reports -/

/-- What the observer remembers, hands to the sink and has in its journal. -/
structure SameReports (s s' : ObserverState) : Prop where
  lastStates : s'.lastStates = s.lastStates
  offline : s'.offline = s.offline
  events : s'.events = s.events
  file : s'.file = s.file

/-- Nothing is on its way to the journal. -/
structure JournalFree (s : ObserverState) : Prop where
  lock : s.lock = none
  waiting : s.workers.all (fun other => !other.phase.isWaiting) = true
  running : s.running = []

/--
The journal's part of a report: the thread begins, its write succeeds or not, and the worker
sees it done.
-/
def recordActions (s : ObserverState) (i : ℕ) (written : Bool) : List ObserverAction :=
  [.worker i .started, if written then .written s.nextWrite else .unwritten s.nextWrite,
    .worker i .appended]

section Machine

variable {cfg : AppConfig} {s : ObserverState} {i : ℕ} {worker : Worker}

theorem worker_step (h : s.workers[i]? = some worker) (action : WorkerAction) :
    observerStep cfg s (.worker i action) = workerStep s i worker action := by
  unfold observerStep
  cases s.reconciler <;> simp only [h]

theorem unwritten_step (write : ℕ) : observerStep cfg s (.unwritten write)
    = { s with running := s.running.filter (fun running => running.1 ≠ write) } := by
  unfold observerStep
  cases s.reconciler <;> rfl

theorem setWorker_at (h : s.workers[i]? = some worker) (worker' : Worker) :
    (s.setWorker i worker').workers[i]? = some worker' := by
  obtain ⟨hlt, _⟩ := List.getElem?_eq_some_iff.mp h
  exact List.getElem?_set_self hlt

theorem workerStep_appended {record : JournalRecord} {write : ℕ}
    (hphase : worker.phase = .writing record write) (h : write ∉ s.running.map Prod.fst) :
    workerStep s i worker .appended = (s.release i).setWorker i (worker.resume record) := by
  unfold workerStep
  rw [hphase]
  exact if_neg h

/-- A thread that writes alone ends its write, and leaves none running. -/
theorem write_ends {record : JournalRecord} {write : ℕ} (hrunning : s.running = [(write, record)])
    (written : Bool) :
    observerStep cfg s (if written then .written write else .unwritten write)
      = { s with running := [], file := s.file ++ if written then [record] else [] } := by
  have hfind : s.running.find? (fun running => running.1 = write) = some (write, record) := by
    rw [hrunning]
    simp
  have hfilter : s.running.filter (fun running => running.1 ≠ write) = [] := by
    rw [hrunning, List.filter_eq_nil_iff]
    simp
  cases written with
  | true =>
      unfold observerStep
      cases s.reconciler <;> simp only [hfind, hfilter, if_true]
  | false =>
      rw [if_neg Bool.false_ne_true, if_neg Bool.false_ne_true, unwritten_step, hfilter,
        List.append_nil]

theorem release_sameReports (s : ObserverState) (i : ℕ) : SameReports s (s.release i) := by
  unfold ObserverState.release
  split <;> exact ⟨rfl, rfl, rfl, rfl⟩

/-- **A record that is appended to a free journal ends up in the file, unless its write fails.** -/
theorem append_recorded (hfree : JournalFree s) (h : s.workers[i]? = some worker)
    (record : JournalRecord) (written : Bool) :
    SameReports { s with file := s.file ++ if written then [record] else [] }
      (Run.exec (observerStep cfg) (s.append i worker record) (recordActions s i written)) := by
  have happend : s.append i worker record
      = { s with lock := some i }.setWorker i { worker with phase := .queued record } :=
    if_pos ⟨hfree.lock, hfree.waiting⟩
  have hqueued := @setWorker_at { s with lock := some i } i worker h
    { worker with phase := .queued record }
  have hstarted := setWorker_at hqueued { worker with phase := .writing record s.nextWrite }
  rw [happend, recordActions, Run.exec_cons, worker_step hqueued, Run.exec_cons, Run.exec_cons]
  generalize hs₁ : workerStep _ i { worker with phase := .queued record } .started = s₁
  have hworker : s₁.workers[i]? = some { worker with phase := .writing record s.nextWrite } := by
    rw [← hs₁]
    exact hstarted
  have hrunning : s₁.running = [(s.nextWrite, record)] := by
    rw [← hs₁]
    show s.running ++ _ = _
    rw [hfree.running]
    rfl
  have hafter : ({ s₁ with
      running := []
      file := s₁.file ++ if written then [record] else [] } : ObserverState).workers[i]?
        = some { worker with phase := .writing record s.nextWrite } := hworker
  rw [write_ends hrunning, worker_step hafter, Run.exec_nil,
    workerStep_appended rfl List.not_mem_nil]
  obtain ⟨hlast, hoffline, hevents, hfile⟩ := release_sameReports
    { s₁ with running := [], file := s₁.file ++ if written then [record] else [] } i
  rw [← hs₁] at hlast hoffline hevents hfile ⊢
  exact ⟨hlast, hoffline, hevents, hfile⟩

/-- What a worker that is reading is told, and the report it makes of that. -/
inductive Told (deviceId : String) : WorkerAction → Report → Prop
  | read (state : DeviceState) : Told deviceId (.read state) (.online deviceId state)
  | failed (error : String) (occurredAt : Datetime) :
      Told deviceId (.failed error occurredAt) (.offline deviceId error occurredAt)

/-- A worker with nothing to record does not touch the journal. -/
theorem recordActions_idle (hrunning : s.running = []) (h : s.workers[i]? = some worker)
    (hphase : worker.phase = .polling ∨ worker.phase = .backingOff ∨
      worker.phase = .disconnecting false) (written : Bool) :
    Run.exec (observerStep cfg) s (recordActions s i written) = s := by
  have hstarted : workerStep s i worker .started = s := by
    unfold workerStep
    rcases hphase with hphase | hphase | hphase <;> rw [hphase]
  have happended : workerStep s i worker .appended = s := by
    unfold workerStep
    rcases hphase with hphase | hphase | hphase <;> rw [hphase]
  have hwritten : observerStep cfg s
      (if written then .written s.nextWrite else .unwritten s.nextWrite) = s := by
    have hfind : s.running.find? (fun running => running.1 = s.nextWrite) = none := by
      rw [hrunning]
      rfl
    have hfilter : s.running.filter (fun running => running.1 ≠ s.nextWrite) = s.running := by
      rw [hrunning]
      rfl
    cases written with
    | true =>
        unfold observerStep
        cases s.reconciler <;> simp only [hfind, if_true]
    | false => rw [if_neg Bool.false_ne_true, unwritten_step, hfilter]
  rw [recordActions, Run.exec_cons, worker_step h, hstarted, Run.exec_cons, hwritten, Run.exec_cons,
    worker_step h, happended, Run.exec_nil]

/-- Where a worker goes that has nothing to record. -/
theorem close_phase (worker : Worker) :
    (worker.close false).phase = .backingOff ∨ (worker.close false).phase = .disconnecting false := by
  unfold Worker.close
  split
  · exact Or.inl rfl
  · exact Or.inr rfl

/-- The report itself leaves the journal as it is. -/
theorem report_free (hfree : JournalFree s) (report : Report) :
    JournalFree (s.report report).1 ∧ (s.report report).1.workers = s.workers
      ∧ (s.report report).1.nextWrite = s.nextWrite := by
  cases report with
  | online deviceId state => exact ⟨⟨hfree.lock, hfree.waiting, hfree.running⟩, rfl, rfl⟩
  | offline deviceId error occurredAt =>
      exact ⟨⟨hfree.lock, hfree.waiting, hfree.running⟩, rfl, rfl⟩

/-- A worker that is told something goes on with the report it makes of that. -/
theorem told_step {action : WorkerAction} {report : Report} (h : s.workers[i]? = some worker)
    (hreading : worker.phase = .reading) (htold : Told worker.deviceId action report) :
    ∃ worker', (worker'.phase = .polling ∨ worker'.phase = .backingOff ∨
        worker'.phase = .disconnecting false)
      ∧ observerStep cfg s (.worker i action) = match (s.report report).2 with
        | some record => (s.report report).1.append i worker record
        | none => (s.report report).1.setWorker i worker' := by
  rw [worker_step h]
  cases htold with
  | read state =>
      refine ⟨{ worker with phase := .polling }, Or.inl rfl, ?_⟩
      unfold workerStep
      rw [hreading]
      dsimp only [ObserverState.report]
      cases s.reportState worker.deviceId state with
      | mk reported record => cases record <;> rfl
  | failed error occurredAt =>
      refine ⟨worker.close false, Or.inr (close_phase worker), ?_⟩
      unfold workerStep
      rw [hreading]
      dsimp only [ObserverState.report, ObserverState.fail]
      cases s.reportOffline worker.deviceId error occurredAt with
      | mk reported record => cases record <;> rfl

/-- **A report that nothing comes in between is a completed one, whether its write succeeds or not.** -/
theorem report_completes {action : WorkerAction} {report : Report} (hfree : JournalFree s)
    (h : s.workers[i]? = some worker) (hreading : worker.phase = .reading)
    (htold : Told worker.deviceId action report) (written : Bool) :
    SameReports (s.complete ⟨report, written⟩)
      (Run.exec (observerStep cfg) s (.worker i action :: recordActions s i written)) := by
  obtain ⟨hfree', hworkers, hnext⟩ := report_free hfree report
  obtain ⟨worker', hphase, hstep⟩ := @told_step cfg s i worker action report h hreading htold
  have hactions : recordActions s i written = recordActions (s.report report).1 i written := by
    unfold recordActions
    rw [hnext]
  have hat : (s.report report).1.workers[i]? = some worker := by rw [hworkers, h]
  obtain ⟨hlast, hoffline, hevents⟩ := complete_memory s ⟨report, written⟩
  have hfile := complete_file s ⟨report, written⟩
  have hreported : (s.report report).1.file = s.file := report_file s report
  rw [Run.exec_cons, hstep, hactions]
  cases hrecord : (s.report report).2 with
  | some record =>
      have hrecorded := @append_recorded cfg _ i worker hfree' hat record written
      rw [hrecord] at hfile
      refine ⟨hrecorded.lastStates.trans hlast.symm, hrecorded.offline.trans hoffline.symm,
        hrecorded.events.trans hevents.symm, hrecorded.file.trans ?_⟩
      rw [hfile, hreported]
      rfl
  | none =>
      have hidle := @recordActions_idle cfg ((s.report report).1.setWorker i worker') i worker'
        hfree'.running (setWorker_at hat worker') hphase written
      show SameReports _ (Run.exec (observerStep cfg) ((s.report report).1.setWorker i worker')
        (recordActions ((s.report report).1.setWorker i worker') i written))
      rw [hidle]
      rw [hrecord, Option.toList_none, ite_self, List.append_nil] at hfile
      exact ⟨hlast.symm, hoffline.symm, hevents.symm, hreported.trans hfile.symm⟩

end Machine

/-! ## The grammar -/

/-- **A change is journalled exactly when a state was reported, not offline since, and differs.** -/
theorem report_changed_iff (deviceId : String) (calls : List Completed) {report : Report}
    (h : report.deviceId = deviceId) :
    (∃ record ∈ ((observed calls).report report).2, record.event = .stateChanged)
      ↔ ∃ state previous, report = .online deviceId state ∧ lastState deviceId calls = some previous
        ∧ ¬ OfflineSince deviceId calls ∧ previous.signature.eq state.signature = false := by
  obtain ⟨hstate, hoffline⟩ := observed_memory deviceId calls
  have hevent := (report_record (observed calls) report).1
  have hrecord : (∃ record ∈ ((observed calls).report report).2, record.event = .stateChanged)
      ↔ written (lastState deviceId calls) (deviceId ∈ (observed calls).offline) report
        = some .stateChanged := by
    rw [← hstate, ← h, ← hevent, Option.map_eq_some_iff]
    exact Iff.rfl
  rw [hrecord, ← hoffline]
  cases report with
  | offline other error occurredAt =>
      refine ⟨fun hwritten => ?_, ?_⟩
      · by_cases hback : deviceId ∈ (observed calls).offline
        · rw [decide_eq_true hback] at hwritten
          cases hwritten
        · rw [decide_eq_false hback] at hwritten
          cases hwritten
      · rintro ⟨_, _, hreport, _⟩
        cases hreport
  | online other state =>
      obtain rfl : other = deviceId := h
      unfold written
      cases lastState other calls with
      | none =>
          refine ⟨fun hwritten => (by cases hwritten), ?_⟩
          rintro ⟨_, _, _, hnone, _⟩
          cases hnone
      | some previous =>
          dsimp only
          constructor
          · intro hwritten
            split at hwritten
            · cases hwritten
            · rename_i hback
              split at hwritten
              · rename_i hdiffers
                exact ⟨state, previous, rfl, rfl, by simpa using hback, signature_eq .. ▸ hdiffers⟩
              · cases hwritten
          · rintro ⟨_, _, hreport, hprevious, hback, hdiffers⟩
            cases hreport
            cases hprevious
            rw [signature_eq] at hdiffers
            rw [if_neg (by simpa using hback), if_pos hdiffers]

/--
**The journal keeps to its grammar while its writes succeed.**

As long as every record of a device gets into the file, its events are a prefix of: offline
if it was so first, first seen once, and then changes and recoveries from being offline in
any order. A change is written exactly when a state was reported before, the device was not
offline since, and the signature differs from that of the state; and every record has the
last reported state as its previous one.
-/
theorem journal_event_grammar (deviceId : String) (calls : List Completed)
    (hwritten : ∀ call ∈ calls, call.report.deviceId = deviceId → call.written = true) :
    (∃ history, JournalHistory history
        ∧ (journalOf deviceId (observed calls)).map JournalRecord.event <+: history)
      ∧ ∀ report : Report, report.deviceId = deviceId →
        journalOf deviceId (observed (calls ++ [⟨report, true⟩]))
            = journalOf deviceId (observed calls) ++ ((observed calls).report report).2.toList
          ∧ ((∃ record ∈ ((observed calls).report report).2, record.event = .stateChanged)
            ↔ ∃ state previous, report = .online deviceId state
              ∧ lastState deviceId calls = some previous ∧ ¬ OfflineSince deviceId calls
              ∧ previous.signature.eq state.signature = false)
          ∧ ∀ record ∈ ((observed calls).report report).2,
              record.previous = lastState deviceId calls := by
  refine ⟨(observed_written hwritten).cut, fun report h => ⟨?_, ?_, ?_⟩⟩
  · subst h
    rw [observed_append, complete_journal]
  · exact report_changed_iff deviceId calls h
  · intro record hrecord
    rw [((report_record (observed calls) report).2 record hrecord).2, h,
      (observed_memory deviceId calls).1]

/-- A pump at a power. -/
def pumpAt (power : Percent) (observedAt : Datetime) : DeviceState where
  enabled := true
  power
  observedAt

/-- The left pump is offline first, seen, and turned up, while the record of the right one is lost. -/
def firstHour : List Completed :=
  [{ report := .offline "left" "timed out" 1 }, { report := .online "left" (pumpAt 50 2) },
    ⟨.online "right" (pumpAt 40 3), false⟩, { report := .online "left" (pumpAt 60 4) }]

theorem journal_event_grammar_firstHour : ∃ history, JournalHistory history
    ∧ [.offline, .firstSeen, .stateChanged] <+: history :=
  (journal_event_grammar "left" firstHour (by decide)).1

/--
**A lost first record leaves a change at the start of the journal.** The write of the
first read fails, the observer remembers the state all the same, and the next read is
journalled as a change of a pump that was never seen.
-/
theorem journal_starts_with_change :
    (journalOf "left" (observed [⟨.online "left" (pumpAt 50 2), false⟩,
        { report := .online "left" (pumpAt 60 4) }])).map JournalRecord.event = [.stateChanged]
      ∧ ¬ ∃ history, JournalHistory history
        ∧ (journalOf "left" (observed [⟨.online "left" (pumpAt 50 2), false⟩,
          { report := .online "left" (pumpAt 60 4) }])).map JournalRecord.event <+: history := by
  have hevents : (journalOf "left" (observed [⟨.online "left" (pumpAt 50 2), false⟩,
      { report := .online "left" (pumpAt 60 4) }])).map JournalRecord.event = [.stateChanged] := by
    decide +kernel
  refine ⟨hevents, ?_⟩
  rw [hevents]
  rintro ⟨history, ⟨opening, rounds, hopening, _, rfl⟩, hprefix⟩
  -- a history starts with offline or first seen
  rcases hopening with rfl | rfl
  · cases (List.cons_prefix_cons.mp hprefix).1
  · cases (List.cons_prefix_cons.mp hprefix).1

end JebaoFlow
