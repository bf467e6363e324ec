import JebaoFlow.Lib.Log
import JebaoFlow.Proof.Reconciliation
import JebaoFlow.Proof.Revisions

/-!
# The observer's journal

A worker advances the last state of its device before it asks for the journal's lock, so
the record of a change can be lost between the two: a cancelled worker gives up the lock,
or the thread that has not begun, and its successor compares with the state that was
never written. A write whose thread has begun goes on without its worker, and may end
after the next one.

When neither happens, the record that was started last is true to the last state, or the
one worker of the device still holds the record of it.
-/

namespace JebaoFlow

variable {cfg : AppConfig} {s s' : ObserverState} {i : ℕ} {worker worker' : Worker}

/-- The states have one signature. -/
def SameSignature (a b : DeviceState) : Prop := a = b ∨ a.sameSignature b = true

/-- The last current state the records have of a device. -/
def lastRecorded (records : List JournalRecord) (deviceId : String) : Option DeviceState :=
  Log.last JournalRecord.deviceId JournalRecord.current records deviceId

/-- The last state that was reported of a device. -/
def lastReported (events : List ObserverEvent) (deviceId : String) : Option DeviceState :=
  Log.last ObserverEvent.deviceId ObserverEvent.state events deviceId

/-- The record a worker holds whose write was not started. -/
def Phase.held : Phase → Option JournalRecord
  | .waiting record | .queued record => some record
  | _ => none

namespace ObserverState

variable (s : ObserverState)

/-- Some worker appends to the journal, or a thread is at a write. -/
def appending : Bool :=
  !s.running.isEmpty || s.workers.any (fun worker =>
    match worker.phase with
    | .waiting _ | .queued _ | .writing _ _ => true
    | _ => false)

/-- The records whose writes were started, the ones that are done first. -/
def started : List JournalRecord := s.file ++ s.running.map Prod.snd

/-- The running writes that were started before this one. -/
def older (write : ℕ) : List JournalRecord :=
  (s.running.takeWhile (fun running => running.1 ≠ write)).map Prod.snd

/-- The running writes that were started after this one. -/
def newer (write : ℕ) : List JournalRecord :=
  (s.running.dropWhile (fun running => running.1 ≠ write)).tail.map Prod.snd

end ObserverState

/-- When nothing is being appended, the journal is up to date for every device. -/
def JournalCurrent (s : ObserverState) : Prop :=
  s.appending = false → ∀ deviceId state, lastReported s.events deviceId = some state →
    ∃ recorded, lastRecorded s.file deviceId = some recorded ∧ SameSignature recorded state

/-- The worker is cancelled, or ends by itself, before the write of this record was started. -/
def DropsRecord (s : ObserverState) (action : ObserverAction) (record : JournalRecord) : Prop :=
  ∃ i worker, s.workers[i]? = some worker ∧ worker.phase.held = some record
    ∧ (action = .worker i .interrupted ∧ worker.cancelled = true ∨ action = .worker i .left)

/-- The newest write of its device ends before an older one. -/
def Overtakes (s : ObserverState) (action : ObserverAction) (record : JournalRecord)
    (overtaken : DeviceState) : Prop :=
  ∃ write, action = .written write ∧ (write, record) ∈ s.running
    ∧ lastRecorded (s.newer write) record.deviceId = none
    ∧ lastRecorded (s.older write) record.deviceId = some overtaken

/--
A write that was started succeeds. A record that is lost before its write says what the
last started one says, and a write that overtakes another says the same.
-/
structure KeepsRecords (s : ObserverState) (action : ObserverAction) : Prop where
  succeeds : ∀ write, action ≠ .unwritten write
  lost : ∀ record state, DropsRecord s action record → record.current = some state →
    ∃ recorded, lastRecorded s.started record.deviceId = some recorded
      ∧ SameSignature recorded state
  overtaken : ∀ record state overtaken, Overtakes s action record overtaken →
    record.current = some state → SameSignature overtaken state

/-! ## Signatures -/

theorem sameSignature_trans {a b c : DeviceState} (hab : SameSignature a b)
    (hbc : SameSignature b c) : SameSignature a c := by
  rcases hab with rfl | hab
  · exact hbc
  · rcases hbc with rfl | hbc
    · exact Or.inr hab
    · right
      unfold DeviceState.sameSignature at *
      simp only [Bool.and_eq_true, beq_iff_eq] at *
      obtain ⟨⟨⟨⟨⟨⟨henabled, hpower⟩, hmode⟩, hfrequency⟩, herror⟩, hattributes⟩, hschedule⟩ := hab
      obtain ⟨⟨⟨⟨⟨⟨henabled', hpower'⟩, hmode'⟩, hfrequency'⟩, herror'⟩, hattributes'⟩,
        hschedule'⟩ := hbc
      exact ⟨⟨⟨⟨⟨⟨henabled.trans henabled', hpower.trans hpower'⟩, hmode.trans hmode'⟩,
        hfrequency.trans hfrequency'⟩, herror.trans herror'⟩,
        Scalar.eqDict_trans hattributes hattributes'⟩,
        scheduleConfigurationEq_trans hschedule hschedule'⟩

/-! ## What concerns the journal -/

/-- The worker of the device holds a record whose write was not started. -/
def PendingFor (s : ObserverState) (deviceId : String) (record : JournalRecord) : Prop :=
  ∃ (i : ℕ) (worker : Worker), s.workers[i]? = some worker ∧ worker.deviceId = deviceId
    ∧ worker.phase.held = some record

/-- Nothing was read, and no write was started or ended. -/
structure Silent (s s' : ObserverState) : Prop where
  lastStates : s'.lastStates = s.lastStates
  running : s'.running = s.running
  nextWrite : s'.nextWrite = s.nextWrite
  file : s'.file = s.file
  reported : ∀ deviceId, lastReported s'.events deviceId = lastReported s.events deviceId

theorem silent_refl (s : ObserverState) : Silent s s := ⟨rfl, rfl, rfl, rfl, fun _ => rfl⟩

theorem Silent.trans {t : ObserverState} (h : Silent s s') (h' : Silent s' t) : Silent s t :=
  ⟨h'.lastStates.trans h.lastStates, h'.running.trans h.running, h'.nextWrite.trans h.nextWrite,
    h'.file.trans h.file, fun deviceId => (h'.reported deviceId).trans (h.reported deviceId)⟩

theorem Silent.started (h : Silent s s') : s'.started = s.started := by
  unfold ObserverState.started
  rw [h.file, h.running]

theorem silent_emit (s : ObserverState) {event : ObserverEvent} (h : event.state = none) :
    Silent s (s.emit event) :=
  ⟨rfl, rfl, rfl, rfl, Log.last_append_silent (by simpa using h)⟩

theorem silent_setWorker (s : ObserverState) (i : ℕ) (worker : Worker) :
    Silent s (s.setWorker i worker) := ⟨rfl, rfl, rfl, rfl, fun _ => rfl⟩

theorem silent_release (s : ObserverState) (i : ℕ) : Silent s (s.release i) := by
  unfold ObserverState.release
  split <;> exact ⟨rfl, rfl, rfl, rfl, fun _ => rfl⟩

theorem silent_append (s : ObserverState) (i : ℕ) (worker : Worker) (record : JournalRecord) :
    Silent s (s.append i worker record) := by
  unfold ObserverState.append
  split <;> exact ⟨rfl, rfl, rfl, rfl, fun _ => rfl⟩

/-- The journal is true to the reports, but for what the workers hold. -/
structure JournalInv (cfg : AppConfig) (s : ObserverState) : Prop where
  workers : WorkersInv cfg s
  reported : ∀ deviceId, lastReported s.events deviceId = s.lastStates.get? deviceId
  pending : ∀ {deviceId : String} {record : JournalRecord}, PendingFor s deviceId record →
    record.deviceId = deviceId
      ∧ ∀ state, record.current = some state → s.lastStates.get? deviceId = some state
  fresh : ∀ write ∈ s.running.map Prod.fst, write < s.nextWrite
  distinct : (s.running.map Prod.fst).Nodup
  kept : ∀ {deviceId : String} {state : DeviceState}, s.lastStates.get? deviceId = some state →
    (∃ record, PendingFor s deviceId record ∧ record.current.isSome = true)
      ∨ ∃ recorded, lastRecorded s.started deviceId = some recorded
        ∧ SameSignature recorded state

theorem journalInv_file (file : List JournalRecord) : JournalInv cfg { file } where
  workers := workersInv_file file
  reported _ := rfl
  pending h := by
    obtain ⟨i, worker, hget, -⟩ := h
    cases hget
  fresh _ h := by cases h
  distinct := List.nodup_nil
  kept h := by cases h

theorem journalInv_init : JournalInv cfg {} := journalInv_file []

/-- A silent step that loses no record keeps the journal true. -/
theorem JournalInv.silent (hinv : JournalInv cfg s) (hworkers : WorkersInv cfg s')
    (h : Silent s s')
    (hgained : ∀ deviceId record, PendingFor s' deviceId record →
      PendingFor s deviceId record ∨ record.deviceId = deviceId ∧ record.current = none)
    (hlost : ∀ deviceId record state, PendingFor s deviceId record → record.current = some state →
      PendingFor s' deviceId record ∨ ∃ recorded, lastRecorded s.started deviceId = some recorded
        ∧ SameSignature recorded state) : JournalInv cfg s' where
  workers := hworkers
  reported deviceId := by rw [h.reported, h.lastStates, hinv.reported]
  pending := by
    intro deviceId record hpending
    rw [h.lastStates]
    rcases hgained deviceId record hpending with hpending | ⟨hid, hnone⟩
    · exact hinv.pending hpending
    · refine ⟨hid, fun state hstate => ?_⟩
      rw [hnone] at hstate
      cases hstate
  fresh := by
    rw [h.running, h.nextWrite]
    exact hinv.fresh
  distinct := by
    rw [h.running]
    exact hinv.distinct
  kept := by
    intro deviceId state hstate
    rw [h.lastStates] at hstate
    rw [h.started]
    rcases hinv.kept hstate with ⟨record, hpending, hcurrent⟩ | hkept
    · -- a held record is of the last state, so what it loses the write says already
      obtain ⟨current, hcurrent⟩ := Option.isSome_iff_exists.mp hcurrent
      have hsame := (hinv.pending hpending).2 current hcurrent
      obtain rfl : state = current := Option.some.inj (hstate.symm.trans hsame)
      rcases hlost deviceId record state hpending hcurrent with hpending | hkept
      · exact Or.inl ⟨record, hpending, by rw [hcurrent]; rfl⟩
      · exact Or.inr hkept
    · exact Or.inr hkept

/-! ## A worker's steps -/

theorem held_live {record : JournalRecord} (h : worker.phase.held = some record) :
    worker.phase.isDone = false := by
  cases hphase : worker.phase with
  | done =>
      rw [hphase] at h
      cases h
  | _ => rfl

theorem held_close (worker : Worker) (last : Bool) : (worker.close last).phase.held = none := by
  unfold Worker.close
  split
  · cases last <;> rfl
  · rfl

theorem held_terminate (worker : Worker) : worker.terminate.phase.held = none := by
  unfold Worker.terminate
  split
  · rfl
  · rfl
  · rfl
  · rfl
  · exact held_close worker true

/-- Who holds a record after the step of a worker. -/
theorem pendingFor_stepped (hstepped : Stepped s s' i worker') (hat : s.workers[i]? = some worker)
    (hid : worker'.deviceId = worker.deviceId) {deviceId : String} {record : JournalRecord} :
    PendingFor s' deviceId record ↔ worker.deviceId = deviceId ∧ worker'.phase.held = some record
      ∨ ∃ (j : ℕ) (other : Worker), i ≠ j ∧ s.workers[j]? = some other
        ∧ other.deviceId = deviceId ∧ other.phase.held = some record := by
  constructor
  · rintro ⟨j, other, hget, hother, hpending⟩
    rw [hstepped.getElem? hat] at hget
    split at hget
    · obtain rfl : worker' = other := Option.some.inj hget
      exact Or.inl ⟨hid.symm.trans hother, hpending⟩
    · exact Or.inr ⟨j, other, ‹_›, hget, hother, hpending⟩
  · rintro (⟨hself, hpending⟩ | ⟨j, other, hij, hget, hother, hpending⟩)
    · exact ⟨i, worker', by rw [hstepped.getElem? hat, if_pos rfl], hid.trans hself, hpending⟩
    · exact ⟨j, other, by rw [hstepped.getElem? hat, if_neg hij]; exact hget, hother, hpending⟩

/-- What is held for another device is still held after the step. -/
theorem PendingFor.other (hstepped : Stepped s s' i worker') (hat : s.workers[i]? = some worker)
    (hid : worker'.deviceId = worker.deviceId) {deviceId : String} {record : JournalRecord}
    (h : PendingFor s deviceId record) (hne : worker.deviceId ≠ deviceId) :
    PendingFor s' deviceId record := by
  obtain ⟨j, holder, hget, hholder, hheld⟩ := h
  refine (pendingFor_stepped hstepped hat hid).mpr (Or.inr ⟨j, holder, ?_, hget, hholder, hheld⟩)
  rintro rfl
  obtain rfl : worker = holder := Option.some.inj (hat.symm.trans hget)
  exact hne hholder

/-- A silent step of a worker that loses no record keeps the journal true. -/
theorem JournalInv.move (hinv : JournalInv cfg s) (hat : s.workers[i]? = some worker)
    (hworkers : WorkersInv cfg s') (hstepped : Stepped s s' i worker')
    (hid : worker'.deviceId = worker.deviceId) (hsilent : Silent s s')
    (hgained : ∀ record, worker'.phase.held = some record → worker.phase.held = some record
      ∨ record.deviceId = worker.deviceId ∧ record.current = none)
    (hlost : ∀ record state, worker.phase.held = some record → record.current = some state →
      worker'.phase.held = some record ∨ ∃ recorded, lastRecorded s.started worker.deviceId = some recorded
        ∧ SameSignature recorded state) : JournalInv cfg s' := by
  refine hinv.silent hworkers hsilent ?_ ?_
  · intro deviceId record hpending
    rcases (pendingFor_stepped hstepped hat hid).mp hpending with
      ⟨rfl, hheld⟩ | ⟨j, other, -, hother⟩
    · exact (hgained record hheld).imp_left fun h => ⟨i, worker, hat, rfl, h⟩
    · exact Or.inl ⟨j, other, hother⟩
  · rintro deviceId record state ⟨j, other, hget, rfl, hpending⟩ hstate
    rw [pendingFor_stepped hstepped hat hid]
    by_cases hij : i = j
    · subst hij
      obtain rfl : worker = other := Option.some.inj (hat.symm.trans hget)
      exact (hlost record state hpending hstate).imp_left fun h => Or.inl ⟨rfl, h⟩
    · exact Or.inl (Or.inr ⟨j, other, hij, hget, rfl, hpending⟩)

theorem JournalInv.quiet (hinv : JournalInv cfg s) (hat : s.workers[i]? = some worker)
    (hworkers : WorkersInv cfg s') (hstepped : Stepped s s' i worker')
    (hid : worker'.deviceId = worker.deviceId) (hsilent : Silent s s')
    (hold : worker.phase.held = none) (hnew : worker'.phase.held = none) : JournalInv cfg s' := by
  refine hinv.move hat hworkers hstepped hid hsilent (fun record h => ?_) (fun record _ h => ?_)
  · rw [hnew] at h
    cases h
  · rw [hold] at h
    cases h

theorem silent_fail (s : ObserverState) (i : ℕ) (worker : Worker) (error : String)
    (occurredAt : Datetime) : Silent s (s.fail i worker error occurredAt) := by
  unfold ObserverState.fail ObserverState.reportOffline
  dsimp only
  have hreported (offline : List String) : Silent s ({ s with offline }.emit
      { deviceId := worker.deviceId, status := .offline, occurredAt, error := some error }) :=
    ⟨rfl, rfl, rfl, rfl, (silent_emit { s with offline } rfl).reported⟩
  by_cases hfirst : worker.deviceId ∈ s.offline
  · simp only [hfirst, not_true_eq_false, decide_false, Bool.false_eq_true, if_false]
    exact (hreported _).trans (silent_setWorker ..)
  · simp only [hfirst, not_false_eq_true, decide_true, if_true]
    exact (hreported _).trans (silent_append ..)

theorem Appending.held {record : JournalRecord} (h : Appending worker' worker record) :
    worker'.phase.held = some record := by
  rcases h with rfl | rfl <;> rfl

theorem JournalInv.fail (hinv : JournalInv cfg s) (hat : s.workers[i]? = some worker)
    (hlive : worker.phase.isDone = false) (hold : worker.phase.held = none) (error : String)
    (occurredAt : Datetime) : JournalInv cfg (s.fail i worker error occurredAt) := by
  obtain ⟨worker', hstepped, hfailed⟩ := fail_stepped s i worker error occurredAt
  have hevolves := hfailed.evolves hlive
  refine hinv.move hat (hstepped.workersInv hat hevolves hinv.workers) hstepped hevolves.deviceId
    (silent_fail ..) (fun record hheld => ?_) (fun record _ h => ?_)
  · rcases hfailed with ⟨offline, happending, hid, hnone⟩ | rfl
    · rw [happending.held] at hheld
      cases hheld
      exact Or.inr ⟨hid, hnone⟩
    · rw [held_close] at hheld
      cases hheld
  · rw [hold] at h
    cases h

/-- Who holds a record of the device is the worker that is at work for it. -/
theorem JournalInv.held (hinv : JournalInv cfg s) (hlive : LiveAt s i worker)
    {record : JournalRecord} (h : PendingFor s worker.deviceId record) :
    worker.phase.held = some record := by
  obtain ⟨j, holder, hget, hid, hheld⟩ := h
  have hij : i = j := hinv.workers.unique hlive ⟨hget, held_live hheld⟩ hid.symm
  subst hij
  obtain rfl : worker = holder := Option.some.inj (hlive.1.symm.trans hget)
  exact hheld

theorem JournalInv.free (hinv : JournalInv cfg s) (hlive : LiveAt s i worker)
    (hold : worker.phase.held = none) (record : JournalRecord) :
    ¬ PendingFor s worker.deviceId record := by
  intro h
  have hheld := hinv.held hlive h
  rw [hold] at hheld
  cases hheld

/-- The journal's part of a state that was read. -/
structure Read (s s' : ObserverState) (deviceId : String) (state : DeviceState) : Prop where
  lastStates : s'.lastStates = s.lastStates.set deviceId state
  running : s'.running = s.running
  nextWrite : s'.nextWrite = s.nextWrite
  file : s'.file = s.file
  reported : ∀ other, lastReported s'.events other
    = if deviceId = other then some state else lastReported s.events other

/-- What is read is recorded, or it says what was read before. -/
theorem JournalInv.read (hinv : JournalInv cfg s) (hat : s.workers[i]? = some worker)
    (hlive : worker.phase.isDone = false) (hold : worker.phase.held = none) {state : DeviceState}
    (hworkers : WorkersInv cfg s') (hstepped : Stepped s s' i worker')
    (hid : worker'.deviceId = worker.deviceId) (hread : Read s s' worker.deviceId state)
    (hgained : ∀ record, worker'.phase.held = some record →
      record.deviceId = worker.deviceId ∧ record.current = some state)
    (hrecorded : (∃ record, worker'.phase.held = some record ∧ record.current = some state)
      ∨ ∃ previous, s.lastStates.get? worker.deviceId = some previous
        ∧ SameSignature previous state) : JournalInv cfg s' where
  workers := hworkers
  reported deviceId := by rw [hread.reported, hread.lastStates, Dict.get?_set, hinv.reported]
  pending := by
    intro deviceId record hpending
    rw [hread.lastStates, Dict.get?_set]
    rcases (pendingFor_stepped hstepped hat hid).mp hpending with
      ⟨rfl, hheld⟩ | ⟨j, other, -, hother⟩
    · obtain ⟨hrecord, hcurrent⟩ := hgained record hheld
      refine ⟨hrecord, fun current h => ?_⟩
      rw [if_pos rfl]
      exact hcurrent.symm.trans h
    · -- another worker holds it, so it is of another device
      have hpendingOther : PendingFor s deviceId record := ⟨j, other, hother⟩
      have hne : ¬ worker.deviceId = deviceId := by
        rintro rfl
        exact hinv.free ⟨hat, hlive⟩ hold record hpendingOther
      rw [if_neg hne]
      exact hinv.pending hpendingOther
  fresh := by
    rw [hread.running, hread.nextWrite]
    exact hinv.fresh
  distinct := by
    rw [hread.running]
    exact hinv.distinct
  kept := by
    have hstarted : s'.started = s.started := by
      unfold ObserverState.started
      rw [hread.file, hread.running]
    intro deviceId current hcurrent
    rw [hread.lastStates, Dict.get?_set] at hcurrent
    rw [hstarted]
    split at hcurrent
    · rename_i hself
      subst hself
      obtain rfl : state = current := Option.some.inj hcurrent
      rcases hrecorded with ⟨record, hheld, hrecord⟩ | ⟨previous, hprevious, hsame⟩
      · refine Or.inl ⟨record, (pendingFor_stepped hstepped hat hid).mpr (Or.inl ⟨rfl, hheld⟩), ?_⟩
        rw [hrecord]
        rfl
      · -- nobody holds the record of the state before, so its write was started
        rcases hinv.kept hprevious with ⟨record, hpending, -⟩ | ⟨recorded, hlast, hkept⟩
        · exact absurd hpending (hinv.free ⟨hat, hlive⟩ hold record)
        · exact Or.inr ⟨recorded, hlast, sameSignature_trans hkept hsame⟩
    · rename_i hother
      refine (hinv.kept hcurrent).imp_left ?_
      rintro ⟨record, hpending, hsome⟩
      exact ⟨record, hpending.other hstepped hat hid hother, hsome⟩

/-- The write of a record is started. -/
theorem JournalInv.start (hinv : JournalInv cfg s) (hat : s.workers[i]? = some worker)
    {record : JournalRecord} (hphase : worker.phase = .queued record)
    (hworkers : WorkersInv cfg s') (hstepped : Stepped s s' i worker')
    (hid : worker'.deviceId = worker.deviceId) (hnew : worker'.phase.held = none)
    (hlastStates : s'.lastStates = s.lastStates) (hevents : s'.events = s.events)
    (hrunning : s'.running = s.running ++ [(s.nextWrite, record)])
    (hnextWrite : s'.nextWrite = s.nextWrite + 1) (hfile : s'.file = s.file) :
    JournalInv cfg s' where
  workers := hworkers
  reported deviceId := by rw [hevents, hlastStates, hinv.reported]
  pending := by
    intro deviceId other hpending
    rw [hlastStates]
    rcases (pendingFor_stepped hstepped hat hid).mp hpending with ⟨-, hheld⟩ | ⟨j, holder, -, hother⟩
    · rw [hnew] at hheld
      cases hheld
    · exact hinv.pending ⟨j, holder, hother⟩
  fresh := by
    rw [hrunning, hnextWrite, List.map_append]
    intro write hwrite
    rcases List.mem_append.mp hwrite with hmem | hmem
    · exact (hinv.fresh write hmem).trans (Nat.lt_succ_self _)
    · rw [List.mem_singleton.mp hmem]
      exact Nat.lt_succ_self _
  distinct := by
    rw [hrunning, List.map_append]
    refine List.Nodup.append hinv.distinct (List.nodup_singleton _) fun write hwrite hmem => ?_
    have hlt := hinv.fresh write hwrite
    rw [List.mem_singleton.mp hmem] at hlt
    exact Nat.lt_irrefl _ hlt
  kept := by
    have hstarted : s'.started = s.started ++ [record] := by
      unfold ObserverState.started
      rw [hfile, hrunning, List.map_append, ← List.append_assoc]
      rfl
    have hheld : worker.phase.held = some record := by rw [hphase]; rfl
    have hrecord := hinv.pending ⟨i, worker, hat, rfl, hheld⟩
    intro deviceId state hstate
    rw [hlastStates] at hstate
    unfold lastRecorded
    rw [hstarted, Log.last_append, Log.last_singleton]
    by_cases hself : worker.deviceId = deviceId
    · subst hself
      rw [if_pos hrecord.1]
      cases hcurrent : record.current with
      | some current =>
          -- the record that is started now is that of the last state
          obtain rfl : state = current :=
            Option.some.inj (hstate.symm.trans (hrecord.2 current hcurrent))
          exact Or.inr ⟨state, rfl, Or.inl rfl⟩
      | none =>
          rcases hinv.kept hstate with ⟨other, hpending, hsome⟩ | hkept
          · -- what the device's worker holds is the record without a state
            have hother := hinv.held ⟨hat, held_live hheld⟩ hpending
            rw [hheld] at hother
            cases hother
            rw [hcurrent] at hsome
            cases hsome
          · exact Or.inr hkept
    · rw [if_neg fun h => hself (hrecord.1.symm.trans h), Option.none_or]
      exact (hinv.kept hstate).imp_left fun ⟨other, hpending, hsome⟩ =>
        ⟨other, hpending.other hstepped hat hid hself, hsome⟩

theorem Read.then_silent {t : ObserverState} {deviceId : String} {state : DeviceState}
    (h : Read s s' deviceId state) (hsilent : Silent s' t) : Read s t deviceId state :=
  ⟨hsilent.lastStates.trans h.lastStates, hsilent.running.trans h.running,
    hsilent.nextWrite.trans h.nextWrite, hsilent.file.trans h.file,
    fun other => (hsilent.reported other).trans (h.reported other)⟩

/-- A report of a state, up to the record it appends. -/
theorem reportState_read {deviceId : String} {state : DeviceState} {reported : ObserverState}
    {record : Option JournalRecord} (hreport : s.reportState deviceId state = (reported, record)) :
    Read s reported deviceId state
      ∧ (∀ appended, record = some appended →
        appended.deviceId = deviceId ∧ appended.current = some state)
      ∧ (record = none → ∃ previous, s.lastStates.get? deviceId = some previous
        ∧ SameSignature previous state) := by
  unfold ObserverState.reportState at hreport
  dsimp only at hreport
  injection hreport with hreported hrecord
  subst hreported hrecord
  refine ⟨⟨rfl, rfl, rfl, rfl, fun other => ?_⟩, ?_, ?_⟩
  · unfold lastReported ObserverState.emit
    rw [Log.last_append, Log.last_singleton]
    split
    · rfl
    · exact Option.none_or
  · intro appended happended
    split at happended
    · cases happended
      exact ⟨rfl, rfl⟩
    · split at happended
      · cases happended
        exact ⟨rfl, rfl⟩
      · split at happended
        · cases happended
          exact ⟨rfl, rfl⟩
        · cases happended
  · intro hnone
    split at hnone
    · cases hnone
    · rename_i previous hprevious
      refine ⟨previous, hprevious, Or.inr ?_⟩
      split at hnone
      · cases hnone
      · split at hnone
        · cases hnone
        · rename_i hsame
          simpa using hsame

theorem JournalInv.emit (hinv : JournalInv cfg s) {event : ObserverEvent}
    (h : event.state = none) : JournalInv cfg (s.emit event) :=
  hinv.silent (hinv.workers.emit event) (silent_emit s h) (fun _ _ h => Or.inl h)
    (fun _ _ _ h _ => Or.inl h)

theorem JournalInv.begin (hinv : JournalInv cfg s) (hat : s.workers[i]? = some worker)
    (hlive : worker.phase.isDone = false) (hold : worker.phase.held = none) (created : Except String Unit)
    (occurredAt : Datetime) (hworkers : WorkersInv cfg (s.begin i worker created occurredAt)) :
    JournalInv cfg (s.begin i worker created occurredAt) := by
  have hconnecting : JournalInv cfg
      (s.emit { deviceId := worker.deviceId, status := .connecting, occurredAt }) := hinv.emit rfl
  cases created with
  | ok =>
      exact hconnecting.quiet hat hworkers (stepped_setWorker ..) rfl (silent_setWorker ..) hold
        rfl
  | error error => exact hconnecting.fail hat hlive hold error occurredAt

/-- A state is reported, with a record. -/
theorem JournalInv.recorded (hinv : JournalInv cfg s) (hat : s.workers[i]? = some worker)
    (hlive : worker.phase.isDone = false) (hold : worker.phase.held = none) {state : DeviceState}
    {reported : ObserverState} {record : JournalRecord}
    (hreport : s.reportState worker.deviceId state = (reported, some record))
    (hworkers : WorkersInv cfg (reported.append i worker record)) :
    JournalInv cfg (reported.append i worker record) := by
  obtain ⟨hread, hrecord, -⟩ := reportState_read hreport
  obtain ⟨worker', hstepped, happending⟩ := append_stepped reported i worker record
  have hid : worker'.deviceId = worker.deviceId := by rcases happending with rfl | rfl <;> rfl
  refine hinv.read hat hlive hold hworkers (reported_stepped hreport hstepped) hid
    (hread.then_silent (silent_append ..)) (fun other hother => ?_)
    (Or.inl ⟨record, happending.held, (hrecord record rfl).2⟩)
  rw [happending.held] at hother
  cases hother
  exact hrecord record rfl

/-- A state is reported, and there is nothing to record. -/
theorem JournalInv.unrecorded (hinv : JournalInv cfg s) (hat : s.workers[i]? = some worker)
    (hlive : worker.phase.isDone = false) (hold : worker.phase.held = none) {state : DeviceState}
    {reported : ObserverState} (hreport : s.reportState worker.deviceId state = (reported, none))
    (hworkers : WorkersInv cfg (reported.setWorker i { worker with phase := .polling })) :
    JournalInv cfg (reported.setWorker i { worker with phase := .polling }) := by
  obtain ⟨hread, -, hsame⟩ := reportState_read hreport
  exact hinv.read hat hlive hold hworkers (reported_stepped hreport (stepped_setWorker ..)) rfl
    (hread.then_silent (silent_setWorker ..)) (fun _ h => by cases h) (Or.inr (hsame rfl))

/-- The worker gets the lock with its record. -/
theorem JournalInv.acquired (hinv : JournalInv cfg s) (hat : s.workers[i]? = some worker)
    {record : JournalRecord} (hphase : worker.phase = .waiting record)
    (hworkers : WorkersInv cfg
      ({ s with lock := some i }.setWorker i { worker with phase := .queued record })) :
    JournalInv cfg
      ({ s with lock := some i }.setWorker i { worker with phase := .queued record }) := by
  refine hinv.move hat hworkers ⟨rfl, rfl, rfl, List.prefix_rfl⟩ rfl
    ⟨rfl, rfl, rfl, rfl, fun _ => rfl⟩ ?_ ?_
  · intro other h
    rw [hphase]
    exact Or.inl h
  · intro other state h _
    rw [hphase] at h
    exact Or.inl h

/-- The worker sees its write done, and goes on. -/
theorem JournalInv.appended (hinv : JournalInv cfg s) (hat : s.workers[i]? = some worker)
    (hold : worker.phase.held = none) (record : JournalRecord)
    (hworkers : WorkersInv cfg ((s.release i).setWorker i (worker.resume record))) :
    JournalInv cfg ((s.release i).setWorker i (worker.resume record)) := by
  have hid : (worker.resume record).deviceId = worker.deviceId := by
    unfold Worker.resume Worker.close
    split
    · rfl
    · split <;> rfl
  have hnew : (worker.resume record).phase.held = none := by
    unfold Worker.resume
    split
    · rfl
    · exact held_close worker false
  exact hinv.quiet hat hworkers (release_stepped (stepped_setWorker ..)) hid
    ((silent_release s i).trans (silent_setWorker ..)) hold hnew

/-- The worker ends; what it held was started before. -/
theorem JournalInv.ended (hinv : JournalInv cfg s) (hat : s.workers[i]? = some worker)
    {action : WorkerAction} (hkeeps : KeepsRecords s (.worker i action))
    (hends : action = .interrupted ∧ worker.cancelled = true ∨ action = .left)
    (hworkers : WorkersInv cfg ((s.release i).setWorker i worker.terminate)) :
    JournalInv cfg ((s.release i).setWorker i worker.terminate) := by
  refine hinv.move hat hworkers (release_stepped (stepped_setWorker ..))
    evolves_terminate.deviceId ((silent_release s i).trans (silent_setWorker ..))
    (fun record h => ?_) (fun record state hheld hstate => ?_)
  · rw [held_terminate] at h
    cases h
  · have hid := (hinv.pending ⟨i, worker, hat, rfl, hheld⟩).1
    have hdrops : DropsRecord s (.worker i action) record := by
      refine ⟨i, worker, hat, hheld, ?_⟩
      rcases hends with ⟨rfl, hcancelled⟩ | rfl
      · exact Or.inl ⟨rfl, hcancelled⟩
      · exact Or.inr rfl
    have hkept := hkeeps.lost record state hdrops hstate
    rw [hid] at hkept
    exact Or.inr hkept

/-- **A step of a worker that keeps its record keeps the journal true.** -/
theorem journalInv_worker (hinv : JournalInv cfg s) (hat : s.workers[i]? = some worker)
    {action : WorkerAction} (hkeeps : KeepsRecords s (.worker i action)) :
    JournalInv cfg (workerStep s i worker action) := by
  have hworkers : WorkersInv cfg (workerStep s i worker action) := by
    obtain ⟨worker', hstepped, hevolves⟩ := workerStep_stepped hat action
    exact hstepped.workersInv hat hevolves hinv.workers
  have hfree {phase : Phase} (hphase : worker.phase = phase) (h : phase.held = none) :
      worker.phase.held = none := hphase ▸ h
  have hset {next : Worker} (hworkers : WorkersInv cfg (s.setWorker i next))
      (hid : next.deviceId = worker.deviceId) (hold : worker.phase.held = none)
      (hnew : next.phase.held = none) : JournalInv cfg (s.setWorker i next) :=
    hinv.quiet hat hworkers (stepped_setWorker ..) hid (silent_setWorker ..) hold hnew
  revert hworkers
  unfold workerStep
  split
  all_goals intro hworkers
  case h_1 hphase =>
      exact hinv.begin hat (by rw [hphase]; rfl) (hfree hphase rfl) _ _ hworkers
  case h_2 hphase =>
      exact hinv.begin hat (by rw [hphase]; rfl) (hfree hphase rfl) _ _ hworkers
  case h_3 hphase =>
      exact hset hworkers rfl (hfree hphase rfl) rfl
  case h_4 hphase =>
      have hlive : worker.phase.isDone = false := by rw [hphase]; rfl
      have hold : worker.phase.held = none := hfree hphase rfl
      split at hworkers
      · exact hinv.recorded hat hlive hold ‹_› hworkers
      · exact hinv.unrecorded hat hlive hold ‹_› hworkers
  case h_5 hphase =>
      exact hinv.fail hat (by rw [hphase]; rfl) (hfree hphase rfl) _ _
  case h_6 hphase =>
      exact hinv.fail hat (by rw [hphase]; rfl) (hfree hphase rfl) _ _
  case h_7 hphase =>
      exact hinv.fail hat (by rw [hphase]; rfl) (hfree hphase rfl) _ _
  case h_8 hphase =>
      split at hworkers
      · rw [if_pos ‹_›]
        exact hinv.acquired hat hphase hworkers
      · rw [if_neg ‹_›]
        exact hinv
  case h_9 hphase =>
      exact hinv.start hat hphase hworkers ⟨rfl, rfl, rfl, List.prefix_rfl⟩ rfl rfl rfl rfl rfl rfl
        rfl
  case h_10 hphase =>
      split at hworkers
      · rw [if_pos ‹_›]
        exact hinv
      · rw [if_neg ‹_›]
        exact hinv.appended hat (hfree hphase rfl) _ hworkers
  case h_11 hphase =>
      exact hset hworkers rfl (hfree hphase rfl) rfl
  case h_12 last hphase =>
      exact hset hworkers rfl (hfree hphase rfl) (by cases last <;> rfl)
  case h_13 => exact hinv.ended hat hkeeps (Or.inr rfl) hworkers
  case h_14 =>
      split at hworkers
      · rw [if_pos ‹_›]
        exact hinv.ended hat hkeeps (Or.inl ⟨rfl, ‹_›⟩) hworkers
      · rw [if_neg ‹_›]
        exact hinv
  case h_15 => exact hinv

/-! ## Every other step -/

/-- The journal does not see the step: it is silent, and who held a record holds it. -/
structure Unseen (s s' : ObserverState) : Prop where
  silent : Silent s s'
  pending : ∀ deviceId record, PendingFor s' deviceId record ↔ PendingFor s deviceId record

theorem Unseen.journalInv (h : Unseen s s') (hinv : JournalInv cfg s)
    (hworkers : WorkersInv cfg s') : JournalInv cfg s' :=
  hinv.silent hworkers h.silent
    (fun deviceId record hpending => Or.inl ((h.pending deviceId record).mp hpending))
    (fun deviceId record _ hpending _ => Or.inl ((h.pending deviceId record).mpr hpending))

theorem unseen_of_workers (hsilent : Silent s s') (hworkers : s'.workers = s.workers) :
    Unseen s s' := by
  refine ⟨hsilent, fun deviceId record => ?_⟩
  unfold PendingFor
  rw [hworkers]

theorem Asked.unseen {asked : ℕ → Bool} (h : Asked s s' asked) (hsilent : Silent s s') :
    Unseen s s' := by
  refine ⟨hsilent, fun deviceId record => ?_⟩
  constructor
  · rintro ⟨j, other, hget, hid, hheld⟩
    rw [h.workers, Option.map_eq_some_iff] at hget
    obtain ⟨worker, hworker, rfl⟩ := hget
    exact ⟨j, worker, hworker, hid, hheld⟩
  · rintro ⟨j, worker, hget, hid, hheld⟩
    exact ⟨j, worker.ask (asked j), by rw [h.workers, hget]; rfl, hid, hheld⟩

theorem unseen_spawn (s : ObserverState) (config : DeviceConfig) (endpoint : ResolvedDevice) :
    Unseen s (s.spawn config endpoint) := by
  refine ⟨⟨rfl, rfl, rfl, rfl, fun _ => rfl⟩, fun deviceId record => ?_⟩
  constructor
  · rintro ⟨j, other, hget, hid, hheld⟩
    rcases spawn_getElem?.mp hget with hget | ⟨-, rfl⟩
    · exact ⟨j, other, hget, hid, hheld⟩
    · cases hheld
  · rintro ⟨j, worker, hget, hid, hheld⟩
    exact ⟨j, worker, spawn_getElem?.mpr (Or.inl hget), hid, hheld⟩

theorem Unseen.trans {t : ObserverState} (h : Unseen s s') (h' : Unseen s' t) : Unseen s t :=
  ⟨h.silent.trans h'.silent, fun deviceId record =>
    (h'.pending deviceId record).trans (h.pending deviceId record)⟩

section Reconciling

variable {resolved : Dict String ResolvedDevice} {config : DeviceConfig}
  {configs : List DeviceConfig}

theorem unseen_reconciler (s : ObserverState) (reconciler : Reconciler)
    (table : Dict String (ResolvedDevice × ℕ)) : Unseen s { s with reconciler, table } :=
  unseen_of_workers ⟨rfl, rfl, rfl, rfl, fun _ => rfl⟩ rfl

theorem unseen_unmap (s : ObserverState) (config : DeviceConfig) (occurredAt : Datetime) :
    Unseen s (s.unmap config occurredAt) :=
  unseen_of_workers (silent_emit s rfl) rfl

theorem silent_cancel (s : ObserverState) (i : ℕ) : Silent s (s.cancel i) :=
  ⟨rfl, rfl, rfl, rfl, fun _ => rfl⟩

theorem unseen_stop (s : ObserverState) : Unseen s s.stop := by
  obtain ⟨asked, hasked⟩ := asked_stop s
  refine hasked.unseen ?_
  have hfold : ∀ (entries : List (String × (ResolvedDevice × ℕ))) (s : ObserverState),
      Silent s (entries.foldl (fun s entry => s.cancel entry.2.2) s) := by
    intro entries
    induction entries with
    | nil => exact silent_refl
    | cons entry entries ih => exact fun s => (silent_cancel s entry.2.2).trans (ih _)
  have hall := hfold s.table.entries s
  exact ⟨hall.lastStates, hall.running, hall.nextWrite, hall.file, hall.reported⟩

theorem unseen_bindOne (s : ObserverState) (occurredAt : Datetime) :
    Unseen s (s.bindOne resolved config configs occurredAt) := by
  have hnext := unseen_reconciler s (.binding resolved configs) s.table
  have hgathering (j : ℕ) :
      Unseen s { s.cancel j with reconciler := .gathering resolved config j configs } := by
    have hasked : Asked s { s.cancel j with reconciler := .gathering resolved config j configs }
        (fun k => k = j) := ⟨(asked_cancel s j).workers, rfl, rfl⟩
    exact hasked.unseen ⟨rfl, rfl, rfl, rfl, fun _ => rfl⟩
  unfold ObserverState.bindOne
  dsimp only
  split
  · exact hnext.trans (unseen_unmap ..)
  · exact hgathering _
  · exact hnext.trans (unseen_spawn ..)
  · split
    · exact hnext
    · exact hgathering _

theorem unseen_bindGathered (s : ObserverState) (occurredAt : Datetime) :
    Unseen s (s.bindGathered resolved config configs occurredAt) := by
  unfold ObserverState.bindGathered
  dsimp only
  split
  · exact (unseen_reconciler s _ _).trans (unseen_unmap ..)
  · exact (unseen_reconciler s (.binding resolved configs) s.table).trans (unseen_spawn ..)

end Reconciling

/-- The running writes around one of them. -/
theorem JournalInv.around (hinv : JournalInv cfg s) {write : ℕ} {record : JournalRecord}
    (hfind : s.running.find? (fun running => running.1 = write) = some (write, record)) :
    ∃ ahead behind, s.running = ahead ++ (write, record) :: behind
      ∧ s.running.filter (fun running => running.1 ≠ write) = ahead ++ behind
      ∧ s.older write = ahead.map Prod.snd ∧ s.newer write = behind.map Prod.snd := by
  obtain ⟨-, ahead, behind, hrunning, hahead⟩ := List.find?_eq_some_iff_append.mp hfind
  have hbefore : ∀ running ∈ ahead, decide (running.1 ≠ write) = true := by
    intro running hmem
    simpa using hahead running hmem
  have hafter : ∀ running ∈ behind, decide (running.1 ≠ write) = true := by
    -- no two writes have one number
    intro running hmem
    have hdistinct := hinv.distinct
    rw [hrunning, List.map_append, List.map_cons] at hdistinct
    have hnotMem := (List.nodup_cons.mp (List.nodup_append.mp hdistinct).2.1).1
    refine decide_eq_true fun heq => hnotMem (List.mem_map.mpr ⟨running, hmem, heq⟩)
  obtain ⟨hrest, holder, hnewer⟩ :=
    Log.around (p := fun running : ℕ × JournalRecord => decide (running.1 ≠ write))
      (a := (write, record)) (by simp) hbefore hafter
  rw [← hrunning] at hrest holder hnewer
  exact ⟨ahead, behind, hrunning, hrest, congrArg (List.map Prod.snd) holder,
    congrArg (List.map Prod.snd) hnewer⟩

/-- A thread ends its write. -/
theorem JournalInv.write (hinv : JournalInv cfg s) {write : ℕ} {record : JournalRecord}
    (hfind : s.running.find? (fun running => running.1 = write) = some (write, record))
    (hkeeps : KeepsRecords s (.written write)) : JournalInv cfg
      { s with
        running := s.running.filter (fun running => running.1 ≠ write)
        file := s.file ++ [record] } := by
  obtain ⟨ahead, behind, hrunning, hrest, holder, hnewer⟩ := hinv.around hfind
  have hsub : (s.running.filter (fun running => running.1 ≠ write)).Sublist s.running :=
    List.filter_sublist
  have h := hinv.workers
  refine ⟨⟨h.entry, h.live, h.sound, h.requested, h.gathering, h.pending, h.keys⟩, hinv.reported,
    hinv.pending, ?_, hinv.distinct.sublist (hsub.map Prod.fst), ?_⟩
  · exact fun other hother => hinv.fresh other ((hsub.map Prod.fst).subset hother)
  · intro deviceId state hstate
    rcases hinv.kept hstate with hpending | ⟨recorded, hlast, hsame⟩
    · exact Or.inl hpending
    · right
      have hbefore : lastRecorded (s.file ++ (ahead.map Prod.snd ++ record :: behind.map Prod.snd))
          deviceId = some recorded := by
        rw [← hlast]
        unfold ObserverState.started
        rw [hrunning, List.map_append, List.map_cons]
      show ∃ recorded, lastRecorded (s.file ++ [record]
        ++ (s.running.filter (fun running => running.1 ≠ write)).map Prod.snd) deviceId
          = some recorded ∧ SameSignature recorded state
      rw [hrest, List.map_append]
      rcases Log.last_overtaking hbefore with hlast' | ⟨rfl, hcurrent, hbehind, overtaken, hahead, hlast'⟩
      · exact ⟨recorded, hlast', hsame⟩
      · -- the write was the newest of the device; what it overtook says the same
        have hmem : (write, record) ∈ s.running := by
          rw [hrunning]
          exact List.mem_append_right _ (List.mem_cons_self ..)
        have hovertakes : Overtakes s (.written write) record overtaken :=
          ⟨write, rfl, hmem, by rw [hnewer]; exact hbehind, by rw [holder]; exact hahead⟩
        exact ⟨overtaken, hlast', sameSignature_trans
          (hkeeps.overtaken record recorded overtaken hovertakes hcurrent) hsame⟩

/-- **A step that keeps the records keeps the journal true.** -/
theorem journalInv_step {action : ObserverAction} (hinv : JournalInv cfg s)
    (hkeeps : KeepsRecords s action) : JournalInv cfg (observerStep cfg s action) := by
  have hworkers := workersInv_step hinv.workers action
  have hgo (reconciler : Reconciler) (table : Dict String (ResolvedDevice × ℕ))
      (h : WorkersInv cfg { s with reconciler, table }) :
      JournalInv cfg { s with reconciler, table } :=
    (unseen_reconciler s reconciler table).journalInv hinv h
  revert hworkers
  unfold observerStep
  split
  all_goals intro hworkers
  case h_1 =>
      split at hworkers
      · rw [if_pos ‹_›]
        exact hgo _ s.table hworkers
      · rw [if_neg ‹_›]
        exact hinv
  case h_2 =>
      split at hworkers
      · rw [if_pos ‹_›]
        split at hworkers
        · exact hgo _ s.table hworkers
        · exact hgo _ s.table hworkers
        · exact (unseen_stop s).journalInv hinv hworkers
      · rw [if_neg ‹_›]
        exact hgo _ s.table hworkers
  case h_3 => exact hgo _ s.table hworkers
  case h_4 => exact (unseen_bindOne s _).journalInv hinv hworkers
  case h_5 =>
      split at hworkers
      · rw [if_pos ‹_›]
        exact (unseen_bindGathered s _).journalInv hinv hworkers
      · rw [if_neg ‹_›]
        exact hinv
  case h_6 | h_7 => exact hinv
  case h_8 => exact (unseen_stop s).journalInv hinv hworkers
  case h_9 =>
      split at hworkers
      · rw [if_pos ‹_›]
        exact hgo _ _ hworkers
      · rw [if_neg ‹_›]
        exact hinv
  case h_10 =>
      split
      · rename_i hat
        exact journalInv_worker hinv hat hkeeps
      · exact hinv
  case h_11 write _ =>
      split
      · rename_i hfind
        have hwrite := List.find?_some hfind
        simp only [decide_eq_true_eq] at hwrite
        subst hwrite
        exact hinv.write hfind hkeeps
      · exact hinv
  case h_12 => exact absurd rfl (hkeeps.succeeds _)
  case h_13 => exact hinv

/-! ## Whole runs -/

theorem appending_eq_false_iff : s.appending = false ↔ s.running = [] ∧ ∀ worker ∈ s.workers,
    worker.phase.held = none ∧ ∀ record write, worker.phase ≠ .writing record write := by
  unfold ObserverState.appending
  rw [Bool.or_eq_false_iff, Bool.not_eq_false', List.isEmpty_iff, List.any_eq_false]
  refine and_congr_right fun _ => forall_congr' fun worker => forall_congr' fun _ => ?_
  cases worker.phase <;> simp [Phase.held]

/-- When nobody appends, nobody holds a record either. -/
theorem JournalInv.current (hinv : JournalInv cfg s) : JournalCurrent s := by
  intro hidle deviceId state hreported
  obtain ⟨hrunning, hworkers⟩ := appending_eq_false_iff.mp hidle
  rw [hinv.reported] at hreported
  rcases hinv.kept hreported with ⟨record, ⟨i, worker, hget, -, hheld⟩, -⟩ | hkept
  · rw [(hworkers worker (List.mem_of_getElem? hget)).1] at hheld
    cases hheld
  · unfold ObserverState.started at hkept
    rwa [hrunning, List.map_nil, List.append_nil] at hkept

/--
**The journal is up to date whenever nothing is appended, as long as no record is lost.**

A record is lost when its worker is cancelled, or ends, before its write was started; a
write that ends before an older one of its device leaves the older one last.
Neither matters when the record that comes last has the same signature.
-/
theorem journal_current (cfg : AppConfig) {actions : List ObserverAction}
    (h : Run.Each (observerStep cfg) KeepsRecords {} actions) :
    Run.Always (observerStep cfg) JournalCurrent {} actions := by
  have hstep : ∀ s action, KeepsRecords s action → JournalInv cfg s →
      JournalInv cfg (observerStep cfg s action) :=
    fun _ _ hkeeps hinv => journalInv_step hinv hkeeps
  exact Run.always_of_each hstep (fun _ hinv => hinv.current) h journalInv_init

/-- Only the end of a worker and the end of a write can go wrong. -/
theorem keepsRecords_of {action : ObserverAction}
    (hends : ∀ i, action ≠ .worker i .interrupted ∧ action ≠ .worker i .left)
    (hwritten : ∀ write, action ≠ .written write ∧ action ≠ .unwritten write) :
    KeepsRecords s action where
  succeeds write := (hwritten write).2
  lost := by
    rintro record state ⟨i, worker, -, -, ⟨haction, -⟩ | haction⟩
    · exact absurd haction (hends i).1
    · exact absurd haction (hends i).2
  overtaken := by
    rintro record state overtaken ⟨write, haction, -⟩
    exact absurd haction (hwritten write).1

theorem keepsRecords_of_oldest {write : ℕ} (h : (s.older write).isEmpty = true) :
    KeepsRecords s (.written write) where
  succeeds other h := by cases h
  lost := by
    rintro record state ⟨i, worker, -, -, ⟨haction, -⟩ | haction⟩ <;> cases haction
  overtaken := by
    rintro record state overtaken ⟨other, haction, -, -, holder⟩
    cases haction
    rw [List.isEmpty_iff.mp h] at holder
    cases holder

/-- A worker that holds no record can be interrupted. -/
theorem keepsRecords_interrupted
    (h : (s.workers[i]?.all (fun worker => worker.phase.held.isNone)) = true) :
    KeepsRecords s (.worker i .interrupted) where
  succeeds _ hwrite := by cases hwrite
  lost := by
    rintro record state ⟨j, worker, hat, hheld, ⟨haction, -⟩ | haction⟩
    · cases haction
      rw [hat, Option.all_some, hheld] at h
      cases h
    · cases haction
  overtaken := by
    rintro record state overtaken ⟨write, haction, -⟩
    cases haction

/-- A wavemaker that runs at this power. -/
def wavemakerAt (power : Percent) : DeviceState where
  enabled := true
  power
  observedAt := 0

/-- The right wavemaker, at an address. -/
def rightWavemakerAt (address : String) : DiscoveredDevice where
  address
  deviceId := "vendor-right"
  macAddress := some "001122334455"
  productKey := some "1d8c63eaccac4205b92c84d77d5a08fb"

/--
The left wavemaker is found elsewhere while its first record is being written: its worker
is cancelled, the write goes on, and the next worker reads another power.
-/
def leftWavemakerMoved : List ObserverAction :=
  [.beginRound, .discovered (.answers [leftWavemakerAt "192.0.2.11"]), .bindNext 0, .bindNext 0,
    .bindNext 0,
    .worker 0 (.begin (.ok ()) 0), .worker 0 .connected, .worker 0 (.read (wavemakerAt 30)),
    .worker 0 .started,
    .beginRound, .discovered (.answers [leftWavemakerAt "192.0.2.13"]), .bindNext 1,
    .worker 0 .interrupted, .worker 0 .disconnected, .gathered 1,
    .worker 1 (.begin (.ok ()) 2), .worker 1 .connected, .worker 1 (.read (wavemakerAt 40)),
    .worker 1 .started, .written 0, .written 1, .worker 1 .appended]

theorem journal_current_leftWavemaker : ∃ recorded, lastRecorded
    (Run.exec (observerStep pairedTank) {} leftWavemakerMoved).file "left" = some recorded
      ∧ SameSignature recorded (wavemakerAt ⟨40, by decide⟩) := by
  have hkeeps : Run.Each (observerStep pairedTank) KeepsRecords {} leftWavemakerMoved := by
    refine ⟨?_, ?_, ?_, ?_, ?_, ?_, ?_, ?_, ?_, ?_, ?_, ?_,
      keepsRecords_interrupted (by decide +kernel), ?_, ?_, ?_, ?_, ?_, ?_,
      keepsRecords_of_oldest (by decide +kernel), keepsRecords_of_oldest (by decide +kernel), ?_,
      trivial⟩
    all_goals exact keepsRecords_of (by simp) (by simp)
  exact (journal_current pairedTank hkeeps).last (by decide +kernel) "left" _ rfl

/--
The left wavemaker is at its first write while the right one is read and waits for the
lock; it is found elsewhere, its worker is replaced, and the next reads the same.
-/
def rightWavemakerLost : List ObserverAction :=
  [.beginRound,
    .discovered (.answers [leftWavemakerAt "192.0.2.11", rightWavemakerAt "192.0.2.12"]),
    .bindNext 0, .bindNext 0, .bindNext 0,
    .worker 0 (.begin (.ok ()) 0), .worker 0 .connected,
    .worker 0 (.read (wavemakerAt 30)), .worker 0 .started,
    .worker 1 (.begin (.ok ()) 0), .worker 1 .connected,
    .worker 1 (.read (wavemakerAt 40)),
    .beginRound,
    .discovered (.answers [leftWavemakerAt "192.0.2.11", rightWavemakerAt "192.0.2.13"]),
    .bindNext 1, .bindNext 1, .worker 1 .interrupted, .worker 1 .disconnected, .gathered 1,
    .bindNext 1, .written 0, .worker 0 .appended,
    .worker 2 (.begin (.ok ()) 2), .worker 2 .connected,
    .worker 2 (.read (wavemakerAt 40))]

/-- The right wavemaker was reported twice, and the journal has no state of it. -/
theorem journal_loses_rightWavemaker : ¬ ∀ (cfg : AppConfig) (actions : List ObserverAction),
    JournalCurrent (Run.exec (observerStep cfg) {} actions) := by
  intro h
  obtain ⟨recorded, hrecorded, -⟩ :=
    h pairedTank rightWavemakerLost (by decide +kernel) "right" (wavemakerAt ⟨40, by decide⟩) rfl
  have hnone : (lastRecorded (Run.exec (observerStep pairedTank) {} rightWavemakerLost).file
      "right").isNone = true := by decide +kernel
  rw [hrecorded] at hnone
  cases hnone

end JebaoFlow
