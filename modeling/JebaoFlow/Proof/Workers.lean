import JebaoFlow.Devices.Observer
import JebaoFlow.Lib.Run
import JebaoFlow.Proof.Bindings

/-!
# The workers of the observer

The worker table is changed across awaits: a worker is cancelled, its end is awaited,
and only then is its place given away. Whatever happens in between, a worker that is not
done is the one in the table, so there is never a second one for its device, nor a second
open session. A round that nothing disturbs leaves exactly the workers it resolved.
-/

namespace JebaoFlow

variable {cfg : AppConfig} {s s' : ObserverState} {i : ℕ} {worker worker' : Worker}

/-- The worker at this position is not done. -/
def LiveAt (s : ObserverState) (i : ℕ) (worker : Worker) : Prop :=
  s.workers[i]? = some worker ∧ worker.phase.isDone = false

/-! ## What a step of a worker does to it -/

/-- The worker has no device. -/
def Phase.isIdle : Phase → Bool
  | .starting | .backingOff | .done => true
  | _ => false

/-- At most one session is open, and none while there is no device. -/
structure Worker.Sound (worker : Worker) : Prop where
  one : worker.sessions ≤ 1
  none : worker.phase.isIdle = true → worker.sessions = 0

/-- A worker with an open session is not done. -/
theorem Worker.Sound.live (h : worker.Sound) (hopen : worker.sessions ≠ 0) :
    worker.phase.isDone = false := by
  cases hphase : worker.phase with
  | done => exact absurd (h.none (by rw [hphase]; rfl)) hopen
  | _ => rfl

/-- The worker went on: it is still the same task, and a task that is done stays done. -/
structure Worker.Evolves (worker worker' : Worker) : Prop where
  deviceId : worker'.deviceId = worker.deviceId
  endpoint : worker'.endpoint = worker.endpoint
  cancelled : worker'.cancelled = worker.cancelled
  sound : worker.Sound → worker'.Sound
  live : worker'.phase.isDone = false → worker.phase.isDone = false

theorem Worker.Evolves.refl (worker : Worker) : worker.Evolves worker :=
  ⟨rfl, rfl, rfl, id, id⟩

/-- A step of one worker, as far as the workers and the table are concerned. -/
structure Stepped (s s' : ObserverState) (i : ℕ) (worker' : Worker) : Prop where
  workers : s'.workers = s.workers.set i worker'
  table : s'.table = s.table
  reconciler : s'.reconciler = s.reconciler
  events : s.events <+: s'.events

theorem stepped_setWorker (s : ObserverState) (i : ℕ) (worker' : Worker) :
    Stepped s (s.setWorker i worker') i worker' :=
  ⟨rfl, rfl, rfl, List.prefix_rfl⟩

theorem stepped_self (h : s.workers[i]? = some worker) : Stepped s s i worker := by
  obtain ⟨hlt, rfl⟩ := List.getElem?_eq_some_iff.mp h
  exact ⟨(List.set_getElem_self hlt).symm, rfl, rfl, List.prefix_rfl⟩

theorem release_stepped (h : Stepped (s.release i) s' i worker') : Stepped s s' i worker' := by
  unfold ObserverState.release at h
  split at h
  · exact ⟨h.workers, h.table, h.reconciler, h.events⟩
  · exact h

/-- The worker goes to the journal with a record. -/
def Appending (worker' worker : Worker) (record : JournalRecord) : Prop :=
  worker' = { worker with phase := .queued record }
    ∨ worker' = { worker with phase := .waiting record }

theorem append_stepped (s : ObserverState) (i : ℕ) (worker : Worker) (record : JournalRecord) :
    ∃ worker', Stepped s (s.append i worker record) i worker'
      ∧ Appending worker' worker record := by
  unfold ObserverState.append
  split
  · exact ⟨_, ⟨rfl, rfl, rfl, List.prefix_rfl⟩, Or.inl rfl⟩
  · exact ⟨_, ⟨rfl, rfl, rfl, List.prefix_rfl⟩, Or.inr rfl⟩

theorem Stepped.after_emit {event : ObserverEvent} (h : Stepped (s.emit event) s' i worker') :
    Stepped s s' i worker' :=
  ⟨h.workers, h.table, h.reconciler, (List.prefix_append ..).trans h.events⟩

/-- The worker after something it awaited raised. -/
def Failed (worker' worker : Worker) : Prop :=
  (∃ record, Appending worker' worker record ∧ record.deviceId = worker.deviceId
    ∧ record.current = none) ∨ worker' = worker.close false

theorem fail_stepped (s : ObserverState) (i : ℕ) (worker : Worker) (error : String)
    (occurredAt : Datetime) : ∃ worker',
      Stepped s (s.fail i worker error occurredAt) i worker' ∧ Failed worker' worker := by
  unfold ObserverState.fail ObserverState.reportOffline
  dsimp only
  by_cases hfirst : worker.deviceId ∈ s.offline
  · simp only [hfirst, not_true_eq_false, decide_false, Bool.false_eq_true, if_false]
    exact ⟨_, (stepped_setWorker ..).after_emit, Or.inr rfl⟩
  · simp only [hfirst, not_false_eq_true, decide_true, if_true]
    obtain ⟨worker', hstepped, happending⟩ := append_stepped
      ({ s with offline := worker.deviceId :: s.offline }.emit
        { deviceId := worker.deviceId, status := .offline, occurredAt, error := some error }) i worker
      { event := .offline, deviceId := worker.deviceId, occurredAt
        previous := s.lastStates.get? worker.deviceId, error := some error }
    exact ⟨worker', ⟨hstepped.workers, hstepped.table, hstepped.reconciler,
      (List.prefix_append ..).trans hstepped.events⟩, Or.inl ⟨_, happending, rfl, rfl⟩⟩

theorem evolves_close (last : Bool) (hlive : worker.phase.isDone = false) :
    worker.Evolves (worker.close last) := by
  unfold Worker.close
  split
  · rename_i hnone
    exact ⟨rfl, rfl, rfl, fun h => ⟨h.one, fun _ => hnone⟩, fun _ => hlive⟩
  · exact ⟨rfl, rfl, rfl, fun h => ⟨h.one, fun hidle => by cases hidle⟩, fun _ => hlive⟩

theorem evolves_phase {phase : Phase} (hlive : worker.phase.isDone = false)
    (hphase : phase.isIdle = false) : worker.Evolves { worker with phase } := by
  refine ⟨rfl, rfl, rfl, fun h => ⟨h.one, fun hidle => ?_⟩, fun _ => hlive⟩
  rw [hphase] at hidle
  cases hidle

theorem Appending.evolves {record : JournalRecord} (h : Appending worker' worker record)
    (hlive : worker.phase.isDone = false) : worker.Evolves worker' := by
  rcases h with rfl | rfl <;> exact evolves_phase hlive rfl

theorem Failed.evolves (h : Failed worker' worker) (hlive : worker.phase.isDone = false) :
    worker.Evolves worker' := by
  rcases h with ⟨record, happending, -⟩ | rfl
  · exact happending.evolves hlive
  · exact evolves_close false hlive

theorem evolves_disconnected (last : Bool) (hlive : worker.phase.isDone = false) :
    worker.Evolves (worker.disconnected last) :=
  ⟨rfl, rfl, rfl,
    fun h => ⟨(Nat.sub_le ..).trans h.one, fun _ => Nat.sub_eq_zero_of_le h.one⟩, fun _ => hlive⟩

theorem evolves_terminate : worker.Evolves worker.terminate := by
  unfold Worker.terminate
  have hidle (h : worker.phase.isIdle = true) : worker.Evolves { worker with phase := .done } :=
    ⟨rfl, rfl, rfl, fun hsound => ⟨hsound.one, fun _ => hsound.none h⟩, fun hd => by cases hd⟩
  split
  · rename_i hphase
    exact hidle (by rw [hphase]; rfl)
  · rename_i hphase
    exact hidle (by rw [hphase]; rfl)
  · rename_i hphase
    exact hidle (by rw [hphase]; rfl)
  · rename_i hphase
    exact evolves_disconnected true (by rw [hphase]; rfl)
  · rename_i hdone _
    refine evolves_close true ?_
    cases hphase : worker.phase <;> first | rfl | exact absurd hphase hdone

theorem begin_stepped (s : ObserverState) (i : ℕ) (created : Except String Unit)
    (occurredAt : Datetime) (hphase : worker.phase = .starting ∨ worker.phase = .backingOff) :
    ∃ worker', Stepped s (s.begin i worker created occurredAt) i worker'
      ∧ worker.Evolves worker' := by
  have hlive : worker.phase.isDone = false := by rcases hphase with h | h <;> rw [h] <;> rfl
  cases created with
  | ok =>
      refine ⟨_, (stepped_setWorker ..).after_emit, rfl, rfl, rfl,
        fun h => ⟨?_, fun hidle => by cases hidle⟩, fun _ => hlive⟩
      have hnone : worker.sessions = 0 := h.none (by rcases hphase with h | h <;> rw [h] <;> rfl)
      show worker.sessions + 1 ≤ 1
      omega
  | error error =>
      obtain ⟨worker', hstepped, hfailed⟩ := fail_stepped
        (s.emit { deviceId := worker.deviceId, status := .connecting, occurredAt }) i worker error
        occurredAt
      exact ⟨worker', hstepped.after_emit, hfailed.evolves hlive⟩

/-- A report of a state leaves the workers to the step it is part of. -/
theorem reported_stepped {deviceId : String} {state : DeviceState} {reported : ObserverState}
    {record : Option JournalRecord} (hreport : s.reportState deviceId state = (reported, record))
    (h : Stepped reported s' i worker') : Stepped s s' i worker' := by
  have hreported : reported = (s.reportState deviceId state).1 := by rw [hreport]
  rw [hreported] at h
  exact ⟨h.workers, h.table, h.reconciler, (List.prefix_append ..).trans h.events⟩

/-- **A step of a worker changes that worker only, and leaves it the same task.** -/
theorem workerStep_stepped (h : s.workers[i]? = some worker) (action : WorkerAction) :
    ∃ worker', Stepped s (workerStep s i worker action) i worker' ∧ worker.Evolves worker' := by
  have hstay : ∃ worker', Stepped s s i worker' ∧ worker.Evolves worker' :=
    ⟨worker, stepped_self h, Worker.Evolves.refl worker⟩
  have hfail {phase : Phase} (hphase : worker.phase = phase) (hlive : phase.isDone = false)
      (error : String) (occurredAt : Datetime) : ∃ worker',
        Stepped s (s.fail i worker error occurredAt) i worker' ∧ worker.Evolves worker' := by
    obtain ⟨worker', hstepped, hfailed⟩ := fail_stepped s i worker error occurredAt
    exact ⟨worker', hstepped, hfailed.evolves (by rw [hphase]; exact hlive)⟩
  have hgo {phase : Phase} (hphase : worker.phase = phase) (hlive : phase.isDone = false)
      (next : Phase) (hnext : next.isIdle = false) :
      worker.Evolves { worker with phase := next } :=
    evolves_phase (by rw [hphase]; exact hlive) hnext
  unfold workerStep
  split
  case h_1 hphase => exact begin_stepped s i _ _ (Or.inl hphase)
  case h_2 hphase => exact begin_stepped s i _ _ (Or.inr hphase)
  case h_3 hphase =>
      exact ⟨_, stepped_setWorker .., hgo hphase rfl _ rfl⟩
  case h_4 hphase =>
      split
      · rename_i hreport
        obtain ⟨worker', hstepped, happending⟩ := append_stepped _ i worker _
        exact ⟨worker', reported_stepped hreport hstepped,
          happending.evolves (by rw [hphase]; rfl)⟩
      · rename_i hreport
        exact ⟨_, reported_stepped hreport (stepped_setWorker ..),
          hgo hphase rfl _ rfl⟩
  case h_5 hphase => exact hfail hphase rfl _ _
  case h_6 hphase => exact hfail hphase rfl _ _
  case h_7 hphase => exact hfail hphase rfl _ _
  case h_8 hphase =>
      split
      · exact ⟨_, ⟨rfl, rfl, rfl, List.prefix_rfl⟩,
          hgo hphase rfl _ rfl⟩
      · exact hstay
  case h_9 hphase =>
      exact ⟨_, ⟨rfl, rfl, rfl, List.prefix_rfl⟩,
        hgo hphase rfl _ rfl⟩
  case h_10 hphase =>
      split
      · exact hstay
      · -- a state was written and the device is polled, or it is given up
        refine ⟨_, release_stepped (stepped_setWorker ..), ?_⟩
        unfold Worker.resume
        split
        · exact hgo hphase rfl _ rfl
        · exact evolves_close false (by rw [hphase]; rfl)
  case h_11 hphase =>
      exact ⟨_, stepped_setWorker .., hgo hphase rfl _ rfl⟩
  case h_12 hphase => exact ⟨_, stepped_setWorker .., evolves_disconnected _ (by rw [hphase]; rfl)⟩
  case h_13 => exact ⟨_, release_stepped (stepped_setWorker ..), evolves_terminate⟩
  case h_14 =>
      split
      · exact ⟨_, release_stepped (stepped_setWorker ..), evolves_terminate⟩
      · exact hstay
  case h_15 => exact hstay

/-! ## The table and the workers -/

namespace Reconciler

/-- The devices the round has still to handle. -/
def pending : Reconciler → List DeviceConfig
  | .binding _ configs => configs
  | .gathering _ config _ configs => config :: configs
  | _ => []

/-- It asked this worker to end. -/
def Ends : Reconciler → ℕ → Prop
  | .gathering _ _ i _, j => i = j
  | .stopping, _ => True
  | _, _ => False

end Reconciler

/-- The table is true to the workers: who is not done is in it, at its endpoint. -/
structure WorkersInv (cfg : AppConfig) (s : ObserverState) : Prop where
  entry : ∀ {deviceId : String} {endpoint : ResolvedDevice} {i : ℕ},
    s.table.get? deviceId = some (endpoint, i) →
      ∃ worker, s.workers[i]? = some worker ∧ worker.deviceId = deviceId
        ∧ worker.endpoint = endpoint
  live : ∀ {i : ℕ} {worker : Worker}, LiveAt s i worker →
    s.table.get? worker.deviceId = some (worker.endpoint, i)
  sound : ∀ {i : ℕ} {worker : Worker}, s.workers[i]? = some worker → worker.Sound
  requested : ∀ {i : ℕ} {worker : Worker}, LiveAt s i worker → worker.cancelled = true →
    s.reconciler.Ends i
  gathering : ∀ {resolved : Dict String ResolvedDevice} {config : DeviceConfig} {i : ℕ}
    {configs : List DeviceConfig}, s.reconciler = .gathering resolved config i configs →
      ∃ endpoint, s.table.get? config.id = some (endpoint, i)
  pending : ∀ config ∈ s.reconciler.pending, config ∈ cfg.observed
  keys : ∀ {deviceId : String} {entry : ResolvedDevice × ℕ},
    s.table.get? deviceId = some entry → deviceId ∈ cfg.observed.map DeviceConfig.id

/-- A new observer, whatever the journal holds. -/
theorem workersInv_file (file : List JournalRecord) : WorkersInv cfg { file } where
  entry h := by cases h
  live h := by cases h.1
  sound h := by cases h
  requested h := by cases h.1
  gathering h := by cases h
  pending _ h := by cases h
  keys h := by cases h

theorem workersInv_init : WorkersInv cfg {} := workersInv_file []

/-- A device has one worker at work at most. -/
theorem WorkersInv.unique (h : WorkersInv cfg s) {j : ℕ} (hlive : LiveAt s i worker)
    (hlive' : LiveAt s j worker') (hid : worker.deviceId = worker'.deviceId) : i = j := by
  have hentry := h.live hlive
  rw [hid, h.live hlive'] at hentry
  injection hentry with hentry
  injection hentry with _ hji
  exact hji.symm

/-- No worker of the device is at work. -/
def Vacant (s : ObserverState) (deviceId : String) : Prop :=
  ∀ i worker, LiveAt s i worker → worker.deviceId ≠ deviceId

theorem isDone_iff : s.isDone i = true ↔ ∀ worker, ¬ LiveAt s i worker := by
  unfold ObserverState.isDone LiveAt
  cases s.workers[i]? with
  | none => simp
  | some worker => simp

theorem vacant_of_get?_none (h : WorkersInv cfg s) {deviceId : String}
    (hnone : s.table.get? deviceId = none) : Vacant s deviceId := by
  rintro i worker hlive rfl
  rw [h.live hlive] at hnone
  cases hnone

theorem vacant_of_isDone (h : WorkersInv cfg s) {deviceId : String} {endpoint : ResolvedDevice}
    (hentry : s.table.get? deviceId = some (endpoint, i)) (hdone : s.isDone i = true) :
    Vacant s deviceId := by
  rintro j worker hlive rfl
  have hsame := (h.live hlive).symm.trans hentry
  injection hsame with hsame
  injection hsame with _ hij
  exact isDone_iff.mp hdone worker (hij ▸ hlive)

theorem WorkersInv.emit (h : WorkersInv cfg s) (event : ObserverEvent) :
    WorkersInv cfg (s.emit event) :=
  ⟨h.entry, h.live, h.sound, h.requested, h.gathering, h.pending, h.keys⟩

/-! ### A worker takes a step -/

theorem Stepped.getElem? (h : Stepped s s' i worker') (hat : s.workers[i]? = some worker) (j : ℕ) :
    s'.workers[j]? = if i = j then some worker' else s.workers[j]? := by
  have hlt : i < s.workers.length := (List.getElem?_eq_some_iff.mp hat).1
  rw [h.workers, List.getElem?_set]
  by_cases hij : i = j
  · subst hij
    simp only [if_true, hlt]
  · simp only [hij, if_false]

/-- Who is at work after the step was at work before it, as the same task. -/
theorem Stepped.live (h : Stepped s s' i worker') (hat : s.workers[i]? = some worker)
    (hev : worker.Evolves worker') {j : ℕ} {other' : Worker} (hlive : LiveAt s' j other') :
    ∃ other, LiveAt s j other ∧ other'.deviceId = other.deviceId
      ∧ other'.endpoint = other.endpoint ∧ other'.cancelled = other.cancelled := by
  obtain ⟨hget, hundone⟩ := hlive
  rw [h.getElem? hat] at hget
  split at hget
  · rename_i hij
    injection hget with hget
    subst hget hij
    exact ⟨worker, ⟨hat, hev.live hundone⟩, hev.deviceId, hev.endpoint, hev.cancelled⟩
  · exact ⟨other', ⟨hget, hundone⟩, rfl, rfl, rfl⟩

theorem Stepped.workersInv (h : Stepped s s' i worker') (hat : s.workers[i]? = some worker)
    (hev : worker.Evolves worker') (hinv : WorkersInv cfg s) : WorkersInv cfg s' where
  entry := by
    intro deviceId endpoint j hentry
    rw [h.table] at hentry
    obtain ⟨other, hget, hid, hendpoint⟩ := hinv.entry hentry
    rw [h.getElem? hat]
    split
    · rename_i hij
      subst hij
      obtain rfl : worker = other := Option.some.inj (hat.symm.trans hget)
      exact ⟨worker', rfl, hev.deviceId.trans hid, hev.endpoint.trans hendpoint⟩
    · exact ⟨other, hget, hid, hendpoint⟩
  live := by
    intro j other' hlive
    obtain ⟨other, hother, hid, hendpoint, -⟩ := h.live hat hev hlive
    rw [h.table, hid, hendpoint]
    exact hinv.live hother
  sound := by
    intro j other' hget
    rw [h.getElem? hat] at hget
    split at hget
    · obtain rfl : worker' = other' := Option.some.inj hget
      exact hev.sound (hinv.sound hat)
    · exact hinv.sound hget
  requested := by
    intro j other' hlive hcancelled
    obtain ⟨other, hother, -, -, hsame⟩ := h.live hat hev hlive
    rw [h.reconciler]
    exact hinv.requested hother (hsame.symm.trans hcancelled)
  gathering := by
    intro resolved config j configs hreconciler
    rw [h.reconciler] at hreconciler
    rw [h.table]
    exact hinv.gathering hreconciler
  pending := by
    rw [h.reconciler]
    exact hinv.pending
  keys := by
    intro deviceId entry hentry
    rw [h.table] at hentry
    exact hinv.keys hentry

/-! ### The reconciler takes a step -/

def Worker.ask (worker : Worker) (asked : Bool) : Worker :=
  { worker with cancelled := worker.cancelled || asked }

/-- The workers and the table are what they were, but some were asked to end. -/
structure Asked (s s' : ObserverState) (asked : ℕ → Bool) : Prop where
  workers : ∀ j : ℕ, s'.workers[j]? = s.workers[j]?.map (fun worker => worker.ask (asked j))
  table : s'.table = s.table
  events : s'.events = s.events

theorem asked_none (s : ObserverState) (hworkers : s'.workers = s.workers)
    (htable : s'.table = s.table) (hevents : s'.events = s.events) :
    Asked s s' (fun _ => false) := by
  refine ⟨fun j => ?_, htable, hevents⟩
  simp only [hworkers, Worker.ask, Bool.or_false]
  cases s.workers[j]? <;> rfl

theorem asked_cancel (s : ObserverState) (i : ℕ) : Asked s (s.cancel i) (fun j => j = i) := by
  refine ⟨fun j => ?_, rfl, rfl⟩
  show (s.workers.modify i _)[j]? = _
  rw [List.getElem?_modify]
  by_cases hij : i = j
  · simp [hij, Worker.ask]
  · have hji : ¬ j = i := fun h => hij h.symm
    cases s.workers[j]? <;> simp [hij, hji, Worker.ask]

theorem Asked.trans {t : ObserverState} {asked asked' : ℕ → Bool} (h : Asked s s' asked)
    (h' : Asked s' t asked') : Asked s t (fun j => asked j || asked' j) := by
  refine ⟨fun j => ?_, h'.table.trans h.table, h'.events.trans h.events⟩
  rw [h'.workers, h.workers, Option.map_map]
  cases s.workers[j]? with
  | none => rfl
  | some worker => simp [Worker.ask, Bool.or_assoc]

theorem asked_stop (s : ObserverState) : ∃ asked, Asked s s.stop asked := by
  have hfold : ∀ (entries : List (String × (ResolvedDevice × ℕ))) (s : ObserverState),
      ∃ asked, Asked s (entries.foldl (fun s entry => s.cancel entry.2.2) s) asked := by
    intro entries
    induction entries with
    | nil => exact fun s => ⟨_, asked_none s rfl rfl rfl⟩
    | cons entry entries ih =>
        intro s
        obtain ⟨asked, hasked⟩ := ih (s.cancel entry.2.2)
        exact ⟨_, (asked_cancel s entry.2.2).trans hasked⟩
  obtain ⟨asked, hasked⟩ := hfold s.table.entries s
  exact ⟨asked, hasked.workers, hasked.table, hasked.events⟩

theorem Asked.live {asked : ℕ → Bool} (h : Asked s s' asked) {j : ℕ} {worker' : Worker}
    (hlive : LiveAt s' j worker') :
    ∃ worker, LiveAt s j worker ∧ worker' = worker.ask (asked j) := by
  obtain ⟨hget, hundone⟩ := hlive
  rw [h.workers, Option.map_eq_some_iff] at hget
  obtain ⟨worker, hworker, rfl⟩ := hget
  exact ⟨worker, ⟨hworker, hundone⟩, rfl⟩

theorem Asked.workersInv {asked : ℕ → Bool} (h : Asked s s' asked) (hinv : WorkersInv cfg s)
    (hrequested : ∀ j worker, LiveAt s j worker → (worker.cancelled || asked j) = true →
      s'.reconciler.Ends j)
    (hgathering : ∀ {resolved config i configs}, s'.reconciler = .gathering resolved config i configs →
      ∃ endpoint, s.table.get? config.id = some (endpoint, i))
    (hpending : ∀ config ∈ s'.reconciler.pending, config ∈ cfg.observed) : WorkersInv cfg s' where
  entry := by
    intro deviceId endpoint j hentry
    rw [h.table] at hentry
    obtain ⟨worker, hget, hid, hendpoint⟩ := hinv.entry hentry
    exact ⟨worker.ask (asked j), by rw [h.workers, hget]; rfl, hid, hendpoint⟩
  live := by
    intro j worker' hlive
    obtain ⟨worker, hworker, rfl⟩ := h.live hlive
    have hentry : s.table.get? worker.deviceId = some (worker.endpoint, j) := hinv.live hworker
    rw [h.table]
    exact hentry
  sound := by
    intro j worker' hget
    rw [h.workers, Option.map_eq_some_iff] at hget
    obtain ⟨worker, hworker, rfl⟩ := hget
    exact ⟨(hinv.sound hworker).one, (hinv.sound hworker).none⟩
  requested := by
    intro j worker' hlive hcancelled
    obtain ⟨worker, hworker, rfl⟩ := h.live hlive
    exact hrequested j worker hworker hcancelled
  gathering := by
    intro resolved config i configs hreconciler
    rw [h.table]
    exact hgathering hreconciler
  pending := hpending
  keys := by
    intro deviceId entry hentry
    rw [h.table] at hentry
    exact hinv.keys hentry

section Round

variable {resolved : Dict String ResolvedDevice} {config : DeviceConfig}
  {configs : List DeviceConfig} {endpoint : ResolvedDevice}

theorem spawn_getElem? {j : ℕ} : (s.spawn config endpoint).workers[j]? = some worker
    ↔ s.workers[j]? = some worker
      ∨ j = s.workers.length ∧ worker = { deviceId := config.id, endpoint } := by
  show (s.workers ++ [_])[j]? = some worker ↔ _
  rw [List.getElem?_append]
  split
  · rename_i hlt
    have hne : ¬ j = s.workers.length := by omega
    simp [hne]
  · rename_i hge
    have hnone : s.workers[j]? = none := List.getElem?_eq_none (by omega)
    rw [hnone, List.getElem?_singleton]
    split
    · rename_i hzero
      have hj : j = s.workers.length := by omega
      simp [hj, eq_comm]
    · rename_i hzero
      have hj : ¬ j = s.workers.length := by omega
      simp [hj]

/-- A device gets its worker when no other worker of it is left. -/
theorem WorkersInv.spawn (hinv : WorkersInv cfg s) (hvacant : Vacant s config.id)
    (hbinding : s.reconciler = .binding resolved configs) (hmem : config ∈ cfg.observed) :
    WorkersInv cfg (s.spawn config endpoint) where
  entry := by
    intro deviceId endpoint' j hentry
    simp only [spawn_getElem?]
    have hentry : (s.table.set config.id (endpoint, s.workers.length)).get? deviceId
      = some (endpoint', j) := hentry
    rw [Dict.get?_set] at hentry
    split at hentry
    · rename_i hid
      cases hentry
      exact ⟨_, Or.inr ⟨rfl, rfl⟩, hid, rfl⟩
    · obtain ⟨other, hget, hid, hendpoint⟩ := hinv.entry hentry
      exact ⟨other, Or.inl hget, hid, hendpoint⟩
  live := by
    rintro j other ⟨hget, hundone⟩
    show (s.table.set config.id (endpoint, s.workers.length)).get? other.deviceId = _
    rcases spawn_getElem?.mp hget with hget | ⟨rfl, rfl⟩
    · -- the device has no worker at work, so this place in the table is another's
      have hother : LiveAt s j other := ⟨hget, hundone⟩
      rw [Dict.get?_set_ne _ _ fun h => hvacant j other hother h.symm]
      exact hinv.live hother
    · exact Dict.get?_set_self ..
  sound := by
    intro j other hget
    rcases spawn_getElem?.mp hget with hget | ⟨-, rfl⟩
    · exact hinv.sound hget
    · exact ⟨Nat.zero_le 1, fun _ => rfl⟩
  requested := by
    rintro j other ⟨hget, hundone⟩ hcancelled
    rcases spawn_getElem?.mp hget with hget | ⟨-, rfl⟩
    · exact hinv.requested ⟨hget, hundone⟩ hcancelled
    · cases hcancelled
  gathering := by
    intro resolved' config' j configs' h
    have h : s.reconciler = .gathering resolved' config' j configs' := h
    rw [hbinding] at h
    cases h
  pending := hinv.pending
  keys := by
    intro deviceId entry hentry
    have hentry : (s.table.set config.id (endpoint, s.workers.length)).get? deviceId
      = some entry := hentry
    rw [Dict.get?_set] at hentry
    split at hentry
    · rename_i hid
      exact hid ▸ List.mem_map_of_mem hmem
    · exact hinv.keys hentry

/-- A device loses its place when no worker of it is left. -/
theorem WorkersInv.unmap (hinv : WorkersInv cfg s) (hvacant : Vacant s config.id)
    (hbinding : s.reconciler = .binding resolved configs) (occurredAt : Datetime) :
    WorkersInv cfg ({ s with table := s.table.erase config.id }.unmap config occurredAt) where
  entry := by
    intro deviceId endpoint' j hentry
    have hentry : (s.table.erase config.id).get? deviceId = some (endpoint', j) := hentry
    rw [Dict.get?_erase] at hentry
    split at hentry
    · cases hentry
    · exact hinv.entry hentry
  live := by
    intro j other hlive
    have hother : LiveAt s j other := hlive
    show (s.table.erase config.id).get? other.deviceId = _
    rw [Dict.get?_erase, if_neg fun h => hvacant j other hother h.symm]
    exact hinv.live hother
  sound := hinv.sound
  requested := hinv.requested
  gathering := by
    intro resolved' config' j configs' h
    have h : s.reconciler = .gathering resolved' config' j configs' := h
    rw [hbinding] at h
    cases h
  pending := hinv.pending
  keys := by
    intro deviceId entry hentry
    have hentry : (s.table.erase config.id).get? deviceId = some entry := hentry
    rw [Dict.get?_erase] at hentry
    split at hentry
    · cases hentry
    · exact hinv.keys hentry

/-- The reconciler goes on while no worker was asked to end. -/
theorem WorkersInv.go (hinv : WorkersInv cfg s) (reconciler : Reconciler)
    (hunasked : ∀ j worker, LiveAt s j worker → worker.cancelled = false)
    (hgathering : ∀ resolved config i configs, reconciler ≠ .gathering resolved config i configs)
    (hpending : ∀ config ∈ reconciler.pending, config ∈ cfg.observed) :
    WorkersInv cfg { s with reconciler } := by
  have hasked : Asked s { s with reconciler } (fun _ => false) := asked_none s rfl rfl rfl
  refine hasked.workersInv hinv ?_ (fun h => (hgathering _ _ _ _ h).elim) hpending
  intro j worker hlive hcancelled
  rw [Bool.or_false, hunasked j worker hlive] at hcancelled
  cases hcancelled

theorem WorkersInv.unasked (hinv : WorkersInv cfg s) (hends : ∀ j, ¬ s.reconciler.Ends j) :
    ∀ j worker, LiveAt s j worker → worker.cancelled = false := by
  intro j worker hlive
  cases hcancelled : worker.cancelled with
  | false => rfl
  | true => exact absurd (hinv.requested hlive hcancelled) (hends j)

theorem WorkersInv.stop (hinv : WorkersInv cfg s) : WorkersInv cfg s.stop := by
  obtain ⟨asked, hasked⟩ := asked_stop s
  exact hasked.workersInv hinv (fun _ _ _ _ => trivial) (fun h => by cases h)
    (fun _ h => by cases h)

theorem WorkersInv.bindOne (hinv : WorkersInv cfg s)
    (hbinding : s.reconciler = .binding resolved (config :: configs)) (occurredAt : Datetime) :
    WorkersInv cfg (s.bindOne resolved config configs occurredAt) := by
  have hall : ∀ other ∈ config :: configs, other ∈ cfg.observed := by
    have := hinv.pending
    rwa [hbinding] at this
  have hends : ∀ j, ¬ s.reconciler.Ends j := by
    intro j h
    rw [hbinding] at h
    exact h
  have hnext : WorkersInv cfg { s with reconciler := .binding resolved configs } :=
    hinv.go _ (hinv.unasked hends) (fun _ _ _ _ h => by cases h)
      (fun other hother => hall other (List.mem_cons_of_mem _ hother))
  have hgathering {current : ResolvedDevice} {j : ℕ}
      (hentry : s.table.get? config.id = some (current, j)) :
      WorkersInv cfg { s.cancel j with reconciler := .gathering resolved config j configs } := by
    have hasked : Asked s { s.cancel j with reconciler := .gathering resolved config j configs }
        (fun k => k = j) := ⟨(asked_cancel s j).workers, rfl, rfl⟩
    refine hasked.workersInv hinv ?_ ?_ hall
    · -- nobody was asked before, so who is asked now is the one that is awaited
      intro k worker hlive hcancelled
      rw [hinv.unasked hends k worker hlive, Bool.false_or, decide_eq_true_iff] at hcancelled
      exact hcancelled.symm
    · intro _ _ _ _ h
      cases h
      exact ⟨current, hentry⟩
  unfold ObserverState.bindOne
  dsimp only
  split
  · exact hnext.emit _
  · rename_i hentry
    exact hgathering hentry
  · rename_i hnone
    exact hnext.spawn (vacant_of_get?_none hnext hnone) rfl (hall config (List.mem_cons_self ..))
  · rename_i hentry
    split
    · exact hnext
    · exact hgathering hentry

theorem WorkersInv.bindGathered (hinv : WorkersInv cfg s)
    (hreconciler : s.reconciler = .gathering resolved config i configs)
    (hdone : s.isDone i = true) (occurredAt : Datetime) :
    WorkersInv cfg (s.bindGathered resolved config configs occurredAt) := by
  have hall : ∀ other ∈ config :: configs, other ∈ cfg.observed := by
    have := hinv.pending
    rwa [hreconciler] at this
  obtain ⟨current, hentry⟩ := hinv.gathering hreconciler
  have hvacant : Vacant s config.id := vacant_of_isDone hinv hentry hdone
  have hunasked : ∀ j worker, LiveAt s j worker → worker.cancelled = false := by
    intro j worker hlive
    cases hcancelled : worker.cancelled with
    | false => rfl
    | true =>
        -- the one it asked is done
        have hends := hinv.requested hlive hcancelled
        rw [hreconciler] at hends
        obtain rfl : i = j := hends
        exact absurd hlive (isDone_iff.mp hdone worker)
  have hnext : WorkersInv cfg { s with reconciler := .binding resolved configs } :=
    hinv.go _ hunasked (fun _ _ _ _ h => by cases h)
      (fun other hother => hall other (List.mem_cons_of_mem _ hother))
  unfold ObserverState.bindGathered
  dsimp only
  split
  · exact hnext.unmap hvacant rfl occurredAt
  · exact hnext.spawn hvacant rfl (hall config (List.mem_cons_self ..))

theorem WorkersInv.cleared (hinv : WorkersInv cfg s)
    (hdone : s.table.entries.all (fun entry => s.isDone entry.2.2) = true) :
    WorkersInv cfg { s with reconciler := .stopped, table := Dict.empty } := by
  have hnone : ∀ j worker, ¬ LiveAt s j worker := by
    -- who is at work is in the table, and everyone there is done
    intro j worker hlive
    have hmem := Dict.get?_eq_some_iff.mp (hinv.live hlive)
    exact isDone_iff.mp (List.all_eq_true.mp hdone _ hmem) worker hlive
  exact
    { entry := fun h => by cases h
      live := fun h => (hnone _ _ h).elim
      sound := hinv.sound
      requested := fun h => (hnone _ _ h).elim
      gathering := fun h => by cases h
      pending := fun _ h => by cases h
      keys := fun h => by cases h }

/-- **Whatever happens next, the table stays true to the workers.** -/
theorem workersInv_step (hinv : WorkersInv cfg s) (action : ObserverAction) :
    WorkersInv cfg (observerStep cfg s action) := by
  have hends {reconciler : Reconciler} (h : s.reconciler = reconciler)
      (hnone : ∀ j, ¬ reconciler.Ends j) : ∀ j worker, LiveAt s j worker → worker.cancelled = false :=
    hinv.unasked (h ▸ hnone)
  unfold observerStep
  split
  case h_1 hreconciler =>
      split
      · exact hinv.go _ (hends hreconciler fun _ h => h) (fun _ _ _ _ h => by cases h)
          (fun _ h => by cases h)
      · exact hinv
  case h_2 hreconciler =>
      have hunasked := hends hreconciler fun _ h => h
      split
      · split
        · exact hinv.go _ hunasked (fun _ _ _ _ h => by cases h) (fun _ h => h)
        · exact hinv.go _ hunasked (fun _ _ _ _ h => by cases h) (fun _ h => by cases h)
        · exact hinv.stop
      · exact hinv.go _ hunasked (fun _ _ _ _ h => by cases h) (fun _ h => h)
  case h_3 hreconciler =>
      exact hinv.go _ (hends hreconciler fun _ h => h) (fun _ _ _ _ h => by cases h)
        (fun _ h => by cases h)
  case h_4 hreconciler => exact hinv.bindOne hreconciler _
  case h_5 hreconciler =>
      split
      · rename_i hdone
        exact hinv.bindGathered hreconciler hdone _
      · exact hinv
  case h_6 | h_7 => exact hinv
  case h_8 => exact hinv.stop
  case h_9 =>
      split
      · rename_i hdone
        exact hinv.cleared hdone
      · exact hinv
  case h_10 =>
      split
      · rename_i hat
        obtain ⟨worker', hstepped, hevolves⟩ := workerStep_stepped hat _
        exact hstepped.workersInv hat hevolves hinv
      · exact hinv
  case h_11 =>
      split
      · exact ⟨hinv.entry, hinv.live, hinv.sound, hinv.requested, hinv.gathering, hinv.pending,
          hinv.keys⟩
      · exact hinv
  case h_12 =>
      exact ⟨hinv.entry, hinv.live, hinv.sound, hinv.requested, hinv.gathering, hinv.pending,
        hinv.keys⟩
  case h_13 => exact hinv

theorem workersInv_exec {actions : List ObserverAction} (hinv : WorkersInv cfg s) :
    WorkersInv cfg (Run.exec (observerStep cfg) s actions) := by
  have hstep : ∀ s action, WorkersInv cfg s → WorkersInv cfg (observerStep cfg s action) :=
    fun _ action h => workersInv_step h action
  exact Run.invariant_exec hstep hinv

end Round

end JebaoFlow
