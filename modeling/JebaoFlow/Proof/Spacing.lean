import Mathlib.Data.List.Chain
import JebaoFlow.Lib.Run
import JebaoFlow.Proof.Suppression

/-!
# The interval between commands

`_respect_command_interval` keeps the configured interval from the recorded end of
the last command. The record is written only when `send_raw_control` returns, and
connecting and disconnecting clear it. A frame that went out without leaving a
record is not waited for, and that is the only way two frames come too close.
-/

namespace JebaoFlow

variable {dev : LanJebaoDevice} {changes : Dict String Value} {io : WriteIo} {s s' : LanState}

/-! ## The event-loop clock -/

/-- The moments the control frames were handed over, newest first. -/
def LanState.starts (s : LanState) : List ℚ :=
  s.history.filterMap (fun event => match event with
    | .control _ _ startedAt => some startedAt
    | .status _ => none)

/-- `_minimum_command_interval`, in seconds. -/
def LanJebaoDevice.interval (dev : LanJebaoDevice) : ℚ := (dev.minimumCommandIntervalMs : ℚ) / 1000

/-- Any two consecutive control frames start at least the interval apart. -/
def Spaced (dev : LanJebaoDevice) (s : LanState) : Prop :=
  s.starts.IsChain (fun later earlier => earlier + dev.interval ≤ later)

/-- The call hands a frame over. -/
def HandsOver (dev : LanJebaoDevice) (s : LanState) : LanOp → Prop
  | .write call io => ∃ changes, call.changes dev = .ok changes ∧ Transmits dev changes io s
  | .connect _ _ | .disconnect _ | .getState _ => False

/-- The adapter with the latest reading of the clock it runs under. -/
structure TimedState where
  now : ℚ
  adapter : LanState := {}

/-- The last moment the call is known to have reached. -/
def LanOp.clock (now : ℚ) : LanOp → ℚ
  | .write _ io => io.finishedAt
  | .connect _ _ | .disconnect _ | .getState _ => now

def timedStep (dev : LanJebaoDevice) (t : TimedState) (op : LanOp) : TimedState where
  now := op.clock t.now
  adapter := lanStep dev t.adapter op

/--
The clock never goes back, and a sleep before a frame takes at least as long as it
was asked to. A reading the call never takes stands for the moment of the call.
-/
def Clocked (dev : LanJebaoDevice) (t : TimedState) : LanOp → Prop
  | .write call io => t.now ≤ io.checkedAt ∧ io.checkedAt ≤ io.startedAt
      ∧ io.startedAt ≤ io.finishedAt
      ∧ (HandsOver dev t.adapter (.write call io) →
          ∀ lastCommandAt, t.adapter.lastCommandAt = some lastCommandAt →
            0 < dev.interval - (io.checkedAt - lastCommandAt) →
              io.checkedAt + (dev.interval - (io.checkedAt - lastCommandAt)) ≤ io.startedAt)
  | .connect _ _ | .disconnect _ | .getState _ => True

theorem interval_pos (dev : LanJebaoDevice) : 0 < dev.interval := by
  have h : (100 : ℚ) ≤ dev.minimumCommandIntervalMs := by exact_mod_cast dev.interval_ge
  unfold LanJebaoDevice.interval
  linarith

/-! ## What a call does to the record -/

/-- Connecting and disconnecting clear the record, unless the session raises. -/
def LanOp.Clears : LanOp → Prop
  | .connect connected authenticated => connected = .ok () ∧ authenticated = .ok ()
  | .disconnect disconnected => disconnected = .ok ()
  | .getState _ | .write _ _ => False

/-- The newest frame left no record: nothing, or an older frame's end, is recorded. -/
def LanState.Unrecorded (s : LanState) : Prop :=
  ∃ newest, s.starts.head? = some newest
    ∧ ∀ lastCommandAt, s.lastCommandAt = some lastCommandAt → lastCommandAt < newest

inductive RecordOutcome (dev : LanJebaoDevice) (s : LanState) : LanOp → LanState → Prop
  /-- Nothing goes out and the record stays. -/
  | quiet {op : LanOp} {s' : LanState} (hnone : ¬ HandsOver dev s op)
      (hkept : ¬ op.Clears) (hstarts : s'.starts = s.starts)
      (hrecord : s'.lastCommandAt = s.lastCommandAt) : RecordOutcome dev s op s'
  | cleared {op : LanOp} {s' : LanState} (hnone : ¬ HandsOver dev s op) (hclears : op.Clears)
      (hstarts : s'.starts = s.starts) (hrecord : s'.lastCommandAt = none) :
      RecordOutcome dev s op s'
  /-- A frame goes out and `send_raw_control` raises. -/
  | raised {call : WriteCall} {io : WriteIo} {e : LanError} {s' : LanState}
      (hout : HandsOver dev s (.write call io)) (hsent : io.sent = .error e)
      (hstarts : s'.starts = io.startedAt :: s.starts)
      (hrecord : s'.lastCommandAt = s.lastCommandAt) : RecordOutcome dev s (.write call io) s'
  | recorded {call : WriteCall} {io : WriteIo} {s' : LanState}
      (hout : HandsOver dev s (.write call io)) (hsent : io.sent = .ok ())
      (hstarts : s'.starts = io.startedAt :: s.starts)
      (hrecord : s'.lastCommandAt = some io.finishedAt) : RecordOutcome dev s (.write call io) s'

theorem starts_statuses (statuses : List Bytes) (h : s'.history = statuses.map SessionEvent.status
    ++ s.history) : s'.starts = s.starts := by
  unfold LanState.starts
  rw [h]
  exact filterMap_statuses (fun _ => rfl) statuses s.history

/-- **Every call hands over at most one frame, and only `send_raw_control` records it.** -/
theorem lanStep_record (dev : LanJebaoDevice) (s : LanState) (op : LanOp) :
    RecordOutcome dev s op (lanStep dev s op) := by
  cases op with
  | connect connected authenticated =>
      cases connected with
      | error e => exact .quiet (fun h => h) (fun hc => nomatch hc.1) rfl rfl
      | ok u =>
          cases authenticated with
          | error e => exact .quiet (fun h => h) (fun hc => nomatch hc.2) rfl rfl
          | ok u => exact .cleared (fun h => h) ⟨rfl, rfl⟩ rfl rfl
  | disconnect disconnected =>
      cases disconnected with
      | error e => exact .quiet (fun h => h) (fun hc => nomatch hc) rfl rfl
      | ok u => exact .cleared (fun h => h) rfl rfl rfl
  | getState raw =>
      obtain ⟨statuses, hhistory, hrecord⟩ := readValues_history dev raw s
      exact .quiet (fun h => h) (fun hc => hc) (starts_statuses statuses hhistory) hrecord
  | write call io =>
      show RecordOutcome dev s _ (call.run dev io s).2
      rw [run_eq]
      cases hasked : call.changes dev with
      | error e =>
          refine .quiet ?_ (fun hc => hc) rfl rfl
          rintro ⟨changes, hchanges, _⟩
          rw [hasked] at hchanges
          cases hchanges
      | ok changes =>
          have hiff : HandsOver dev s (.write call io) ↔ Transmits dev changes io s :=
            asked_iff hasked
          -- what went out is read off what the call adds to the history
          have hhist := applyChanges_history dev changes io s
          show RecordOutcome dev s _ (dev.applyChanges changes io s).2
          generalize (dev.applyChanges changes io s).2 = s' at hhist ⊢
          cases hhist with
          | quiet hnot => exact .quiet (fun h => hnot (hiff.mp h)) (fun hc => hc) rfl rfl
          | raised hout _ hsent hhistory hrecord =>
              refine .raised (hiff.mpr hout) hsent ?_ hrecord
              unfold LanState.starts
              rw [hhistory]
              rfl
          | @recorded payload statuses _ hout _ hsent hhistory hrecord =>
              have hstarts := starts_statuses (s := { s with
                history := .control changes payload io.startedAt :: s.history }) statuses hhistory
              exact .recorded (hiff.mpr hout) hsent hstarts hrecord

/-! ## Which frames come too early -/

/-- A recorded command is waited for. -/
theorem start_after_record {t : TimedState} {call : WriteCall} {lastCommandAt : ℚ}
    (hclock : Clocked dev t (.write call io)) (hout : HandsOver dev t.adapter (.write call io))
    (hrecord : t.adapter.lastCommandAt = some lastCommandAt) :
    lastCommandAt + dev.interval ≤ io.startedAt := by
  obtain ⟨_, hstart, _, hslept⟩ := hclock
  by_cases hremaining : 0 < dev.interval - (io.checkedAt - lastCommandAt)
  · have := hslept hout lastCommandAt hrecord hremaining
    linarith
  · linarith

/-- The call takes the newest frame's record away, or hands a frame over that leaves none. -/
def LosesRecord (dev : LanJebaoDevice) (s : LanState) : LanOp → Prop
  | .write call io => HandsOver dev s (.write call io) ∧ io.sent ≠ .ok ()
  | op => op.Clears ∧ s.starts ≠ []

theorem LosesRecord.clears {op : LanOp} (hnone : ¬ HandsOver dev s op) :
    LosesRecord dev s op ↔ op.Clears ∧ s.starts ≠ [] := by
  cases op with
  | write call io => exact iff_of_false (fun h => hnone h.1) (fun h => h.1)
  | connect connected authenticated => exact Iff.rfl
  | disconnect disconnected => exact Iff.rfl
  | getState raw => exact Iff.rfl

/-- **Which calls leave the newest frame unrecorded.** -/
theorem unrecorded_step_iff {t : TimedState} {op : LanOp} (hclock : Clocked dev t op) :
    (timedStep dev t op).adapter.Unrecorded
      ↔ LosesRecord dev t.adapter op ∨ (t.adapter.Unrecorded ∧ ¬ HandsOver dev t.adapter op) := by
  show (lanStep dev t.adapter op).Unrecorded ↔ _
  cases lanStep_record dev t.adapter op with
  | quiet hnone hkept hstarts hrecord =>
      unfold LanState.Unrecorded
      rw [LosesRecord.clears hnone, hstarts, hrecord]
      exact ⟨fun h => Or.inr ⟨h, hnone⟩, fun h => h.elim (fun hc => absurd hc.1 hkept) And.left⟩
  | cleared hnone hclears hstarts hrecord =>
      unfold LanState.Unrecorded
      rw [LosesRecord.clears hnone, hstarts, hrecord]
      -- nothing is recorded any more, so all that matters is whether there was a frame
      constructor
      · rintro ⟨newest, hnewest, _⟩
        exact Or.inl ⟨hclears, fun hnil => by rw [hnil] at hnewest; cases hnewest⟩
      · rintro (⟨_, hne⟩ | ⟨⟨newest, hnewest, _⟩, _⟩)
        · exact ⟨t.adapter.starts.head hne, List.head?_eq_some_head hne, fun _ h => nomatch h⟩
        · exact ⟨newest, hnewest, fun _ h => nomatch h⟩
  | @raised call io e _ hout hsent hstarts hrecord =>
      refine iff_of_true ⟨io.startedAt, by rw [hstarts]; rfl, fun lastCommandAt hlast => ?_⟩
        (Or.inl ⟨hout, fun hok => by rw [hsent] at hok; cases hok⟩)
      -- what is recorded is an earlier command, and it was waited for
      have := start_after_record hclock hout (hrecord ▸ hlast)
      have := interval_pos dev
      linarith
  | @recorded call io _ hout hsent hstarts hrecord =>
      refine iff_of_false ?_ ?_
      · rintro ⟨newest, hnewest, hlast⟩
        rw [hstarts] at hnewest
        cases hnewest
        exact absurd (hlast _ hrecord) (not_lt.mpr hclock.2.2.1)
      · rintro (⟨_, hraised⟩ | ⟨_, hnone⟩)
        · exact hraised hsent
        · exact hnone hout

/-! ## Runs -/

/-- Behind a frame that is recorded, the next one keeps the interval. -/
theorem spaced_frame {t : TimedState} {call : WriteCall} (h : Spaced dev t.adapter)
    (hrecorded : ¬ t.adapter.Unrecorded) (hclock : Clocked dev t (.write call io))
    (hout : HandsOver dev t.adapter (.write call io))
    (hstarts : s'.starts = io.startedAt :: t.adapter.starts) : Spaced dev s' := by
  unfold Spaced
  rw [hstarts, List.isChain_cons]
  refine ⟨fun newest hnewest => ?_, h⟩
  by_contra hearly
  refine hrecorded ⟨newest, hnewest, fun lastCommandAt hrecord => ?_⟩
  -- a record at or after the newest frame would have been waited for
  have := start_after_record hclock hout hrecord
  by_contra hafter
  exact hearly (by linarith)

theorem spaced_step {t : TimedState} {op : LanOp} (h : Spaced dev t.adapter)
    (hrecorded : ¬ t.adapter.Unrecorded) (hclock : Clocked dev t op) :
    Spaced dev (timedStep dev t op).adapter := by
  have hkept : ∀ s' : LanState, s'.starts = t.adapter.starts → Spaced dev s' := by
    intro s' hstarts
    unfold Spaced
    rw [hstarts]
    exact h
  -- only a frame handed over makes a new pair
  show Spaced dev (lanStep dev t.adapter op)
  cases lanStep_record dev t.adapter op with
  | quiet _ _ hstarts _ => exact hkept _ hstarts
  | cleared _ _ hstarts _ => exact hkept _ hstarts
  | raised hout _ hstarts _ => exact spaced_frame h hrecorded hclock hout hstarts
  | recorded hout _ hstarts _ => exact spaced_frame h hrecorded hclock hout hstarts

/--
**While every record is kept, commands keep their interval.**

From a fresh adapter, under any clock that does not go back and whatever the session and the pump
answer: if no `send_raw_control` raises and no connection is made or ended behind a frame, then any
two consecutive control frames start at least the interval apart in every state of the run.
-/
theorem spaced_of_kept_records (dev : LanJebaoDevice) (start : ℚ) (ops : List LanOp)
    (hkept : Run.Each (timedStep dev)
      (fun t op => Clocked dev t op ∧ ¬ LosesRecord dev t.adapter op) ⟨start, {}⟩ ops) :
    Run.Always (timedStep dev) (fun t => Spaced dev t.adapter) ⟨start, {}⟩ ops := by
  -- next to the spacing, the invariant is that the newest frame is recorded
  have hstep : ∀ (t : TimedState) (op : LanOp),
      (Clocked dev t op ∧ ¬ LosesRecord dev t.adapter op) →
      (Spaced dev t.adapter ∧ ¬ t.adapter.Unrecorded) →
      Spaced dev (timedStep dev t op).adapter ∧ ¬ (timedStep dev t op).adapter.Unrecorded := by
    rintro t op ⟨hclock, hloses⟩ ⟨hspaced, hrecorded⟩
    refine ⟨spaced_step hspaced hrecorded hclock, ?_⟩
    rw [unrecorded_step_iff hclock]
    rintro (h | ⟨h, _⟩)
    · exact hloses h
    · exact hrecorded h
  refine Run.always_of_each hstep (fun _ h => h.1) hkept ⟨List.isChain_nil, ?_⟩
  rintro ⟨_, hnone, _⟩
  cases hnone

/-- A write of the pump handed over at a given moment. -/
def handedOver (startedAt : ℚ) (sent : Except LanError Unit) : WriteIo where
  checkedAt := 5
  waited := .ok ()
  startedAt := startedAt
  sent := sent
  finishedAt := startedAt
  read _ := .ok (proStatus 60)

/-- A command of the pump, verified, a look at it, and the next command right behind. -/
def promptPair : List LanOp :=
  [.connect (.ok ()) (.ok ()), .write (.setPower 60) (handedOver 5 (.ok ())),
    .getState (.ok (proStatus 60)), .write (.setPower 70) (handedOver 6 (.ok ()))]

theorem spaced_of_kept_records_proPump :
    Run.Always (timedStep proPump) (fun t => Spaced proPump t.adapter) ⟨5, {}⟩ promptPair := by
  have hrecord : (Run.exec (timedStep proPump) ⟨5, {}⟩ (promptPair.take 3)).adapter.lastCommandAt
      = some 5 := by decide +kernel
  refine spaced_of_kept_records proPump 5 promptPair ⟨⟨trivial, fun h => h.2 rfl⟩,
    ⟨⟨by decide +kernel, by decide +kernel, by decide +kernel, fun _ _ h => nomatch h⟩,
      fun h => h.2 rfl⟩, ⟨trivial, fun h => h.1⟩,
    ⟨⟨by decide +kernel, by decide +kernel, by decide +kernel, fun _ last hlast _ => ?_⟩,
      fun h => h.2 rfl⟩, trivial⟩
  cases hrecord.symm.trans hlast
  decide +kernel

/-- A command whose acknowledgement times out, retried at once. -/
def rapidRetry : List LanOp :=
  [.write (.setPower 60) (handedOver 5 (.error (.session "timed out"))),
    .write (.setPower 60) (handedOver 5 (.ok ()))]

/--
**A failed command is retried without waiting.** `send_raw_control` raises after
the frame went out, nothing is recorded, and the retry goes out in the same moment
although the pump's interval is a second.
-/
theorem rapid_retry_proPump :
    Run.Each (timedStep proPump) (Clocked proPump) ⟨5, {}⟩ rapidRetry
      ∧ (Run.exec (timedStep proPump) ⟨5, {}⟩ rapidRetry).adapter.starts = [5, 5]
      ∧ ¬ Run.Always (timedStep proPump) (fun t => Spaced proPump t.adapter) ⟨5, {}⟩ rapidRetry := by
  have hrecord : (timedStep proPump ⟨5, {}⟩ (.write (.setPower 60)
      (handedOver 5 (.error (.session "timed out"))))).adapter.lastCommandAt = none := by
    decide +kernel
  have hstarts : (Run.exec (timedStep proPump) ⟨5, {}⟩ rapidRetry).adapter.starts = [5, 5] := by
    decide +kernel
  refine ⟨⟨⟨by decide +kernel, by decide +kernel, by decide +kernel, fun _ _ h => nomatch h⟩,
    ⟨by decide +kernel, by decide +kernel, by decide +kernel, fun _ last hlast _ => ?_⟩, trivial⟩,
    hstarts, fun halways => ?_⟩
  · rw [hrecord] at hlast
    cases hlast
  · have hspaced : Spaced proPump (Run.exec (timedStep proPump) ⟨5, {}⟩ rapidRetry).adapter :=
      halways.last
    unfold Spaced at hspaced
    rw [hstarts, List.isChain_cons] at hspaced
    exact absurd (hspaced.1 5 rfl) (by decide +kernel)

end JebaoFlow
