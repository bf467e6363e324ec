import JebaoFlow.Devices.Lan

/-!
# What a write call of the adapter can do

`WriteOutcome` lists the ways `_apply_changes` can go: refused before anything
goes out, suppressed because every value is cached, handed over and not verified,
or handed over and verified. Only the last of them writes the cache.
-/

namespace JebaoFlow

variable {dev : LanJebaoDevice} {changes : Dict String Value} {io : WriteIo} {s s' : LanState}

/-! ## What a payload shows -/

/-- The payload decodes to a value equal to the requested one, for every change. -/
def LanJebaoDevice.Confirms (dev : LanJebaoDevice) (raw : Bytes) (changes : Dict String Value) :
    Prop :=
  ∃ values, dev.schema.decodeStatus raw = .ok values ∧ shows values changes = true

/-- Showing all changes is showing each of them. -/
theorem shows_iff {values changes : Dict String Value} :
    shows values changes = true ↔ ∀ name expected, changes.get? name = some expected →
      ∃ value, values.get? name = some value ∧ value.eq expected = true := by
  unfold shows
  rw [List.all_eq_true]
  constructor
  · intro h name expected hget
    exact (Option.any_eq_true ..).mp (h (name, expected) (Dict.get?_eq_some_iff.mp hget))
  · intro h e he
    exact (Option.any_eq_true ..).mpr (h e.1 e.2 (Dict.get?_eq_some_iff.mpr he))

theorem get?_single {name name' : String} {value value' : Value} :
    (single name value).get? name' = some value' ↔ name = name' ∧ value = value' := by
  unfold single
  rw [Dict.get?_set]
  by_cases h : name = name'
  · rw [if_pos h]
    exact ⟨fun hv => ⟨h, Option.some.inj hv⟩, fun hv => congrArg some hv.2⟩
  · rw [if_neg h]
    exact ⟨fun hv => (by cases hv), fun hv => absurd hv.1 h⟩

theorem shows_single {values : Dict String Value} {name : String} {expected : Value} :
    shows values (single name expected) = true
      ↔ ∃ value, values.get? name = some value ∧ value.eq expected = true := by
  rw [shows_iff]
  constructor
  · exact fun h => h name expected (get?_single.mpr ⟨rfl, rfl⟩)
  · intro h name' expected' hget
    obtain ⟨rfl, rfl⟩ := get?_single.mp hget
    exact h

/-! ## What the session saw -/

/-- The newest frame decides what it carries; the others decide the rest. -/
theorem lastCarried_frame {changes : Dict String Value} (h : s'.frames = changes :: s.frames)
    (name : String) : s'.lastCarried name = (changes.get? name).or (s.lastCarried name) := by
  unfold LanState.lastCarried
  rw [h, List.findSome?_cons]
  cases changes.get? name with
  | none => rfl
  | some value => rfl

/-! ## The read-back -/

/-- The payloads the read-back loop reads, in order. -/
def payloadsRead (dev : LanJebaoDevice) (changes : Dict String Value)
    (read : ℕ → Except LanError Bytes) : ℕ → ℕ → List Bytes
  | _, 0 => []
  | attempt, left + 1 =>
    match read attempt with
    | .error _ => []
    | .ok raw =>
      match dev.schema.decodeStatus raw with
      | .error _ => [raw]
      | .ok values =>
        if shows values changes then [raw]
        else raw :: payloadsRead dev changes read (attempt + 1) left

/-- The payloads of one write call: none when the frame itself failed. -/
def LanJebaoDevice.readPayloads (dev : LanJebaoDevice) (changes : Dict String Value)
    (io : WriteIo) : List Bytes :=
  match io.sent with
  | .error _ => []
  | .ok () => payloadsRead dev changes io.read 0 dev.readbackAttempts

/-- The last payload read shows the changes. -/
def LastConfirms (dev : LanJebaoDevice) (changes : Dict String Value) (payloads : List Bytes) :
    Prop :=
  ∃ raw, payloads.getLast? = some raw ∧ dev.Confirms raw changes

theorem lastConfirms_nil : ¬ LastConfirms dev changes [] := by
  rintro ⟨_, hlast, _⟩
  cases hlast

theorem lastConfirms_single {raw : Bytes} :
    LastConfirms dev changes [raw] ↔ dev.Confirms raw changes := by
  constructor
  · rintro ⟨last, hlast, hconf⟩
    rw [List.getLast?_singleton] at hlast
    cases hlast
    exact hconf
  · exact fun h => ⟨raw, rfl, h⟩

/-- What the read-back leaves, for the payloads it read. -/
inductive ReadBackOutcome (dev : LanJebaoDevice) (changes : Dict String Value)
    (payloads : List Bytes) (s : LanState) : Except LanError Unit → LanState → Prop
  | verified {s' : LanState} (hlast : LastConfirms dev changes payloads)
      (hframes : s'.frames = s.frames)
      (hcache : s'.lastSentValues
        = Dict.setAll Prod.fst Prod.snd changes.entries s.lastSentValues)
      (hstatus : s'.lastStatus = payloads.getLast?.or s.lastStatus) :
      ReadBackOutcome dev changes payloads s (.ok ()) s'
  | unverified {e : LanError} {s' : LanState} (hlast : ¬ LastConfirms dev changes payloads)
      (hframes : s'.frames = s.frames) (hcache : s'.lastSentValues = s.lastSentValues)
      (hstatus : s'.lastStatus = payloads.getLast?.or s.lastStatus) :
      ReadBackOutcome dev changes payloads s (.error e) s'

/-- One more payload that does not show the changes, in front. -/
theorem ReadBackOutcome.cons {raw : Bytes} {payloads : List Bytes}
    {r : Except LanError Unit}
    (h : ReadBackOutcome dev changes payloads { s with history := .status raw :: s.history } r s')
    (hraw : ¬ dev.Confirms raw changes) : ReadBackOutcome dev changes (raw :: payloads) s r s' := by
  have hor : payloads.getLast?.or (some raw) = (raw :: payloads).getLast?.or s.lastStatus := by
    rw [List.getLast?_cons]
    cases payloads.getLast? with
    | none => rfl
    | some last => rfl
  have hiff : LastConfirms dev changes (raw :: payloads) ↔ LastConfirms dev changes payloads := by
    unfold LastConfirms
    rw [List.getLast?_cons]
    cases payloads.getLast? with
    | none =>
        constructor
        · rintro ⟨_, heq, hconf⟩
          cases heq
          exact absurd hconf hraw
        · rintro ⟨_, heq, _⟩
          cases heq
    | some last => rfl
  cases h with
  | verified hlast hframes hcache hstatus =>
      exact .verified (hiff.mpr hlast) hframes hcache (hstatus.trans hor)
  | unverified hlast hframes hcache hstatus =>
      exact .unverified (fun hc => hlast (hiff.mp hc)) hframes hcache (hstatus.trans hor)

/-- One attempt: it fails, it shows the changes, or the rest of the loop decides. -/
theorem readBack_attempt {read : ℕ → Except LanError Bytes} {left attempt : ℕ}
    (hrest : ∀ raw values, dev.schema.decodeStatus raw = .ok values →
      shows values changes = false →
      ∃ r s', (if attempt + 1 = dev.readbackAttempts then
            (.error (.stateVerification dev.deviceId (LanJebaoDevice.mismatches values changes)),
              { s with history := .status raw :: s.history })
          else dev.readBack changes read (attempt + 1) left
            { s with history := .status raw :: s.history }) = (r, s')
        ∧ ReadBackOutcome dev changes (payloadsRead dev changes read (attempt + 1) left)
            { s with history := .status raw :: s.history } r s') :
    ∃ r s', dev.readBack changes read attempt (left + 1) s = (r, s')
      ∧ ReadBackOutcome dev changes (payloadsRead dev changes read attempt (left + 1)) s r s' := by
  rw [LanJebaoDevice.readBack, payloadsRead]
  unfold LanJebaoDevice.readValues
  cases read attempt with
  | error e => exact ⟨_, _, rfl, .unverified lastConfirms_nil rfl rfl rfl⟩
  | ok raw =>
      dsimp only
      cases hdec : dev.schema.decodeStatus raw with
      | error e =>
          refine ⟨_, _, rfl, .unverified (fun hlast => ?_) rfl rfl rfl⟩
          obtain ⟨values, hvalues, _⟩ := lastConfirms_single.mp hlast
          rw [hdec] at hvalues
          cases hvalues
      | ok values =>
          dsimp only
          by_cases hshow : shows values changes = true
          · rw [if_pos hshow, if_pos hshow]
            exact ⟨_, _, rfl, .verified (lastConfirms_single.mpr ⟨values, hdec, hshow⟩) rfl rfl rfl⟩
          · rw [if_neg hshow, if_neg hshow]
            rw [Bool.not_eq_true] at hshow
            -- the payload is read, decodes and shows something else: on to the next attempt
            obtain ⟨r, s', hrun, hout⟩ := hrest raw values hdec hshow
            refine ⟨r, s', hrun, hout.cons ?_⟩
            rintro ⟨values', hvalues', hshow'⟩
            rw [hdec] at hvalues'
            cases hvalues'
            exact Bool.noConfusion (hshow.symm.trans hshow')

/--
The read-back loop. The induction is on the attempts left; the last one raises,
so the loop never runs out silently.
-/
theorem readBack_outcome (dev : LanJebaoDevice) (changes : Dict String Value)
    (read : ℕ → Except LanError Bytes) : ∀ (left attempt : ℕ) (s : LanState),
    attempt + (left + 1) = dev.readbackAttempts →
    ∃ r s', dev.readBack changes read attempt (left + 1) s = (r, s')
      ∧ ReadBackOutcome dev changes (payloadsRead dev changes read attempt (left + 1)) s r s' := by
  intro left
  induction left with
  | zero =>
      intro attempt s hlast
      refine readBack_attempt (fun raw values _ _ => ?_)
      rw [if_pos hlast]
      exact ⟨_, _, rfl, .unverified lastConfirms_nil rfl rfl rfl⟩
  | succ left ih =>
      intro attempt s hlast
      refine readBack_attempt (fun raw values _ _ => ?_)
      rw [if_neg (by omega)]
      exact ih (attempt + 1) _ (by omega)

/-! ## The outcomes of a write -/

/-- The frame goes out: allowed, buildable, not suppressed, and the interval is over. -/
structure Transmits (dev : LanJebaoDevice) (changes : Dict String Value) (io : WriteIo)
    (s : LanState) : Prop where
  allowed : dev.allowHardwareWrites = true
  payload : ∃ payload, buildControlPayload dev.schema changes = .ok payload
  unsuppressed : shows s.lastSentValues changes = false
  interval : dev.respectCommandInterval io s = .ok ()

inductive WriteOutcome (dev : LanJebaoDevice) (changes : Dict String Value) (io : WriteIo)
    (s : LanState) : Except LanError Unit → LanState → Prop
  | refused {e : LanError} (hnot : ¬ Transmits dev changes io s) :
      WriteOutcome dev changes io s (.error e) s
  /-- Every requested value is cached: nothing goes out. -/
  | suppressed (hbuild : ∃ payload, buildControlPayload dev.schema changes = .ok payload)
      (hcached : shows s.lastSentValues changes = true) :
      WriteOutcome dev changes io s (.ok ()) s
  | unverified {e : LanError} {s' : LanState} (hout : Transmits dev changes io s)
      (hlast : ¬ LastConfirms dev changes (dev.readPayloads changes io))
      (hframes : s'.frames = changes :: s.frames) (hcache : s'.lastSentValues = s.lastSentValues)
      (hstatus : s'.lastStatus = (dev.readPayloads changes io).getLast?.or s.lastStatus) :
      WriteOutcome dev changes io s (.error e) s'
  | verified {s' : LanState} (hout : Transmits dev changes io s)
      (hlast : LastConfirms dev changes (dev.readPayloads changes io))
      (hframes : s'.frames = changes :: s.frames)
      (hcache : s'.lastSentValues
        = Dict.setAll Prod.fst Prod.snd changes.entries s.lastSentValues)
      (hstatus : s'.lastStatus = (dev.readPayloads changes io).getLast?.or s.lastStatus) :
      WriteOutcome dev changes io s (.ok ()) s'

/-- **Every write goes one of these ways.** -/
theorem applyChanges_outcome (dev : LanJebaoDevice) (changes : Dict String Value) (io : WriteIo)
    (s : LanState) : ∃ r s', dev.applyChanges changes io s = (r, s')
      ∧ WriteOutcome dev changes io s r s' := by
  unfold LanJebaoDevice.applyChanges
  by_cases hallow : dev.allowHardwareWrites = true
  · rw [if_neg (not_not.mpr hallow)]
    cases hbuild : buildControlPayload dev.schema changes with
    | error e =>
        refine ⟨_, _, rfl, .refused (fun h => ?_)⟩
        obtain ⟨payload, hpayload⟩ := h.payload
        rw [hbuild] at hpayload
        cases hpayload
    | ok payload =>
        dsimp only
        by_cases hcached : shows s.lastSentValues changes = true
        · rw [if_pos hcached]
          exact ⟨_, _, rfl, .suppressed ⟨payload, hbuild⟩ hcached⟩
        · rw [if_neg hcached]
          rw [Bool.not_eq_true] at hcached
          cases hwait : dev.respectCommandInterval io s with
          | error e =>
              refine ⟨_, _, rfl, .refused (fun h => ?_)⟩
              rw [h.interval] at hwait
              cases hwait
          | ok u =>
              have hout : Transmits dev changes io s := ⟨hallow, ⟨payload, hbuild⟩, hcached, hwait⟩
              dsimp only
              cases hsent : io.sent with
              | error e =>
                  -- the frame went out, but nothing was read
                  have hnone : dev.readPayloads changes io = [] := by
                    unfold LanJebaoDevice.readPayloads
                    rw [hsent]
                  refine ⟨_, _, rfl, .unverified hout (hnone ▸ lastConfirms_nil) rfl rfl ?_⟩
                  rw [hnone]
                  rfl
              | ok u =>
                  have hreads : dev.readPayloads changes io
                      = payloadsRead dev changes io.read 0 dev.readbackAttempts := by
                    unfold LanJebaoDevice.readPayloads
                    rw [hsent]
                  -- at least one attempt is configured, so the loop decides
                  obtain ⟨left, hleft⟩ : ∃ left, dev.readbackAttempts = left + 1 :=
                    Nat.exists_eq_succ_of_ne_zero (Nat.one_le_iff_ne_zero.mp dev.attempts_pos)
                  dsimp only
                  rw [hleft]
                  rw [hleft] at hreads
                  obtain ⟨r, s', hrun, hback⟩ := readBack_outcome dev changes io.read left 0 { s with
                      lastCommandAt := some io.finishedAt
                      history := .control changes payload io.startedAt :: s.history }
                    (by omega)
                  refine ⟨r, s', hrun, ?_⟩
                  rw [← hreads] at hback
                  cases hback with
                  | verified hlast hframes hcache hstatus =>
                      exact .verified hout hlast hframes hcache hstatus
                  | unverified hlast hframes hcache hstatus =>
                      exact .unverified hout hlast hframes hcache hstatus
  · rw [if_pos hallow]
    exact ⟨_, _, rfl, .refused (fun h => hallow h.allowed)⟩

/-! ## What a write leaves in the history -/

/-- Statuses read do not show in what is kept of the control frames. -/
theorem filterMap_statuses {α : Type} {f : SessionEvent → Option α}
    (hf : ∀ raw, f (.status raw) = none) (statuses : List Bytes) (history : List SessionEvent) :
    (statuses.map SessionEvent.status ++ history).filterMap f = history.filterMap f := by
  have hnone : f ∘ SessionEvent.status = fun _ => none := funext hf
  rw [List.filterMap_append, List.filterMap_map, hnone, List.filterMap_none, List.nil_append]

/-- Reading a status at most adds it to the history, and records no command. -/
theorem readValues_history (dev : LanJebaoDevice) (raw : Except LanError Bytes) (s : LanState) :
    ∃ statuses : List Bytes,
      (dev.readValues raw s).2.history = statuses.map SessionEvent.status ++ s.history
        ∧ (dev.readValues raw s).2.lastCommandAt = s.lastCommandAt := by
  unfold LanJebaoDevice.readValues
  cases raw with
  | error e => exact ⟨[], rfl, rfl⟩
  | ok raw =>
      dsimp only
      cases dev.schema.decodeStatus raw with
      | error e => exact ⟨[raw], rfl, rfl⟩
      | ok values => exact ⟨[raw], rfl, rfl⟩

/-- So does the whole read-back. -/
theorem readBack_history (dev : LanJebaoDevice) (changes : Dict String Value)
    (read : ℕ → Except LanError Bytes) : ∀ (left attempt : ℕ) (s : LanState),
    ∃ statuses : List Bytes, (dev.readBack changes read attempt left s).2.history
        = statuses.map SessionEvent.status ++ s.history
      ∧ (dev.readBack changes read attempt left s).2.lastCommandAt = s.lastCommandAt := by
  intro left
  induction left with
  | zero => exact fun _ _ => ⟨[], rfl, rfl⟩
  | succ left ih =>
      intro attempt s
      have hread := readValues_history dev (read attempt) s
      rw [LanJebaoDevice.readBack]
      generalize dev.readValues (read attempt) s = result at hread ⊢
      obtain ⟨r, s'⟩ := result
      cases r with
      | error e => exact hread
      | ok values =>
          dsimp only
          split
          · exact hread
          · split
            · exact hread
            · obtain ⟨statuses, hhistory, hrecord⟩ := hread
              obtain ⟨statuses', hhistory', hrecord'⟩ := ih (attempt + 1) s'
              refine ⟨statuses' ++ statuses, ?_, hrecord'.trans hrecord⟩
              rw [hhistory', hhistory, List.map_append, List.append_assoc]

/-- The frame in the history, below the statuses of its read-back, and the record of it. -/
inductive WriteHistory (dev : LanJebaoDevice) (changes : Dict String Value) (io : WriteIo)
    (s : LanState) : LanState → Prop
  | quiet (hnot : ¬ Transmits dev changes io s) : WriteHistory dev changes io s s
  /-- `send_raw_control` raises after the frame went out. -/
  | raised {payload : Bytes} {e : LanError} {s' : LanState} (hout : Transmits dev changes io s)
      (hbuild : buildControlPayload dev.schema changes = .ok payload) (hsent : io.sent = .error e)
      (hhistory : s'.history = .control changes payload io.startedAt :: s.history)
      (hrecord : s'.lastCommandAt = s.lastCommandAt) : WriteHistory dev changes io s s'
  | recorded {payload : Bytes} {statuses : List Bytes} {s' : LanState}
      (hout : Transmits dev changes io s)
      (hbuild : buildControlPayload dev.schema changes = .ok payload) (hsent : io.sent = .ok ())
      (hhistory : s'.history = statuses.map SessionEvent.status
        ++ .control changes payload io.startedAt :: s.history)
      (hrecord : s'.lastCommandAt = some io.finishedAt) : WriteHistory dev changes io s s'

theorem applyChanges_history (dev : LanJebaoDevice) (changes : Dict String Value) (io : WriteIo)
    (s : LanState) : WriteHistory dev changes io s (dev.applyChanges changes io s).2 := by
  unfold LanJebaoDevice.applyChanges
  by_cases hallow : dev.allowHardwareWrites = true
  · rw [if_neg (not_not.mpr hallow)]
    cases hbuild : buildControlPayload dev.schema changes with
    | error e =>
        refine .quiet (fun h => ?_)
        obtain ⟨payload, hpayload⟩ := h.payload
        rw [hbuild] at hpayload
        cases hpayload
    | ok payload =>
        dsimp only
        by_cases hcached : shows s.lastSentValues changes = true
        · rw [if_pos hcached]
          exact .quiet (fun h => Bool.noConfusion (hcached.symm.trans h.unsuppressed))
        · rw [if_neg hcached]
          rw [Bool.not_eq_true] at hcached
          cases hwait : dev.respectCommandInterval io s with
          | error e =>
              refine .quiet (fun h => ?_)
              rw [h.interval] at hwait
              cases hwait
          | ok u =>
              have hout : Transmits dev changes io s := ⟨hallow, ⟨payload, hbuild⟩, hcached, hwait⟩
              dsimp only
              cases hsent : io.sent with
              | error e => exact .raised hout hbuild hsent rfl rfl
              | ok u =>
                  obtain ⟨statuses, hhistory, hrecord⟩ := readBack_history dev changes io.read
                    dev.readbackAttempts 0 { s with
                      lastCommandAt := some io.finishedAt
                      history := .control changes payload io.startedAt :: s.history }
                  exact .recorded hout hbuild hsent hhistory hrecord
  · rw [if_pos hallow]
    exact .quiet (fun h => hallow h.allowed)

/-! ## The outcomes of a call -/

theorem run_eq (dev : LanJebaoDevice) (call : WriteCall) (io : WriteIo) (s : LanState) :
    call.run dev io s = dev.write (call.changes dev) io s := by
  cases call <;> rfl

/-- A call with an argument of the annotated type is one of the public calls. -/
theorem adapterStep_adapterOp (dev : LanJebaoDevice) (s : LanState) (op : LanOp) :
    adapterStep dev s op.adapterOp = lanStep dev s op := by
  cases op with
  | write call io =>
      have hchanges : call.request.changes dev = call.changes dev := by cases call <;> rfl
      show (dev.write (call.request.changes dev) io s).2 = (call.run dev io s).2
      rw [hchanges, run_eq]
  | connect connected authenticated => rfl
  | disconnect disconnected => rfl
  | getState raw => rfl

/-- What a call asks for is fixed by the call. -/
theorem asked_iff {call : WriteCall} {P : Dict String Value → Prop}
    (hasked : call.changes dev = .ok changes) :
    (∃ asked, call.changes dev = .ok asked ∧ P asked) ↔ P changes := by
  constructor
  · rintro ⟨asked, heq, h⟩
    cases hasked.symm.trans heq
    exact h
  · exact fun h => ⟨changes, hasked, h⟩

inductive LanOutcome (dev : LanJebaoDevice) (s : LanState) : LanOp → LanState → Prop
  /-- Connecting and disconnecting clear the cache, unless the session raises. -/
  | connected {connected authenticated : Except LanError Unit} {s' : LanState}
      (hframes : s'.frames = s.frames) (hstatus : s'.lastStatus = s.lastStatus)
      (hcache : s'.lastSentValues = s.lastSentValues ∨ s'.lastSentValues = Dict.empty) :
      LanOutcome dev s (.connect connected authenticated) s'
  | disconnected {disconnected : Except LanError Unit} {s' : LanState}
      (hframes : s'.frames = s.frames) (hstatus : s'.lastStatus = s.lastStatus)
      (hcache : s'.lastSentValues = s.lastSentValues ∨ s'.lastSentValues = Dict.empty) :
      LanOutcome dev s (.disconnect disconnected) s'
  | unread {e : LanError} : LanOutcome dev s (.getState (.error e)) s
  | read {raw : Bytes} {s' : LanState} (hframes : s'.frames = s.frames)
      (hcache : s'.lastSentValues = s.lastSentValues) (hstatus : s'.lastStatus = some raw) :
      LanOutcome dev s (.getState (.ok raw)) s'
  | unasked {call : WriteCall} {io : WriteIo} {e : LanError} (hasked : call.changes dev = .error e) :
      LanOutcome dev s (.write call io) s
  | wrote {call : WriteCall} {io : WriteIo} {changes : Dict String Value}
      {r : Except LanError Unit} {s' : LanState} (hasked : call.changes dev = .ok changes)
      (hout : WriteOutcome dev changes io s r s') : LanOutcome dev s (.write call io) s'

/-- **Every call goes one of these ways.** -/
theorem lanStep_outcome (dev : LanJebaoDevice) (s : LanState) (op : LanOp) :
    LanOutcome dev s op (lanStep dev s op) := by
  cases op with
  | connect connected authenticated =>
      cases connected with
      | error e => exact .connected rfl rfl (Or.inl rfl)
      | ok u =>
          cases authenticated with
          | error e => exact .connected rfl rfl (Or.inl rfl)
          | ok u => exact .connected rfl rfl (Or.inr rfl)
  | disconnect disconnected =>
      cases disconnected with
      | error e => exact .disconnected rfl rfl (Or.inl rfl)
      | ok u => exact .disconnected rfl rfl (Or.inr rfl)
  | getState raw =>
      cases raw with
      | error e => exact .unread
      | ok raw =>
          show LanOutcome dev s _ (dev.readValues (.ok raw) s).2
          unfold LanJebaoDevice.readValues
          dsimp only
          cases dev.schema.decodeStatus raw with
          | error e => exact .read rfl rfl rfl
          | ok values => exact .read rfl rfl rfl
  | write call io =>
      show LanOutcome dev s _ (call.run dev io s).2
      rw [run_eq]
      cases hasked : call.changes dev with
      | error e => exact .unasked hasked
      | ok changes =>
          obtain ⟨r, s', hrun, hout⟩ := applyChanges_outcome dev changes io s
          show LanOutcome dev s _ (dev.applyChanges changes io s).2
          rw [hrun]
          exact .wrote hasked hout

end JebaoFlow
