import JebaoFlow.Devices.Stack
import JebaoFlow.Proof.FrameCodec
import JebaoFlow.Proof.Pairing
import JebaoFlow.Proof.WriteSafety

/-!
# What a pump is told

On its session the adapter is what it is on any session, with the answers of this one. The session
adds the numbers: a control frame carries the next one, over all connections, and what is handed to
it is on the wire once or not at all.
-/

namespace JebaoFlow

open Bytes GizwitsSession Run

variable {session : GizwitsSession} {dev : LanJebaoDevice} {k : LanStack}

/-! ## The adapter in the stack -/

/-- The read-back loop looks at the attempts that are left. -/
theorem readBack_congr (changes : Dict String Value) {read read' : ℕ → Except LanError Bytes} :
    ∀ (left attempt : ℕ) (s : LanState), (∀ i, attempt ≤ i → read i = read' i) →
      dev.readBack changes read attempt left s = dev.readBack changes read' attempt left s := by
  intro left
  induction left with
  | zero => exact fun _ _ _ => rfl
  | succ left ih =>
      intro attempt s hsame
      rw [LanJebaoDevice.readBack, LanJebaoDevice.readBack, hsame attempt (le_refl _)]
      simp only [ih (attempt + 1) _ (fun i hi => hsame i (Nat.le_of_succ_le hi))]

/-- Reading back over the session is reading back what the session returns. -/
theorem readBack_refines (changes : Dict String Value) (io : ℕ → ReadBackIo) :
    ∀ (left attempt : ℕ) (k : LanStack), ∃ read : ℕ → Except LanError Bytes,
      (LanStack.readBack session dev changes io attempt left k).2.adapter
        = (dev.readBack changes read attempt left k.adapter).2 := by
  intro left
  induction left with
  | zero => exact fun _ _ => ⟨fun _ => .ok [], rfl⟩
  | succ left ih =>
      intro attempt k
      rw [LanStack.readBack]
      cases hdelayed : (io attempt).delayed with
      | error e => exact ⟨fun _ => .error e, rfl⟩
      | ok u =>
          dsimp only
          have hadapter : (k.lose session (io attempt).lost).adapter = k.adapter := by
            unfold LanStack.lose
            split <;> rfl
          generalize k.lose session (io attempt).lost = k' at hadapter ⊢
          rw [← hadapter]
          generalize hraw : k'.readRawState session (io attempt).exchange = raw
          generalize hcalled : k'.call session (.readRawState (io attempt).exchange) = called
          have hsame : called.adapter = k'.adapter := hcalled ▸ rfl
          rw [← hsame]
          obtain ⟨read, hread⟩ := ih (attempt + 1)
            { called with adapter := (dev.readValues raw called.adapter).2 }
          refine ⟨fun i => if i = attempt then raw else read i, ?_⟩
          rw [LanJebaoDevice.readBack, if_pos rfl]
          have hlater : ∀ i, attempt + 1 ≤ i → read i = (fun i => if i = attempt then raw else read i) i :=
            fun i hi => (if_neg (by omega)).symm
          rw [readBack_congr changes left (attempt + 1) _ hlater] at hread
          generalize dev.readValues raw called.adapter = result at hread ⊢
          obtain ⟨r, adapter⟩ := result
          cases r with
          | error e => rfl
          | ok values =>
              dsimp only at hread ⊢
              split
              · rfl
              · split
                · rfl
                · exact hread

theorem lose_adapter (k : LanStack) (lost : Bool) : (k.lose session lost).adapter = k.adapter := by
  unfold LanStack.lose
  split <;> rfl

/-- What the adapter gets to see of a write call, given what the session makes of it. -/
def ControlIo.answers (io : ControlIo) (sent : Except LanError Unit) (read : ℕ → Except LanError Bytes) :
    WriteIo where
  checkedAt := io.checkedAt
  waited := io.waited
  startedAt := io.startedAt
  sent
  finishedAt := io.finishedAt
  read

theorem applyChanges_refines (changes : Dict String Value) (io : ControlIo) (k : LanStack) :
    ∃ io', (LanStack.applyChanges session dev changes io k).2.adapter
      = (dev.applyChanges changes io' k.adapter).2 := by
  -- what is not asked for does not matter
  let refused := io.answers (.ok ()) (fun _ => .ok [])
  unfold LanStack.applyChanges LanJebaoDevice.applyChanges
  by_cases hallow : dev.allowHardwareWrites = true
  · simp only [if_neg (not_not.mpr hallow)]
    cases buildControlPayload dev.schema changes with
    | error e => exact ⟨refused, rfl⟩
    | ok payload =>
        dsimp only
        by_cases hshows : shows k.adapter.lastSentValues changes = true
        · exact ⟨refused, by rw [if_pos hshows, if_pos hshows]⟩
        · simp only [if_neg hshows]
          have hinterval : ∀ sent read, dev.respectCommandInterval (io.answers sent read) k.adapter
              = k.respectCommandInterval dev io := fun _ _ => rfl
          cases hwaited : k.respectCommandInterval dev io with
          | error e => exact ⟨refused, by rw [hinterval, hwaited]⟩
          | ok u =>
              dsimp only
              rw [lose_adapter]
              generalize hsent : (session.sendRawControl payload io.exchange
                (k.lose session io.lost).session).1 = sent
              generalize (k.lose session io.lost).call session (.sendRawControl payload io.exchange)
                = called
              cases sent with
              | error e =>
                  refine ⟨io.answers (.error e.raised) (fun _ => .ok []), ?_⟩
                  rw [hinterval, hwaited]
                  rfl
              | ok acknowledgement =>
                  obtain ⟨read, hread⟩ := @readBack_refines session dev changes io.readBack
                    dev.readbackAttempts 0 { called with adapter := {
                      k.adapter with
                      history := .control changes payload io.startedAt :: k.adapter.history
                      lastCommandAt := some io.finishedAt } }
                  refine ⟨io.answers (.ok ()) read, ?_⟩
                  rw [hinterval, hwaited]
                  exact hread
  · exact ⟨refused, by rw [if_pos hallow, if_pos hallow]⟩

/-- Making a state of the values leaves the adapter alone. -/
theorem getState_adapter (raw : Except LanError Bytes) (observedAt : Datetime) (s : LanState) :
    (dev.getState raw observedAt s).2 = (dev.readValues raw s).2 := by
  unfold LanJebaoDevice.getState
  cases raw with
  | error e => rfl
  | ok raw =>
      dsimp only
      generalize dev.readValues (.ok raw) s = result
      obtain ⟨r, s'⟩ := result
      cases r with
      | error e => rfl
      | ok values =>
          dsimp only
          cases dev.stateOf raw values observedAt <;> rfl

/-- **The adapter does on its session what it does on any.** -/
theorem stack_refines (session : GizwitsSession) (dev : LanJebaoDevice) (k : LanStack) (op : StackOp) :
    ∃ op', (stackStep session dev k op).adapter = adapterStep dev k.adapter op' := by
  cases op with
  | connect opened passcodeIo loginIo =>
      unfold stackStep LanStack.connect
      dsimp only
      split
      · exact ⟨.getState (.error (.session "")), rfl⟩
      · exact ⟨.connect (.ok ()) _, rfl⟩
  | disconnect => exact ⟨.disconnect (.ok ()), rfl⟩
  | lose => exact ⟨.getState (.error (.session "")), rfl⟩
  | getState io observedAt =>
      exact ⟨.getState (k.readRawState session io), getState_adapter _ observedAt k.adapter⟩
  | previewTarget target => exact ⟨.previewTarget target, rfl⟩
  | write request io =>
      unfold stackStep LanStack.write
      dsimp only
      cases hchanges : request.changes dev with
      | error e => exact ⟨.getState (.error (.session "")), rfl⟩
      | ok changes =>
          obtain ⟨io', hio⟩ := @applyChanges_refines session dev changes io k
          refine ⟨.write request io', hio.trans ?_⟩
          unfold adapterStep LanJebaoDevice.write
          dsimp only
          rw [hchanges]

/-! ## Requests -/

/-- The bytes are the frame, as `encode_frame` writes it. -/
def Encodes (frame : GizwitsFrame) (wire : Bytes) : Prop :=
  frame.encode defaultMaxFrameBodySize = .ok wire

/-- A control request; its number comes first. -/
def controlRequest (packed payload : Bytes) : GizwitsFrame where
  command := GizwitsCommand.serialControlRequest.value
  payload := packed ++ payload

/-- What the adapter has its session ask. -/
inductive Asks : GizwitsFrame → Prop
  | passcode : Asks { command := GizwitsCommand.passcodeRequest.value }
  | login {passcode payload : Bytes} (h : loginPayload passcode = .ok payload) :
      Asks { command := GizwitsCommand.loginRequest.value, payload }
  | status : Asks { command := GizwitsCommand.serialTransmitRequest.value, payload := [readStateAction] }
  | control {number : ℕ} {packed payload : Bytes} (h : toBytesBig 4 number = .ok packed) :
      Asks (controlRequest packed payload)

/-- The number and the payload of a control request. -/
def GizwitsFrame.control (frame : GizwitsFrame) : Option (ℕ × Bytes) :=
  if frame.command = GizwitsCommand.serialControlRequest.value then
    some (fromBytesBig (frame.payload.take 4), frame.payload.drop 4)
  else none

/-- The requests are numbered from one on, and from zero again behind the last number. -/
def Numbered (controls : List (ℕ × Bytes)) : Prop :=
  controls.map Prod.fst = (List.range controls.length).map (fun i => (i + 1) % 2 ^ 32)

theorem exchangeWrites_cases (command : GizwitsCommand) (payload : Bytes) (s : SessionState) :
    exchangeWrites command payload s = []
      ∨ ∃ wire, exchangeWrites command payload s = [wire]
        ∧ Encodes { command := command.value, payload } wire := by
  unfold exchangeWrites
  cases s.connection with
  | none => exact Or.inl rfl
  | some connection =>
      dsimp only
      cases hwire : encodeFrame command.value payload with
      | error e => exact Or.inl rfl
      | ok wire => exact Or.inr ⟨wire, rfl, hwire⟩

/-! ## What a call leaves alone -/

theorem exchange_sequence (command expected : GizwitsCommand) (payload : Bytes) (io : ExchangeIo)
    (s : SessionState) :
    (session.exchange command payload expected io s).2.sequence = s.sequence := by
  unfold GizwitsSession.exchange
  split
  · rfl
  · split
    · rfl
    · dsimp only
      split
      · rfl
      · split <;> rfl

/-- The calls of the adapter that control nothing; it sends no heartbeats. -/
def SessionOp.Plain : SessionOp → Prop
  | .connect _ | .disconnect | .lose | .authenticate _ _ | .readRawState _ => True
  | .heartbeat _ | .sendRawControl _ _ => False

theorem sessionStep_sequence {op : SessionOp} (h : op.Plain) (s : SessionState) :
    (sessionStep session s op).sequence = s.sequence := by
  cases op with
  | connect opened =>
      unfold sessionStep SessionState.connect
      dsimp only
      split
      · rfl
      · split <;> rfl
  | disconnect | lose => rfl
  | authenticate passcodeIo loginIo =>
      unfold sessionStep GizwitsSession.authenticate
      have hfirst := @exchange_sequence session .passcodeRequest .passcodeResponse [] passcodeIo s
      dsimp only
      split
      · rename_i hexchange
        rw [hexchange] at hfirst
        exact hfirst
      · rename_i s₁ hexchange
        rw [hexchange] at hfirst
        split
        · exact hfirst
        · split
          · exact hfirst
          · rename_i payload _
            have hsecond := @exchange_sequence session .loginRequest .loginResponse payload loginIo s₁
            split
            · rename_i hlogin
              rw [hlogin] at hsecond
              exact hsecond.trans hfirst
            · rename_i hlogin
              rw [hlogin] at hsecond
              split
              · exact hsecond.trans hfirst
              · exact hsecond.trans hfirst
  | readRawState io =>
      unfold sessionStep GizwitsSession.readRawState
      have hexchanged := @exchange_sequence session .serialTransmitRequest .serialTransmitResponse
        [readStateAction] io s
      dsimp only
      split
      · rfl
      · split
        · rename_i hexchange
          rw [hexchange] at hexchanged
          exact hexchanged
        · rename_i hexchange
          rw [hexchange] at hexchanged
          exact hexchanged
  | heartbeat | sendRawControl => exact h.elim

/-- Requests that control nothing, encoded. -/
def PlainRequests (wires : List Bytes) : Prop :=
  ∃ frames : List GizwitsFrame, List.Forall₂ Encodes frames wires
    ∧ ∀ frame ∈ frames, Asks frame ∧ frame.control = none

theorem plainRequests_nil : PlainRequests [] :=
  ⟨[], .nil, fun _ h => absurd h List.not_mem_nil⟩

theorem PlainRequests.append {wires wires' : List Bytes} (h : PlainRequests wires)
    (h' : PlainRequests wires') : PlainRequests (wires ++ wires') := by
  obtain ⟨frames, hencoded, hasks⟩ := h
  obtain ⟨frames', hencoded', hasks'⟩ := h'
  refine ⟨frames ++ frames', List.rel_append hencoded hencoded', fun frame hframe => ?_⟩
  exact (List.mem_append.mp hframe).elim (hasks frame) (hasks' frame)

theorem plainRequests_exchange {command : GizwitsCommand} {payload : Bytes}
    (hasks : Asks { command := command.value, payload })
    (hcommand : command.value ≠ GizwitsCommand.serialControlRequest.value) (s : SessionState) :
    PlainRequests (exchangeWrites command payload s) := by
  rcases exchangeWrites_cases command payload s with hnone | ⟨wire, hone, hencodes⟩
  · rw [hnone]
    exact plainRequests_nil
  · rw [hone]
    refine ⟨[_], .cons hencodes .nil, fun frame hframe => ?_⟩
    rw [List.mem_singleton.mp hframe]
    exact ⟨hasks, if_neg hcommand⟩

/-- **Every call but a control call writes the requests it is there for.** -/
theorem writes_plain {op : SessionOp} (h : op.Plain) (s : SessionState) :
    PlainRequests (session.writes s op) := by
  cases op with
  | connect | disconnect | lose => exact plainRequests_nil
  | authenticate passcodeIo loginIo =>
      refine (plainRequests_exchange .passcode (by decide) s).append ?_
      split
      · exact plainRequests_nil
      · split
        · exact plainRequests_nil
        · split
          · exact plainRequests_nil
          · rename_i hpayload
            exact plainRequests_exchange (.login hpayload) (by decide) _
  | readRawState io =>
      unfold GizwitsSession.writes
      dsimp only
      split
      · exact plainRequests_nil
      · exact plainRequests_exchange .status (by decide) s
  | heartbeat | sendRawControl => exact h.elim

/-! ## Control requests -/

/-- A frame with so short a payload is always written. -/
theorem exchangeWrites_short {command : GizwitsCommand} {payload : Bytes} {s : SessionState}
    (hconnected : ∃ connection, s.connection = some connection) (hshort : payload.length < 2 ^ 17) :
    ∃ wire, exchangeWrites command payload s = [wire]
      ∧ Encodes { command := command.value, payload } wire := by
  obtain ⟨connection, hconnection⟩ := hconnected
  have hcommand : 0 ≤ (command.value : ℤ) ∧ (command.value : ℤ) ≤ 0xFFFF := by
    cases command <;> decide
  have hencodable : Encodable command.value payload 0 defaultMaxFrameBodySize :=
    ⟨hcommand, by decide, by unfold defaultMaxFrameBodySize; omega, by omega⟩
  obtain ⟨wire, hwire⟩ := encodeFrame_returns_iff.mpr hencodable
  refine ⟨wire, ?_, hwire⟩
  unfold exchangeWrites
  rw [hconnection]
  dsimp only
  rw [hwire]
  rfl

/-- A control call sends its payload under the next number, or does not touch the session. -/
theorem sendRawControl_writes (controlPayload : Bytes) (io : ExchangeIo) (s : SessionState)
    (hshort : controlPayload.length < 2 ^ 16) :
    (session.writes s (.sendRawControl controlPayload io) = []
        ∧ (sessionStep session s (.sendRawControl controlPayload io)).sequence = s.sequence)
      ∨ ∃ packed wire, toBytesBig 4 ((s.sequence + 1) % 2 ^ 32) = .ok packed
        ∧ session.writes s (.sendRawControl controlPayload io) = [wire]
        ∧ Encodes (controlRequest packed controlPayload) wire
        ∧ (sessionStep session s (.sendRawControl controlPayload io)).sequence
          = (s.sequence + 1) % 2 ^ 32 := by
  unfold GizwitsSession.writes sendRawControlWrites sessionStep GizwitsSession.sendRawControl
  dsimp only
  cases hauth : requireAuthenticated s with
  | error e => exact Or.inl ⟨rfl, rfl⟩
  | ok u =>
      dsimp only
      by_cases haction : controlPayload.head? ≠ some controlAction
      · rw [if_pos haction, if_pos haction]
        exact Or.inl ⟨rfl, rfl⟩
      · rw [if_neg haction, if_neg haction]
        obtain ⟨packed, hpacked⟩ := toBytesBig_ok_iff.mpr
          (show (s.sequence + 1) % 2 ^ 32 < 256 ^ 4 from Nat.mod_lt _ (by decide))
        rw [hpacked]
        have hlength : (packed ++ controlPayload).length < 2 ^ 17 := by
          rw [List.length_append, toBytesBig_length hpacked]
          omega
        obtain ⟨wire, hwrites, hencodes⟩ :=
          @exchangeWrites_short .serialControlRequest _ s (requireAuthenticated_ok.mp hauth).2 hlength
        refine Or.inr ⟨packed, wire, rfl, hwrites, hencodes, ?_⟩
        have hsequence := @exchange_sequence session .serialControlRequest .serialControlResponse
          (packed ++ controlPayload) io { s with sequence := (s.sequence + 1) % 2 ^ 32 }
        dsimp only at hsequence ⊢
        split
        · rename_i hexchange
          rw [hexchange] at hsequence
          exact hsequence
        · rename_i hexchange
          rw [hexchange] at hsequence
          exact hsequence

/-! ## Runs -/

/--
What was written is a list of requests, with the control requests numbered over all connections, and
the payloads of these are among those handed over, each once.
-/
structure WireInv (k : LanStack) : Prop where
  requests : ∃ frames : List GizwitsFrame, List.Forall₂ Encodes frames k.written
    ∧ (∀ frame ∈ frames, Asks frame)
    ∧ Numbered (frames.filterMap GizwitsFrame.control)
    ∧ k.session.sequence = (frames.filterMap GizwitsFrame.control).length % 2 ^ 32
    ∧ ((frames.filterMap GizwitsFrame.control).map Prod.snd).Sublist k.adapter.payloads.reverse

theorem wireInv_init : WireInv {} :=
  ⟨[], .nil, fun _ h => absurd h List.not_mem_nil, rfl, rfl, .slnil⟩

/-- What the adapter notes down beside its payloads is not on the wire. -/
theorem WireInv.congr (h : WireInv k) {adapter : LanState}
    (hpayloads : adapter.payloads = k.adapter.payloads) : WireInv { k with adapter } := by
  obtain ⟨frames, hencoded, hasks, hnumbered, hsequence, hsent⟩ := h.requests
  exact ⟨frames, hencoded, hasks, hnumbered, hsequence, hpayloads ▸ hsent⟩

theorem WireInv.call (h : WireInv k) {op : SessionOp} (hplain : op.Plain) :
    WireInv (k.call session op) := by
  obtain ⟨frames, hencoded, hasks, hnumbered, hsequence, hsent⟩ := h.requests
  obtain ⟨new, hnew, hplainly⟩ := @writes_plain session op hplain k.session
  have hnone : new.filterMap GizwitsFrame.control = [] :=
    List.filterMap_eq_nil_iff.mpr fun frame hframe => (hplainly frame hframe).2
  refine ⟨frames ++ new, List.rel_append hencoded hnew, fun frame hframe => ?_, ?_⟩
  · exact (List.mem_append.mp hframe).elim (hasks frame) (fun h => (hplainly frame h).1)
  · rw [List.filterMap_append, hnone, List.append_nil]
    exact ⟨hnumbered, (sessionStep_sequence hplain k.session).trans hsequence, hsent⟩

theorem WireInv.lose (h : WireInv k) (lost : Bool) : WireInv (k.lose session lost) := by
  unfold LanStack.lose
  split
  · exact h.call trivial
  · exact h

theorem readValues_payloads (raw : Except LanError Bytes) (s : LanState) :
    (dev.readValues raw s).2.payloads = s.payloads := by
  obtain ⟨statuses, hhistory, _⟩ := readValues_history dev raw s
  exact payloads_statuses statuses hhistory

theorem WireInv.readBack (changes : Dict String Value) (io : ℕ → ReadBackIo) :
    ∀ (left attempt : ℕ) {k : LanStack}, WireInv k →
      WireInv (LanStack.readBack session dev changes io attempt left k).2 := by
  intro left
  induction left with
  | zero => exact fun _ _ h => h
  | succ left ih =>
      intro attempt k h
      rw [LanStack.readBack]
      cases (io attempt).delayed with
      | error e => exact h
      | ok u =>
          dsimp only
          have hread : WireInv ((k.lose session (io attempt).lost).call session
              (.readRawState (io attempt).exchange)) := (h.lose (io attempt).lost).call trivial
          generalize (k.lose session (io attempt).lost).readRawState session (io attempt).exchange = raw
          generalize (k.lose session (io attempt).lost).call session
            (.readRawState (io attempt).exchange) = called at hread ⊢
          have hkept := hread.congr (@readValues_payloads dev raw called.adapter)
          generalize dev.readValues raw called.adapter = result at hkept ⊢
          obtain ⟨r, adapter⟩ := result
          cases r with
          | error e => exact hkept
          | ok values =>
              dsimp only
              split
              · exact hkept.congr rfl
              · split
                · exact hkept
                · exact ih (attempt + 1) hkept

/-- The payloads of the products are short. -/
theorem known_short : ∀ schema ∈ knownSchemas,
    schema.attributeFlagsSize + schema.attributeValuesSize < 2 ^ 15 := by
  decide

theorem HandedOverSafely.short {payload : Bytes} (h : HandedOverSafely dev payload) :
    payload.length < 2 ^ 16 := by
  obtain ⟨_, _, flags, values, hflags, hvalues, rfl, _⟩ := h
  have := known_short dev.schema dev.known
  rw [List.length_append, List.length_cons, List.length_reverse, hflags, hvalues]
  omega

/-- **A payload that is handed over gets the next number.** -/
theorem WireInv.control (h : WireInv k) {payload : Bytes} {io : ExchangeIo} {handed : LanState}
    (hshort : payload.length < 2 ^ 16) (hhanded : handed.payloads = payload :: k.adapter.payloads) :
    WireInv { k.call session (.sendRawControl payload io) with adapter := handed } := by
  obtain ⟨frames, hencoded, hasks, hnumbered, hsequence, hsent⟩ := h.requests
  have hreverse : handed.payloads.reverse = k.adapter.payloads.reverse ++ [payload] := by
    rw [hhanded, List.reverse_cons]
  rcases @sendRawControl_writes session payload io k.session hshort with
    ⟨hnothing, hsame⟩ | ⟨packed, wire, hpacked, hwrites, hencodes, hnext⟩
  · refine ⟨frames, ?_, hasks, hnumbered, hsame.trans hsequence, ?_⟩
    · show List.Forall₂ Encodes frames (k.written ++ _)
      rw [hnothing, List.append_nil]
      exact hencoded
    · show List.Sublist _ handed.payloads.reverse
      rw [hreverse]
      exact hsent.trans (List.sublist_append_left ..)
  · have hlength := toBytesBig_length hpacked
    have hcontrol : (controlRequest packed payload).control
        = some ((k.session.sequence + 1) % 2 ^ 32, payload) := by
      unfold GizwitsFrame.control controlRequest
      rw [if_pos rfl]
      dsimp only
      rw [List.take_left' hlength, List.drop_left' hlength, fromBytesBig_toBytesBig hpacked]
    have hcontrols : (frames ++ [controlRequest packed payload]).filterMap GizwitsFrame.control
        = frames.filterMap GizwitsFrame.control ++ [((k.session.sequence + 1) % 2 ^ 32, payload)] := by
      rw [List.filterMap_append, List.filterMap_cons_some hcontrol, List.filterMap_nil]
    refine ⟨frames ++ [controlRequest packed payload], ?_, ?_, ?_⟩
    · show List.Forall₂ Encodes _ (k.written ++ _)
      rw [hwrites]
      exact List.rel_append hencoded (.cons hencodes .nil)
    · intro frame hframe
      rcases List.mem_append.mp hframe with hold | hnew
      · exact hasks frame hold
      · rw [List.mem_singleton.mp hnew]
        exact .control hpacked
    · rw [hcontrols]
      refine ⟨?_, ?_, ?_⟩
      · unfold Numbered
        rw [List.map_append, hnumbered, List.length_append, List.length_singleton, List.range_succ,
          List.map_append, List.map_singleton, List.map_singleton, hsequence, Nat.mod_add_mod]
      · show _ = _
        rw [List.length_append, List.length_singleton]
        exact hnext.trans (by rw [hsequence, Nat.mod_add_mod])
      · show List.Sublist _ handed.payloads.reverse
        rw [hreverse, List.map_append]
        exact hsent.append (List.Sublist.refl _)

theorem WireInv.applyChanges (h : WireInv k) {changes : Dict String Value} (io : ControlIo)
    (hallowed : EachEntry (AllowedEntry dev) changes) :
    WireInv (LanStack.applyChanges session dev changes io k).2 := by
  unfold LanStack.applyChanges
  by_cases hallow : dev.allowHardwareWrites = true
  · rw [if_neg (not_not.mpr hallow)]
    cases hbuild : buildControlPayload dev.schema changes with
    | error e => exact h
    | ok payload =>
        have hsafe : HandedOverSafely dev payload :=
          ⟨hallow, (buildControlPayload_ok hbuild).1, safePayload_of_allowed hallowed hbuild⟩
        dsimp only
        split
        · exact h
        · split
          · exact h
          · have hhanded := @WireInv.control session _ (h.lose io.lost) payload io.exchange
              { (k.lose session io.lost).adapter with
                history := .control changes payload io.startedAt
                  :: (k.lose session io.lost).adapter.history } hsafe.short rfl
            split
            · exact hhanded
            · exact WireInv.readBack changes io.readBack dev.readbackAttempts 0 (hhanded.congr rfl)
  · rw [if_pos hallow]
    exact h

/-- **Every call keeps what is on the wire in order.** -/
theorem wireInv_step (session : GizwitsSession) (dev : LanJebaoDevice) (op : StackOp) (h : WireInv k) :
    WireInv (stackStep session dev k op) := by
  cases op with
  | connect opened passcodeIo loginIo =>
      have hconnected : WireInv (k.call session (.connect opened)) := h.call trivial
      unfold stackStep LanStack.connect
      dsimp only
      split
      · exact hconnected
      · have hlogged : WireInv ((k.call session (.connect opened)).call session
            (.authenticate passcodeIo loginIo)) := hconnected.call trivial
        refine hlogged.congr ?_
        unfold LanState.connect
        dsimp only
        split <;> rfl
  | disconnect =>
      have hclosed : WireInv (k.call session .disconnect) := h.call trivial
      exact hclosed.congr rfl
  | lose => exact h.call trivial
  | getState io observedAt =>
      have hread : WireInv (k.call session (.readRawState io)) := h.call trivial
      refine hread.congr (k := k.call session (.readRawState io)) ?_
      show (dev.getState (k.readRawState session io) observedAt k.adapter).2.payloads = k.adapter.payloads
      rw [getState_adapter]
      exact readValues_payloads _ _
  | previewTarget target => exact h
  | write request io =>
      unfold stackStep LanStack.write
      dsimp only
      split
      · exact h
      · rename_i hasked
        exact h.applyChanges io (request_allowed hasked)

/-- Whatever is handed over on a session is safe. -/
theorem stack_safe (session : GizwitsSession) (dev : LanJebaoDevice) (op : StackOp)
    (h : ∀ payload ∈ k.adapter.payloads, HandedOverSafely dev payload) :
    ∀ payload ∈ (stackStep session dev k op).adapter.payloads, HandedOverSafely dev payload := by
  obtain ⟨op', hop⟩ := stack_refines session dev k op
  obtain ⟨new, hpayloads, _, hnew⟩ := adapterStep_payloads dev k.adapter op'
  rw [hop, hpayloads]
  intro payload hpayload
  exact (List.mem_append.mp hpayload).elim (hnew payload) (h payload)

/-- What the adapter may ask of its pump. -/
def Request (dev : LanJebaoDevice) (frame : GizwitsFrame) : Prop :=
  Asks frame ∧ ∀ number payload, frame.control = some (number, payload) → HandedOverSafely dev payload

theorem mapM_of_encodes {frames : List GizwitsFrame} {wires : List Bytes}
    (h : List.Forall₂ Encodes frames wires) :
    frames.mapM (fun frame => frame.encode defaultMaxFrameBodySize) = .ok wires := by
  induction h with
  | nil => rfl
  | @cons frame wire frames wires hencodes _ ih =>
      unfold Encodes at hencodes
      rw [List.mapM_cons, hencodes, ih]
      rfl

/--
**What goes over the wire is what the adapter asks for, in order and once.**

Take any run of an adapter of a known product on its session, with anything happening on the network:
late and broken replies, lost connections, cancellations, reconnects. Everything that was written is
frames that are read back one by one. Each is a passcode request, a login, a status read or a
control request; a control request is safe, and is only there if writes are allowed. Control
requests carry consecutive numbers over all connections, and their payloads are among those the
adapter handed over, in that order and none of them twice.
-/
theorem wire_carries_requests (session : GizwitsSession) (dev : LanJebaoDevice) (ops : List StackOp) :
    let k := exec (stackStep session dev) {} ops
    ∃ frames : List GizwitsFrame, List.Forall₂ Encodes frames k.written
      ∧ (∀ rest eof, readFrames defaultMaxFrameBodySize frames.length ⟨k.written.flatten ++ rest, eof⟩
        = (.ok frames, ⟨rest, eof⟩))
      ∧ (∀ frame ∈ frames, Request dev frame)
      ∧ Numbered (frames.filterMap GizwitsFrame.control)
      ∧ ((frames.filterMap GizwitsFrame.control).map Prod.snd).Sublist k.adapter.payloads.reverse := by
  intro k
  have hinv : WireInv k := invariant_exec (fun _ op h => wireInv_step session dev op h) wireInv_init
  have hsafe : ∀ payload ∈ k.adapter.payloads, HandedOverSafely dev payload :=
    @invariant_exec _ _ _ (fun k : LanStack => ∀ payload ∈ k.adapter.payloads, HandedOverSafely dev payload)
      (fun _ op h => stack_safe session dev op h) ops {} (fun _ h => absurd h List.not_mem_nil)
  obtain ⟨frames, hencoded, hasks, hnumbered, _, hsent⟩ := hinv.requests
  refine ⟨frames, hencoded, fun rest eof => readFrames_encode (mapM_of_encodes hencoded) rest eof,
    fun frame hframe => ⟨hasks frame hframe, fun number payload hcontrol => ?_⟩, hnumbered, hsent⟩
  have hpayload : payload ∈ (frames.filterMap GizwitsFrame.control).map Prod.snd :=
    List.mem_map.mpr ⟨(number, payload), List.mem_filterMap.mpr ⟨frame, hframe, hcontrol⟩, rfl⟩
  exact hsafe payload (List.mem_reverse.mp (hsent.subset hpayload))

end JebaoFlow
