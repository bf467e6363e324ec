import Mathlib.Tactic.FinCases
import JebaoFlow.Lib.Run
import JebaoFlow.Protocol.Session
import JebaoFlow.Proof.Framing

/-!
# Replies and their requests

The device answers in order, so the reply to a request is the last one of the
stream: an exchange that returned it has read the stream to its end. A call that
times out leaves its reply behind, whole or in part, and the next call of the same
kind takes it for its own. Nothing else lets a call return a reply that is not
the device's answer to its own request.
-/

namespace JebaoFlow

open Bytes GizwitsSession

variable {session : GizwitsSession} {s s' : SessionState} {io : ExchangeIo}

/-! ## What has arrived -/

/-- The reply bytes of the connection that no call has read yet. -/
def SessionState.unread (s : SessionState) : Bytes :=
  match s.connection with
  | some connection => connection.reader.buffer ++ connection.inFlight
  | none => []

/-- What an exchange gets to read. -/
def Connection.arrived (connection : Connection) (io : ExchangeIo) : StreamReader :=
  { connection.reader with
    buffer := connection.reader.buffer ++ (connection.inFlight ++ io.reply).take io.delivered }

/-- How many bytes of its own reply that includes. -/
def Connection.ownArrived (connection : Connection) (io : ExchangeIo) : ℕ :=
  (io.reply.take (io.delivered - connection.inFlight.length)).length

/--
Reading frames off what has arrived, an acceptable frame of the expected command
turns up before the reading comes to the start of the own reply.
-/
def Intercepted (expected : ℕ) (accepts : GizwitsFrame → Prop) (own : ℕ) : ℕ → StreamReader → Prop
  | 0, _ => False
  | left + 1, reader => reader.buffer.length ≠ own ∧ ∃ frame rest,
      readFrame reader = (.ok frame, rest)
        ∧ ((frame.command = expected ∧ accepts frame)
          ∨ (frame.command ≠ expected ∧ Intercepted expected accepts own left rest))

/-- What is read ends up as the frame, whatever the call makes of it. -/
theorem Intercepted.awaitFrame {expected own : ℕ} {accepts : GizwitsFrame → Prop} :
    ∀ {left : ℕ} {reader : StreamReader}, Intercepted expected accepts own left reader →
      ∃ frame rest, awaitFrame expected left reader = (.ok (some frame), rest) ∧ accepts frame := by
  intro left
  induction left with
  | zero => exact fun h => h.elim
  | succ left ih =>
      rintro reader ⟨_, frame, rest, hread, ⟨hcommand, haccepts⟩ | ⟨hcommand, hlater⟩⟩
      · refine ⟨frame, rest, ?_, haccepts⟩
        rw [GizwitsSession.awaitFrame, hread]
        exact if_pos hcommand
      · obtain ⟨frame', rest', hawait, haccepts⟩ := ih hlater
        refine ⟨frame', rest', ?_, haccepts⟩
        rw [GizwitsSession.awaitFrame, hread]
        exact (if_neg hcommand).trans hawait

/-- Of the frame that is read, only whether the call accepts it matters. -/
theorem Intercepted.iff_accepts {expected own : ℕ} {accepts : GizwitsFrame → Prop}
    {frame : GizwitsFrame} : ∀ {left : ℕ} {reader rest : StreamReader},
      GizwitsSession.awaitFrame expected left reader = (.ok (some frame), rest) →
        (Intercepted expected accepts own left reader
          ↔ accepts frame ∧ Intercepted expected (fun _ => True) own left reader) := by
  intro left
  induction left with
  | zero => exact fun h => nomatch h
  | succ left ih =>
      intro reader rest h
      rw [GizwitsSession.awaitFrame] at h
      split at h
      · cases h
      · rename_i found rest' hread
        rw [Intercepted, Intercepted, hread]
        by_cases hcommand : found.command = expected
        · rw [if_pos hcommand] at h
          cases h
          constructor
          · rintro ⟨hne, _, _, heq, ⟨_, haccepts⟩ | ⟨hother, _⟩⟩ <;> cases heq
            · exact ⟨haccepts, hne, _, _, rfl, Or.inl ⟨hcommand, trivial⟩⟩
            · exact absurd hcommand hother
          · rintro ⟨haccepts, hne, _⟩
            exact ⟨hne, _, _, rfl, Or.inl ⟨hcommand, haccepts⟩⟩
        · rw [if_neg hcommand] at h
          have hiff := ih h
          constructor
          · rintro ⟨hne, _, _, heq, ⟨hself, _⟩ | ⟨_, hlater⟩⟩ <;> cases heq
            · exact absurd hself hcommand
            · obtain ⟨haccepts, hlater⟩ := hiff.mp hlater
              exact ⟨haccepts, hne, _, _, rfl, Or.inr ⟨hcommand, hlater⟩⟩
          · rintro ⟨haccepts, hne, _, _, heq, ⟨hself, _⟩ | ⟨_, hlater⟩⟩ <;> cases heq
            · exact absurd hself hcommand
            · exact ⟨hne, _, _, rfl, Or.inr ⟨hcommand, hiff.mpr ⟨haccepts, hlater⟩⟩⟩

/-! ## The own reply -/

/-- How the bytes that have arrived stand to the own reply, which ends the stream. -/
structure Arrival (reply arrived tail : Bytes) (own : ℕ) : Prop where
  stream : ∃ earlier, arrived ++ tail = earlier ++ reply
  last : ∃ front, arrived = front ++ reply.take own
  own_le : own ≤ reply.length
  whole : own = reply.length ↔ tail = []

theorem Connection.arrival (connection : Connection) {io : ExchangeIo} (hne : io.reply ≠ []) :
    Arrival io.reply (connection.arrived io).buffer
      ((connection.inFlight ++ io.reply).drop io.delivered) (connection.ownArrived io) := by
  have hpos : 0 < io.reply.length := List.length_pos_iff.mpr hne
  have hown : connection.ownArrived io
      = min (io.delivered - connection.inFlight.length) io.reply.length := List.length_take
  refine ⟨⟨connection.reader.buffer ++ connection.inFlight, ?_⟩, ?_, by omega, ?_⟩
  · show connection.reader.buffer ++ (connection.inFlight ++ io.reply).take io.delivered ++ _ = _
    rw [List.append_assoc, List.take_append_drop, List.append_assoc]
  · refine ⟨connection.reader.buffer ++ connection.inFlight.take io.delivered, ?_⟩
    have htake : io.reply.take (connection.ownArrived io)
        = io.reply.take (io.delivered - connection.inFlight.length) := by
      rw [hown, Nat.min_comm, List.take_eq_take_min (i := io.delivered - connection.inFlight.length),
        Nat.min_comm]
    show connection.reader.buffer ++ (connection.inFlight ++ io.reply).take io.delivered = _
    rw [htake, List.take_append, List.append_assoc]
  · rw [hown, List.drop_eq_nil_iff, List.length_append]
    omega

/-- Read from its start, the own reply is taken whole or not at all. -/
theorem own_frame {reply : Bytes} {own : ℕ} {eof : Bool} {ownFrame frame : GizwitsFrame}
    {rest : StreamReader} (hreply : decodeFrame reply = .ok ownFrame)
    (hread : readFrame ⟨reply.take own, eof⟩ = (.ok frame, rest)) :
    frame = ownFrame ∧ rest.buffer = [] ∧ reply.length ≤ own := by
  -- a frame stays the same with more behind it, so it is the whole reply
  have hmore := readFrame_append hread (reply.drop own)
  have hwhole := readFrame_wire hreply [] eof
  rw [List.append_nil] at hwhole
  dsimp only at hmore
  rw [List.take_append_drop, hwhole] at hmore
  obtain ⟨hframe, hrest⟩ := Prod.mk.inj hmore
  have hnil := congrArg StreamReader.buffer hrest
  obtain ⟨hbuffer, hdrop⟩ := List.append_eq_nil_iff.mp hnil.symm
  exact ⟨(Except.ok.inj hframe).symm, hbuffer, List.drop_eq_nil_iff.mp hdrop⟩

/--
**A frame is the own reply, read to the end of the stream, exactly when no other
frame of its command stood in front.** By induction on the frames read; what is
left to read stays the end of what arrived.
-/
theorem awaitFrame_own_iff {expected own : ℕ} {reply arrived tail : Bytes}
    {ownFrame frame : GizwitsFrame} (hreply : decodeFrame reply = .ok ownFrame)
    (hcommand : ownFrame.command = expected) (harrival : Arrival reply arrived tail own) :
    ∀ {left : ℕ} {reader rest : StreamReader}, (∃ front, arrived = front ++ reader.buffer) →
      awaitFrame expected left reader = (.ok (some frame), rest) →
        ((frame = ownFrame ∧ rest.buffer ++ tail = [])
          ↔ ¬ Intercepted expected (fun _ => True) own left reader) := by
  intro left
  induction left with
  | zero => exact fun _ h => nomatch h
  | succ left ih =>
      rintro reader rest ⟨front, hfront⟩ h
      rw [GizwitsSession.awaitFrame] at h
      split at h
      · cases h
      rename_i found rest' hread
      obtain ⟨wire, hdecode, hbuffer, _⟩ := readFrame_ok hread
      by_cases hstart : reader.buffer.length = own
      · -- the reading has come to the own reply
        obtain ⟨front', hlast⟩ := harrival.last
        have htaken : (reply.take own).length = own := by
          rw [List.length_take]
          exact Nat.min_eq_left harrival.own_le
        have hsame : reader.buffer = reply.take own :=
          (List.append_inj' (hfront.symm.trans hlast) (by omega)).2
        have hread' : readFrame ⟨reply.take own, reader.eof⟩ = (.ok found, rest') := by
          rw [← hsame]
          exact hread
        obtain ⟨rfl, hnil, hall⟩ := own_frame hreply hread'
        rw [if_pos hcommand] at h
        cases h
        refine iff_of_true ⟨rfl, ?_⟩ (fun hint => hint.1 hstart)
        rw [hnil, harrival.whole.mp (le_antisymm harrival.own_le hall)]
        rfl
      · by_cases hfound : found.command = expected
        · rw [if_pos hfound] at h
          cases h
          -- an earlier frame of the command is taken for the reply
          refine iff_of_false ?_ (fun hnot => hnot ⟨hstart, _, _, hread, Or.inl ⟨hfound, trivial⟩⟩)
          rintro ⟨rfl, hend⟩
          obtain ⟨hrest, htail⟩ := List.append_eq_nil_iff.mp hend
          -- a frame that ends with the stream starts where the own reply does
          obtain ⟨earlier, hstream⟩ := harrival.stream
          rw [htail, List.append_nil, hfront, hbuffer, hrest, List.append_nil] at hstream
          have hlength := wire_length_unique hdecode hreply hstream
          have hown := harrival.whole.mpr htail
          rw [hbuffer, hrest, List.append_nil] at hstart
          omega
        · rw [if_neg hfound] at h
          -- a frame of another command is skipped, and the rest is read the same way
          have hrest : ∃ front, arrived = front ++ rest'.buffer :=
            ⟨front ++ wire, by rw [hfront, hbuffer, List.append_assoc]⟩
          rw [ih hrest h]
          refine not_congr ⟨fun hint => ⟨hstart, _, _, hread, Or.inr ⟨hfound, hint⟩⟩, ?_⟩
          rintro ⟨_, _, _, heq, ⟨hself, _⟩ | ⟨_, hlater⟩⟩ <;> rw [hread] at heq <;> cases heq
          · exact absurd hself hfound
          · exact hlater

/-! ## Exchanges -/

/-- One frame of the command: what the device answers a request with. -/
def IsReply (command : GizwitsCommand) (reply : Bytes) : Prop :=
  ∃ frame, decodeFrame reply = .ok frame ∧ frame.command = command.value

/-- The frame is the device's answer to this request, and with it the stream is read. -/
def OwnReply (io : ExchangeIo) (frame : GizwitsFrame) (s' : SessionState) : Prop :=
  decodeFrame io.reply = .ok frame ∧ s'.unread = []

/--
The request goes out, and in what earlier exchanges left unread an acceptable
frame of the expected command is read in time, in front of the own reply.
-/
def Overtaken (session : GizwitsSession) (command : GizwitsCommand) (payload : Bytes)
    (expected : GizwitsCommand) (accepts : GizwitsFrame → Prop) (io : ExchangeIo)
    (s : SessionState) : Prop :=
  ∃ connection wire, s.connection = some connection
    ∧ encodeFrame command.value payload = .ok wire ∧ io.drained = true
    ∧ Intercepted expected.value accepts (connection.ownArrived io) (session.maxSkippedFrames + 1)
        (connection.arrived io)

section Exchange

variable {command expected : GizwitsCommand} {payload : Bytes} {frame : GizwitsFrame}

/-- An exchange that returns wrote its request in time and came to a frame. -/
theorem exchange_ok_iff : session.exchange command payload expected io s = (.ok frame, s')
    ↔ ∃ connection wire rest, s.connection = some connection
      ∧ encodeFrame command.value payload = .ok wire ∧ io.drained = true
      ∧ awaitFrame expected.value (session.maxSkippedFrames + 1) (connection.arrived io)
        = (.ok (some frame), rest)
      ∧ s' = { s with connection := some ⟨rest,
          (connection.inFlight ++ io.reply).drop io.delivered⟩ } := by
  unfold GizwitsSession.exchange
  constructor
  · intro h
    split at h
    · cases h
    rename_i connection hconnection
    split at h
    · cases h
    rename_i wire hwire
    dsimp only at h
    split at h
    · cases h
    rename_i hdrained
    split at h
    · rename_i found rest hawait
      cases h
      exact ⟨connection, wire, rest, hconnection, hwire, not_not.mp hdrained, hawait, rfl⟩
    · cases h
    · cases h
    · cases h
  · rintro ⟨connection, wire, rest, hconnection, hwire, hdrained, hawait, rfl⟩
    rw [hconnection]
    dsimp only
    rw [hwire]
    dsimp only
    rw [if_neg (not_not.mpr hdrained)]
    unfold Connection.arrived at hawait
    rw [hawait]

/-- Whether the exchange is overtaken depends on its frame only through the call's checks. -/
theorem overtaken_iff_accepts {accepts : GizwitsFrame → Prop}
    (h : session.exchange command payload expected io s = (.ok frame, s')) :
    Overtaken session command payload expected accepts io s
      ↔ accepts frame ∧ Overtaken session command payload expected (fun _ => True) io s := by
  obtain ⟨connection, wire, rest, hconnection, hwire, hdrained, hawait, _⟩ := exchange_ok_iff.mp h
  unfold Overtaken
  rw [hconnection]
  constructor
  · rintro ⟨_, _, heq, hwire, hdrained, hint⟩
    cases heq
    obtain ⟨haccepts, hint⟩ := (Intercepted.iff_accepts hawait).mp hint
    exact ⟨haccepts, connection, wire, rfl, by assumption, hdrained, hint⟩
  · rintro ⟨haccepts, _, _, heq, hwire, hdrained, hint⟩
    cases heq
    exact ⟨connection, _, rfl, hwire, hdrained, (Intercepted.iff_accepts hawait).mpr ⟨haccepts, hint⟩⟩

/-- An exchange that is overtaken returns a frame that the call accepts. -/
theorem Overtaken.exchange {accepts : GizwitsFrame → Prop}
    (h : Overtaken session command payload expected accepts io s) :
    ∃ frame s', session.exchange command payload expected io s = (.ok frame, s')
      ∧ accepts frame := by
  obtain ⟨connection, wire, hconnection, hwire, hdrained, hint⟩ := h
  obtain ⟨frame, rest, hawait, haccepts⟩ := hint.awaitFrame
  exact ⟨frame, _, exchange_ok_iff.mpr
    ⟨connection, wire, rest, hconnection, hwire, hdrained, hawait, rfl⟩, haccepts⟩

/-- **An exchange returns the own reply exactly when it is not overtaken.** -/
theorem ownReply_iff (hreply : IsReply expected io.reply)
    (h : session.exchange command payload expected io s = (.ok frame, s')) :
    OwnReply io frame s' ↔ ¬ Overtaken session command payload expected (fun _ => True) io s := by
  obtain ⟨connection, wire, rest, hconnection, hwire, hdrained, hawait, rfl⟩ := exchange_ok_iff.mp h
  obtain ⟨ownFrame, hown, hcommand⟩ := hreply
  have hne : io.reply ≠ [] := by
    rintro hnil
    rw [hnil] at hown
    cases hown
  have hiff := awaitFrame_own_iff hown hcommand (connection.arrival hne) ⟨[], rfl⟩ hawait
  have hover : Overtaken session command payload expected (fun _ => True) io s
      ↔ Intercepted expected.value (fun _ => True) (connection.ownArrived io)
        (session.maxSkippedFrames + 1) (connection.arrived io) := by
    constructor
    · rintro ⟨_, _, heq, _, _, hint⟩
      cases hconnection.symm.trans heq
      exact hint
    · exact fun hint => ⟨connection, wire, hconnection, hwire, hdrained, hint⟩
  rw [hover, ← hiff]
  unfold OwnReply
  rw [hown]
  exact and_congr_left
    (fun _ => ⟨fun heq => (Except.ok.inj heq).symm, fun heq => congrArg Except.ok heq.symm⟩)

/-- Nothing unread: nothing can come in front of the own reply. -/
theorem not_overtaken_of_settled {accepts : GizwitsFrame → Prop} (hsettled : s.unread = []) :
    ¬ Overtaken session command payload expected accepts io s := by
  rintro ⟨connection, wire, hconnection, _, _, hint⟩
  unfold SessionState.unread at hsettled
  rw [hconnection] at hsettled
  obtain ⟨hbuffer, hflight⟩ := List.append_eq_nil_iff.mp hsettled
  refine hint.1 ?_
  unfold Connection.arrived Connection.ownArrived
  rw [hbuffer, hflight]
  rfl

end Exchange

/-! ## Calls -/

/-- The device answers every request of the call with one frame of the right command. -/
def SessionOp.Answered : SessionOp → Prop
  | .authenticate passcodeIo loginIo =>
      IsReply .passcodeResponse passcodeIo.reply ∧ IsReply .loginResponse loginIo.reply
  | .heartbeat io => IsReply .heartbeatResponse io.reply
  | .readRawState io => IsReply .serialTransmitResponse io.reply
  | .sendRawControl _ io => IsReply .serialControlResponse io.reply
  | .connect _ | .disconnect | .lose => True

/-- If the call returns, what it returns is read off the device's replies to its own requests. -/
def Paired (session : GizwitsSession) (s : SessionState) : SessionOp → Prop
  | .authenticate passcodeIo loginIo => ∀ passcode s',
      session.authenticate passcodeIo loginIo s = (.ok passcode, s') →
        ∃ first s₁ payload second s₂,
          session.exchange .passcodeRequest [] .passcodeResponse passcodeIo s = (.ok first, s₁)
            ∧ OwnReply passcodeIo first s₁ ∧ passcodeOf first = .ok passcode
            ∧ session.exchange .loginRequest payload .loginResponse loginIo s₁ = (.ok second, s₂)
            ∧ OwnReply loginIo second s₂
  | .heartbeat io => ∀ u s', session.heartbeat io s = (.ok u, s') →
      ∃ frame, session.exchange .heartbeatRequest [] .heartbeatResponse io s = (.ok frame, s')
        ∧ OwnReply io frame s'
  | .readRawState io => ∀ raw s', session.readRawState io s = (.ok raw, s') →
      ∃ frame, session.exchange .serialTransmitRequest [readStateAction] .serialTransmitResponse io s
          = (.ok frame, s') ∧ OwnReply io frame s' ∧ statusOf frame = .ok raw
  | .sendRawControl controlPayload io => ∀ acknowledgement s',
      session.sendRawControl controlPayload io s = (.ok acknowledgement, s') →
        ∃ packed frame, toBytesBig 4 ((s.sequence + 1) % 2 ^ 32) = .ok packed
          ∧ session.exchange .serialControlRequest (packed ++ controlPayload) .serialControlResponse io
              { s with sequence := (s.sequence + 1) % 2 ^ 32 } = (.ok frame, s')
          ∧ OwnReply io frame s'
          ∧ acknowledgementOf ((s.sequence + 1) % 2 ^ 32) frame = .ok acknowledgement
  | .connect _ | .disconnect | .lose => True

/-- The two exchanges of an authentication that goes through. -/
structure LogsIn (session : GizwitsSession) (passcodeIo loginIo : ExchangeIo) (s : SessionState)
    (first : GizwitsFrame) (s₁ : SessionState) (payload : Bytes) (second : GizwitsFrame)
    (s₂ : SessionState) : Prop where
  passcode : session.exchange .passcodeRequest [] .passcodeResponse passcodeIo s = (.ok first, s₁)
  asked : ∃ passcode, passcodeOf first = .ok passcode ∧ loginPayload passcode = .ok payload
  login : session.exchange .loginRequest payload .loginResponse loginIo s₁ = (.ok second, s₂)
  accepted : loginAccepted second = .ok ()

/-- What the call takes for the device's answer is an answer to an earlier request. -/
def Misled (session : GizwitsSession) (s : SessionState) : SessionOp → Prop
  | .authenticate passcodeIo loginIo => ∃ first s₁ payload second s₂,
      LogsIn session passcodeIo loginIo s first s₁ payload second s₂
        ∧ (Overtaken session .passcodeRequest [] .passcodeResponse (fun _ => True) passcodeIo s
          ∨ Overtaken session .loginRequest payload .loginResponse (fun _ => True) loginIo s₁)
  | .heartbeat io => s.authenticated = true
      ∧ Overtaken session .heartbeatRequest [] .heartbeatResponse (fun _ => True) io s
  | .readRawState io => s.authenticated = true
      ∧ Overtaken session .serialTransmitRequest [readStateAction] .serialTransmitResponse
          (fun response => ∃ status, statusOf response = .ok status) io s
  | .sendRawControl controlPayload io => s.authenticated = true
      ∧ controlPayload.head? = some controlAction
      ∧ ∃ packed, toBytesBig 4 ((s.sequence + 1) % 2 ^ 32) = .ok packed
        ∧ Overtaken session .serialControlRequest (packed ++ controlPayload) .serialControlResponse
            (fun response => ∃ acknowledgement,
              acknowledgementOf ((s.sequence + 1) % 2 ^ 32) response = .ok acknowledgement) io s
  | .connect _ | .disconnect | .lose => False

theorem requireAuthenticated_ok : requireAuthenticated s = .ok ()
    ↔ s.authenticated = true ∧ ∃ connection, s.connection = some connection := by
  unfold requireAuthenticated
  cases s.connection with
  | none => exact iff_of_false (fun h => nomatch h) (fun ⟨_, _, h⟩ => nomatch h)
  | some connection =>
      dsimp only
      split
      · rename_i hnot
        exact iff_of_false (fun h => nomatch h) (fun h => hnot h.1)
      · rename_i hauth
        exact iff_of_true rfl ⟨not_not.mp hauth, connection, rfl⟩

/-- A call with one exchange returns what it reads off the frame. -/
theorem authenticated_call {command expected : GizwitsCommand} {payload : Bytes}
    {frame : GizwitsFrame} (hauth : s.authenticated = true)
    (h : session.exchange command payload expected io s = (.ok frame, s')) :
    requireAuthenticated s = .ok () := by
  obtain ⟨connection, _, _, hconnection, _⟩ := exchange_ok_iff.mp h
  exact requireAuthenticated_ok.mpr ⟨hauth, connection, hconnection⟩

theorem heartbeat_ok_iff {u : Unit} : session.heartbeat io s = (.ok u, s')
    ↔ s.authenticated = true ∧ ∃ frame,
      session.exchange .heartbeatRequest [] .heartbeatResponse io s = (.ok frame, s') := by
  unfold GizwitsSession.heartbeat
  constructor
  · intro h
    split at h
    · cases h
    rename_i hauth
    split at h
    · cases h
    rename_i frame _ hexchange
    cases h
    exact ⟨(requireAuthenticated_ok.mp hauth).1, frame, hexchange⟩
  · rintro ⟨hauth, frame, hexchange⟩
    rw [authenticated_call hauth hexchange]
    dsimp only
    rw [hexchange]

theorem readRawState_ok_iff {raw : Bytes} : session.readRawState io s = (.ok raw, s')
    ↔ s.authenticated = true ∧ ∃ frame,
      session.exchange .serialTransmitRequest [readStateAction] .serialTransmitResponse io s
        = (.ok frame, s') ∧ statusOf frame = .ok raw := by
  unfold GizwitsSession.readRawState
  constructor
  · intro h
    split at h
    · cases h
    rename_i hauth
    split at h
    · cases h
    rename_i frame _ hexchange
    obtain ⟨hstatus, rfl⟩ := Prod.mk.inj h
    exact ⟨(requireAuthenticated_ok.mp hauth).1, frame, hexchange, hstatus⟩
  · rintro ⟨hauth, frame, hexchange, hstatus⟩
    rw [authenticated_call hauth hexchange]
    dsimp only
    rw [hexchange]
    dsimp only
    rw [hstatus]

theorem sendRawControl_ok_iff {controlPayload acknowledgement : Bytes} :
    session.sendRawControl controlPayload io s = (.ok acknowledgement, s')
      ↔ s.authenticated = true ∧ controlPayload.head? = some controlAction
        ∧ ∃ packed, toBytesBig 4 ((s.sequence + 1) % 2 ^ 32) = .ok packed ∧ ∃ frame,
          session.exchange .serialControlRequest (packed ++ controlPayload) .serialControlResponse io
              { s with sequence := (s.sequence + 1) % 2 ^ 32 } = (.ok frame, s')
            ∧ acknowledgementOf ((s.sequence + 1) % 2 ^ 32) frame = .ok acknowledgement := by
  unfold GizwitsSession.sendRawControl
  constructor
  · intro h
    split at h
    · cases h
    rename_i hauth
    split at h
    · cases h
    rename_i haction
    dsimp only at h
    split at h
    · cases h
    rename_i packed hpacked
    split at h
    · cases h
    rename_i frame _ hexchange
    obtain ⟨hack, rfl⟩ := Prod.mk.inj h
    exact ⟨(requireAuthenticated_ok.mp hauth).1, not_not.mp haction, packed, hpacked, frame,
      hexchange, hack⟩
  · rintro ⟨hauth, haction, packed, hpacked, frame, hexchange, hack⟩
    have hrequired : requireAuthenticated s = .ok () :=
      authenticated_call (s := { s with sequence := (s.sequence + 1) % 2 ^ 32 }) hauth hexchange
    rw [hrequired]
    dsimp only
    rw [if_neg (not_not.mpr haction), hpacked]
    dsimp only
    rw [hexchange]
    dsimp only
    rw [hack]

theorem authenticate_ok_iff {passcodeIo loginIo : ExchangeIo} {passcode : Bytes} :
    session.authenticate passcodeIo loginIo s = (.ok passcode, s')
      ↔ ∃ first s₁ payload second s₂, LogsIn session passcodeIo loginIo s first s₁ payload second s₂
        ∧ passcodeOf first = .ok passcode ∧ s' = { s₂ with authenticated := true } := by
  unfold GizwitsSession.authenticate
  constructor
  · intro h
    split at h
    · cases h
    rename_i first s₁ hfirst
    split at h
    · cases h
    rename_i passcode' hpasscode
    split at h
    · cases h
    rename_i payload hpayload
    split at h
    · cases h
    rename_i second s₂ hsecond
    split at h
    · cases h
    rename_i haccepted
    cases h
    exact ⟨first, s₁, payload, second, s₂, ⟨hfirst, ⟨_, hpasscode, hpayload⟩, hsecond, haccepted⟩,
      hpasscode, rfl⟩
  · rintro ⟨first, s₁, payload, second, s₂, ⟨hfirst, ⟨passcode', hpasscode', hpayload⟩, hsecond,
      haccepted⟩, hpasscode, rfl⟩
    cases hpasscode'.symm.trans hpasscode
    rw [hfirst]
    dsimp only
    rw [hpasscode]
    dsimp only
    rw [hpayload]
    dsimp only
    rw [hsecond]
    dsimp only
    rw [haccepted]

/-! ## Which calls are misled -/

/-- The exact condition of a call with one exchange, for what it reads off the frame. -/
theorem paired_call_iff {α : Type} {guard : Prop} {command expected : GizwitsCommand}
    {payload : Bytes} {read : GizwitsFrame → Except ProtocolError α}
    {returns : α → SessionState → Prop} (hreply : IsReply expected io.reply)
    (hreturns : ∀ value s', returns value s' ↔ guard ∧ ∃ frame,
      session.exchange command payload expected io s = (.ok frame, s') ∧ read frame = .ok value) :
    (∀ value s', returns value s' → ∃ frame,
        session.exchange command payload expected io s = (.ok frame, s') ∧ OwnReply io frame s'
          ∧ read frame = .ok value)
      ↔ ¬ (guard ∧ Overtaken session command payload expected
          (fun frame => ∃ value, read frame = .ok value) io s) := by
  constructor
  · rintro hpaired ⟨hguard, hovertaken⟩
    obtain ⟨frame, s', hexchange, value, hread⟩ := hovertaken.exchange
    obtain ⟨frame', hexchange', hown, _⟩ :=
      hpaired value s' ((hreturns value s').mpr ⟨hguard, frame, hexchange, hread⟩)
    exact (ownReply_iff hreply hexchange').mp hown ((overtaken_iff_accepts hexchange).mp hovertaken).2
  · intro hnot value s' hreturned
    obtain ⟨hguard, frame, hexchange, hread⟩ := (hreturns value s').mp hreturned
    refine ⟨frame, hexchange, (ownReply_iff hreply hexchange).mpr (fun hovertaken => ?_), hread⟩
    exact hnot ⟨hguard, (overtaken_iff_accepts hexchange).mpr ⟨⟨value, hread⟩, hovertaken⟩⟩

theorem paired_authenticate_iff {passcodeIo loginIo : ExchangeIo}
    (hpasscode : IsReply .passcodeResponse passcodeIo.reply)
    (hlogin : IsReply .loginResponse loginIo.reply) :
    Paired session s (.authenticate passcodeIo loginIo)
      ↔ ¬ Misled session s (.authenticate passcodeIo loginIo) := by
  constructor
  · rintro hpaired ⟨first, s₁, payload, second, s₂, hlogs, hovertaken⟩
    obtain ⟨passcode, hread, hpayload⟩ := hlogs.asked
    obtain ⟨first', s₁', payload', second', s₂', hfirst, hown, hread', hsecond, hown'⟩ :=
      hpaired passcode _ (authenticate_ok_iff.mpr ⟨_, _, _, _, _, hlogs, hread, rfl⟩)
    cases hlogs.passcode.symm.trans hfirst
    rcases hovertaken with hovertaken | hovertaken
    · exact (ownReply_iff hpasscode hfirst).mp hown hovertaken
    · -- whether the login is overtaken does not depend on what it sends
      obtain ⟨connection, wire, hconnection, hwire, hdrained, hint⟩ := hovertaken
      obtain ⟨connection', wire', _, hconnection', hwire', _⟩ := exchange_ok_iff.mp hsecond
      exact (ownReply_iff hlogin hsecond).mp hown'
        ⟨connection, wire', hconnection, hwire', hdrained, hint⟩
  · intro hnot passcode s' hreturned
    obtain ⟨first, s₁, payload, second, s₂, hlogs, hread, rfl⟩ := authenticate_ok_iff.mp hreturned
    have hnone : ∀ hovertaken, False := fun hovertaken =>
      hnot ⟨first, s₁, payload, second, s₂, hlogs, hovertaken⟩
    exact ⟨first, s₁, payload, second, s₂, hlogs.passcode,
      (ownReply_iff hpasscode hlogs.passcode).mpr (fun h => hnone (Or.inl h)), hread, hlogs.login,
      (ownReply_iff hlogin hlogs.login).mpr (fun h => hnone (Or.inr h))⟩

theorem paired_heartbeat_iff (hreply : IsReply .heartbeatResponse io.reply) :
    Paired session s (.heartbeat io) ↔ ¬ Misled session s (.heartbeat io) := by
  constructor
  · rintro hpaired ⟨hauth, hovertaken⟩
    obtain ⟨frame, s', hexchange, _⟩ := hovertaken.exchange
    obtain ⟨frame', hexchange', hown⟩ :=
      hpaired () s' (heartbeat_ok_iff.mpr ⟨hauth, frame, hexchange⟩)
    exact (ownReply_iff hreply hexchange').mp hown hovertaken
  · intro hnot u s' hreturned
    obtain ⟨hauth, frame, hexchange⟩ := heartbeat_ok_iff.mp hreturned
    exact ⟨frame, hexchange, (ownReply_iff hreply hexchange).mpr (fun h => hnot ⟨hauth, h⟩)⟩

theorem paired_control_iff {controlPayload : Bytes}
    (hreply : IsReply .serialControlResponse io.reply) :
    Paired session s (.sendRawControl controlPayload io)
      ↔ ¬ Misled session s (.sendRawControl controlPayload io) := by
  constructor
  · rintro hpaired ⟨hauth, haction, packed, hpacked, hovertaken⟩
    -- the sequence number is counted up first, which leaves the connection alone
    obtain ⟨frame, s', hexchange, acknowledgement, hread⟩ := Overtaken.exchange
      (s := { s with sequence := (s.sequence + 1) % 2 ^ 32 }) hovertaken
    obtain ⟨packed', frame', hpacked', hexchange', hown, _⟩ := hpaired acknowledgement s'
      (sendRawControl_ok_iff.mpr ⟨hauth, haction, packed, hpacked, frame, hexchange, hread⟩)
    cases hpacked.symm.trans hpacked'
    exact (ownReply_iff hreply hexchange').mp hown
      ((overtaken_iff_accepts hexchange').mp hovertaken).2
  · intro hnot acknowledgement s' hreturned
    obtain ⟨hauth, haction, packed, hpacked, frame, hexchange, hread⟩ :=
      sendRawControl_ok_iff.mp hreturned
    refine ⟨packed, frame, hpacked, hexchange, (ownReply_iff hreply hexchange).mpr (fun h => ?_),
      hread⟩
    exact hnot ⟨hauth, haction, packed, hpacked,
      (overtaken_iff_accepts hexchange).mpr ⟨⟨acknowledgement, hread⟩, h⟩⟩

/-- **A call is paired exactly when it is not misled.** -/
theorem paired_iff {op : SessionOp} (hanswered : op.Answered) :
    Paired session s op ↔ ¬ Misled session s op := by
  cases op with
  | authenticate passcodeIo loginIo => exact paired_authenticate_iff hanswered.1 hanswered.2
  | heartbeat io => exact paired_heartbeat_iff hanswered
  | readRawState io => exact paired_call_iff hanswered (fun _ _ => readRawState_ok_iff)
  | sendRawControl controlPayload io => exact paired_control_iff hanswered
  | connect opened => exact iff_of_true trivial (fun h => h)
  | disconnect => exact iff_of_true trivial (fun h => h)
  | lose => exact iff_of_true trivial (fun h => h)

/-- **A call that finds nothing unread is paired.** -/
theorem paired_of_settled {op : SessionOp} (hanswered : op.Answered) (hsettled : s.unread = []) :
    Paired session s op := by
  rw [paired_iff hanswered]
  cases op with
  | authenticate passcodeIo loginIo =>
      rintro ⟨first, s₁, payload, second, s₂, hlogs, hfirst | hsecond⟩
      · exact not_overtaken_of_settled hsettled hfirst
      · have hown := (ownReply_iff hanswered.1 hlogs.passcode).mpr (not_overtaken_of_settled hsettled)
        exact not_overtaken_of_settled hown.2 hsecond
  | heartbeat io => exact fun h => not_overtaken_of_settled hsettled h.2
  | readRawState io => exact fun h => not_overtaken_of_settled hsettled h.2
  | sendRawControl controlPayload io =>
      rintro ⟨_, _, _, _, hovertaken⟩
      exact not_overtaken_of_settled hsettled hovertaken
  | connect opened => exact fun h => h
  | disconnect => exact fun h => h
  | lose => exact fun h => h

/--
**Replies are paired with their requests exactly in the runs where no call is misled.**

From a fresh session, under any sequence of calls with any timeouts and any
reconnects, every call that returns returns the device's answer to its own request,
if and only if no call comes, in what earlier calls left unread, to a frame that
passes for its answer before it comes to its own.
-/
theorem reply_pairing_iff (session : GizwitsSession) (ops : List SessionOp)
    (hanswered : ∀ op ∈ ops, op.Answered) :
    Run.Each (sessionStep session) (Paired session) {} ops
      ↔ Run.Each (sessionStep session) (fun s op => ¬ Misled session s op) {} ops :=
  Run.each_iff_of_mem hanswered (fun _ _ (_ : True) => trivial) (fun _ _ h _ => paired_iff h) trivial

/-! ## A device -/

def pumpSession : GizwitsSession where
  address := "192.168.0.20"

/-- A frame of the device. -/
def frameOf (command : GizwitsCommand) (payload : Bytes) : Bytes :=
  magic ++ UInt8.ofNat (3 + payload.length) :: 0 :: 0 :: UInt8.ofNat command.value :: payload

/-- The device answers with a frame of which so many bytes arrive in time. -/
def replying (delivered : ℕ) (command : GizwitsCommand) (payload : Bytes) : ExchangeIo where
  drained := true
  reply := frameOf command payload
  delivered := delivered

def loggingIn : SessionOp :=
  .authenticate (replying 100 .passcodeResponse [0, 3, 97, 98, 99])
    (replying 100 .loginResponse [0])

/-- The device reports a value, in time or too late. -/
def polling (delivered : ℕ) (value : UInt8) : SessionOp :=
  .readRawState (replying delivered .serialTransmitResponse [stateReplyAction, value])

theorem loggingIn_answered : loggingIn.Answered :=
  ⟨⟨⟨7, [0, 3, 97, 98, 99], 0⟩, by decide +kernel, rfl⟩, ⟨⟨9, [0], 0⟩, by decide +kernel, rfl⟩⟩

theorem decode_status_one :
    decodeFrame (frameOf .serialTransmitResponse [3, 1]) = .ok ⟨0x91, [3, 1], 0⟩ := by
  decide +kernel

theorem decode_status_two :
    decodeFrame (frameOf .serialTransmitResponse [3, 2]) = .ok ⟨0x91, [3, 2], 0⟩ := by
  decide +kernel

/-- Two status reads that both answer in time. -/
def promptReads : List SessionOp := [.connect (.ok ()), loggingIn, polling 100 1, polling 100 2]

theorem reply_pairing_iff_pumpSession :
    Run.Each (sessionStep pumpSession) (Paired pumpSession) {} promptReads
      ↔ Run.Each (sessionStep pumpSession) (fun s op => ¬ Misled pumpSession s op) {} promptReads := by
  refine reply_pairing_iff pumpSession promptReads (fun op hop => ?_)
  fin_cases hop
  · trivial
  · exact loggingIn_answered
  · exact ⟨_, decode_status_one, rfl⟩
  · exact ⟨_, decode_status_two, rfl⟩

/-- A status read that times out, and the next one. -/
def lateRead : List SessionOp := [.connect (.ok ()), loggingIn, polling 0 1, polling 100 2]

/--
**A status read returns an earlier status.** The first read times out with its
reply still under way; the second one returns that reply, sampled before it was
asked for, and leaves its own behind.
-/
theorem stale_status_pumpSession :
    (∀ op ∈ lateRead, op.Answered)
      ∧ (pumpSession.readRawState (replying 100 .serialTransmitResponse [stateReplyAction, 2])
          (Run.exec (sessionStep pumpSession) {} (lateRead.take 3))).1 = .ok [1]
      ∧ ¬ Run.Each (sessionStep pumpSession) (Paired pumpSession) {} lateRead := by
  have hstale : (pumpSession.readRawState (replying 100 .serialTransmitResponse [stateReplyAction, 2])
      (Run.exec (sessionStep pumpSession) {} (lateRead.take 3))).1 = .ok [1] := by decide +kernel
  refine ⟨fun op hop => ?_, hstale, ?_⟩
  · fin_cases hop
    · trivial
    · exact loggingIn_answered
    · exact ⟨_, decode_status_one, rfl⟩
    · exact ⟨_, decode_status_two, rfl⟩
  · rintro ⟨_, _, _, hpaired, _⟩
    obtain ⟨frame, _, hown, hstatus⟩ := hpaired [1] _ (Prod.ext hstale rfl)
    cases decode_status_two.symm.trans hown.1
    cases hstatus

end JebaoFlow
