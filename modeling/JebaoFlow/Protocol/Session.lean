import JebaoFlow.Protocol.Codec
import JebaoFlow.Protocol.Control

/-!
# The authenticated session

`GizwitsSession`: request and response exchanges over one connection at a time. An
exchange writes its request and takes the first frame of the expected command,
skipping a bounded number of others, all within one deadline.

The device answers every request it is sent, in order. Its replies are one stream
of bytes; how much of the stream arrives before the deadline of an exchange is an
argument of the exchange, and what has not arrived yet stays in flight.
-/

namespace JebaoFlow

open Bytes

/-- `READ_STATE_ACTION`. -/
def readStateAction : UInt8 := 0x02

/-- `STATE_REPLY_ACTION`. -/
def stateReplyAction : UInt8 := 0x03

/-- `STATE_REPORT_ACTION`. -/
def stateReportAction : UInt8 := 0x04

/-- The constructor's arguments that an exchange depends on. -/
structure GizwitsSession where
  address : String
  port : ℕ := 12416
  maxSkippedFrames : ℕ := 8
  port_range : 1 ≤ port ∧ port ≤ 65535 := by decide

/-- The default passes the constructor's check. -/
theorem GizwitsSession.port_default : 1 ≤ 12416 ∧ 12416 ≤ 65535 := by decide

/-- An open connection, with the reply bytes that have not arrived on it yet. -/
structure Connection where
  reader : StreamReader := {}
  inFlight : Bytes := []
  deriving DecidableEq

structure SessionState where
  connection : Option Connection := none
  sequence : ℕ := 0
  authenticated : Bool := false
  deriving DecidableEq

/-- What the device and the network do during one exchange. -/
structure ExchangeIo where
  /-- `drain` returns before the deadline. -/
  drained : Bool
  /-- What the device sends in answer to this request. -/
  reply : Bytes
  /-- How many of the bytes in flight arrive before the deadline. -/
  delivered : ℕ

/-! ## Connecting -/

namespace SessionState

/-- `connect`: an open connection is kept. -/
def connect (opened : Except ProtocolError Unit) (s : SessionState) :
    Except ProtocolError Unit × SessionState :=
  match s.connection with
  | some _ => (.ok (), s)
  | none =>
    match opened with
    | .error e => (.error e, s)
    | .ok () => (.ok (), { s with connection := some {}, authenticated := false })

def disconnect (s : SessionState) : SessionState :=
  { s with connection := none, authenticated := false }

/-- The connection closes by itself. -/
def lose (s : SessionState) : SessionState := { s with connection := none }

end SessionState

namespace GizwitsSession

variable (session : GizwitsSession)

/-! ## Exchanges -/

/-- A number in so many hexadecimal digits. -/
def hexadecimal (digits value : ℕ) : String :=
  "0x" ++ String.ofList ((List.range digits).map (fun i =>
    Nat.digitChar (value / 16 ^ (digits - 1 - i) % 16)))

/-- The frames read before the deadline, at most so many, up to the first expected one. -/
def awaitFrame (expected : ℕ) : ℕ → StreamReader →
    Except ReadStop (Option GizwitsFrame) × StreamReader
  | 0, reader => (.ok none, reader)
  | left + 1, reader =>
    match readFrame reader with
    | (.error stop, reader) => (.error stop, reader)
    | (.ok frame, reader) =>
        if frame.command = expected then (.ok (some frame), reader)
        else awaitFrame expected left reader

def timedOut : ProtocolError :=
  .timeout s!"timed out waiting for response from {session.address}:{session.port}"

/-- `_exchange`; every caller expects one command. -/
def exchange (command : GizwitsCommand) (payload : Bytes) (expected : GizwitsCommand)
    (io : ExchangeIo) (s : SessionState) : Except ProtocolError GizwitsFrame × SessionState :=
  match s.connection with
  | none => (.error (.connection "Gizwits session is not connected"), s)
  | some connection =>
    match encodeFrame command.value payload with
    | .error e => (.error e, s)
    | .ok _ =>
      -- the request is written, so the device will answer it whatever becomes of the wait
      let inFlight := connection.inFlight ++ io.reply
      if ¬ io.drained then
        (.error session.timedOut, { s with connection := some { connection with inFlight } })
      else
        let reader := { connection.reader with
          buffer := connection.reader.buffer ++ inFlight.take io.delivered }
        let inFlight := inFlight.drop io.delivered
        match awaitFrame expected.value (session.maxSkippedFrames + 1) reader with
        | (.ok (some frame), reader) => (.ok frame, { s with connection := some { reader, inFlight } })
        | (.ok none, reader) =>
            (.error (.unexpectedResponse (s!"no expected response ({hexadecimal 4 expected.value}) "
                ++ s!"after skipping {session.maxSkippedFrames} frames")),
              { s with connection := some { reader, inFlight } })
        | (.error .waiting, reader) =>
            (.error session.timedOut, { s with connection := some { reader, inFlight } })
        | (.error (.raised e), reader) =>
            (.error e, { s with connection := some { reader, inFlight } })

/-! ## Calls -/

def requireAuthenticated (s : SessionState) : Except ProtocolError Unit :=
  match s.connection with
  | none => .error (.connection "Gizwits session is not connected")
  | some _ =>
      if ¬ s.authenticated then .error (.authentication "Gizwits session is not authenticated")
      else .ok ()

/-- The passcode of a passcode response. -/
def passcodeOf (response : GizwitsFrame) : Except ProtocolError Bytes :=
  if response.payload.length < 2 then
    .error (.authentication "passcode response is too short")
  else
    let passcodeSize := fromBytesBig (response.payload.take 2)
    let passcode := slice response.payload 2 passcodeSize
    if passcode = [] ∨ passcode.length ≠ passcodeSize then
      .error (.authentication "passcode response has an invalid length")
    else .ok passcode

/-- The device took the login: the last byte of its response is zero. -/
def loginAccepted (response : GizwitsFrame) : Except ProtocolError Unit :=
  if response.payload.getLast? = some 0 then .ok ()
  else .error (.authentication "device rejected the local login")

def loginPayload (passcode : Bytes) : Except ProtocolError Bytes :=
  match toBytesBig 2 passcode.length with
  | .error e => .error (.python e)
  | .ok packed => .ok (packed ++ passcode)

def authenticate (passcodeIo loginIo : ExchangeIo) (s : SessionState) :
    Except ProtocolError Bytes × SessionState :=
  match session.exchange .passcodeRequest [] .passcodeResponse passcodeIo s with
  | (.error e, s) => (.error e, s)
  | (.ok passcodeResponse, s) =>
    match passcodeOf passcodeResponse with
    | .error e => (.error e, s)
    | .ok passcode =>
      match loginPayload passcode with
      | .error e => (.error e, s)
      | .ok payload =>
        match session.exchange .loginRequest payload .loginResponse loginIo s with
        | (.error e, s) => (.error e, s)
        | (.ok loginResponse, s) =>
          match loginAccepted loginResponse with
          | .error e => (.error e, s)
          | .ok () => (.ok passcode, { s with authenticated := true })

def heartbeat (io : ExchangeIo) (s : SessionState) : Except ProtocolError Unit × SessionState :=
  match requireAuthenticated s with
  | .error e => (.error e, s)
  | .ok () =>
    match session.exchange .heartbeatRequest [] .heartbeatResponse io s with
    | (.error e, s) => (.error e, s)
    | (.ok _, s) => (.ok (), s)

/-- The status of a state response. -/
def statusOf (response : GizwitsFrame) : Except ProtocolError Bytes :=
  match response.payload with
  | [] => .error (.unexpectedResponse "device returned an empty state payload")
  | action :: status =>
      if action = stateReplyAction ∨ action = stateReportAction then .ok status
      else .error (.unexpectedResponse s!"unexpected state action {hexadecimal 2 action.toNat}")

def readRawState (io : ExchangeIo) (s : SessionState) :
    Except ProtocolError Bytes × SessionState :=
  match requireAuthenticated s with
  | .error e => (.error e, s)
  | .ok () =>
    match session.exchange .serialTransmitRequest [readStateAction] .serialTransmitResponse io s with
    | (.error e, s) => (.error e, s)
    | (.ok response, s) => (statusOf response, s)

/-- The acknowledgement in a control response, of the request with this sequence number. -/
def acknowledgementOf (sequence : ℕ) (response : GizwitsFrame) : Except ProtocolError Bytes :=
  if response.payload.length < 4 then
    .error (.unexpectedResponse "control response is missing its sequence number")
  else
    let responseSequence := fromBytesBig (response.payload.take 4)
    if responseSequence ≠ sequence then
      .error (.unexpectedResponse (s!"control response sequence mismatch: expected {sequence}, "
        ++ s!"got {responseSequence}"))
    else .ok (response.payload.drop 4)

def sendRawControl (controlPayload : Bytes) (io : ExchangeIo) (s : SessionState) :
    Except ProtocolError Bytes × SessionState :=
  match requireAuthenticated s with
  | .error e => (.error e, s)
  | .ok () =>
    if controlPayload.head? ≠ some controlAction then
      (.error (.python (.valueError "control payload must begin with action 0x01")), s)
    else
      -- the number is used up even where the exchange fails
      let sequence := (s.sequence + 1) % 2 ^ 32
      let s := { s with sequence }
      match toBytesBig 4 sequence with
      | .error e => (.error (.python e), s)
      | .ok packed =>
        match session.exchange .serialControlRequest (packed ++ controlPayload)
          .serialControlResponse io s with
        | (.error e, s) => (.error e, s)
        | (.ok response, s) => (acknowledgementOf sequence response, s)

end GizwitsSession

/-! ## Runs -/

/-- One call of the session with what its environment does. -/
inductive SessionOp
  | connect (opened : Except ProtocolError Unit)
  | disconnect
  | lose
  | authenticate (passcodeIo loginIo : ExchangeIo)
  | heartbeat (io : ExchangeIo)
  | readRawState (io : ExchangeIo)
  | sendRawControl (controlPayload : Bytes) (io : ExchangeIo)

/-- The state after the call, whether it returned or raised. -/
def sessionStep (session : GizwitsSession) (s : SessionState) : SessionOp → SessionState
  | .connect opened => (s.connect opened).2
  | .disconnect => s.disconnect
  | .lose => s.lose
  | .authenticate passcodeIo loginIo => (session.authenticate passcodeIo loginIo s).2
  | .heartbeat io => (session.heartbeat io s).2
  | .readRawState io => (session.readRawState io s).2
  | .sendRawControl controlPayload io => (session.sendRawControl controlPayload io s).2

end JebaoFlow
