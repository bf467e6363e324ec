import JebaoFlow.Devices.Reading
import JebaoFlow.Protocol.Session

/-!
# The adapter on its session

`LanJebaoDevice` the way the daemon builds it, on a `GizwitsSession` of its own. The calls are the
adapter's, with what the session returns in the place of what any session might return. Next to the
two states stands everything that was written to the device, one `writer.write` after the other.
-/

namespace JebaoFlow

/-- What a call of the session raises, seen from the adapter. -/
def ProtocolError.raised : ProtocolError → LanError
  | .decode message | .incompleteFrame message | .frameTooLarge message | .connection message
  | .timeout message | .unexpectedResponse message | .authentication message => .session message
  | .python error => .python error

/-! ## What the session writes -/

namespace GizwitsSession

variable (session : GizwitsSession)

/-- The `writer.write` of an exchange. -/
def exchangeWrites (command : GizwitsCommand) (payload : Bytes) (s : SessionState) : List Bytes :=
  match s.connection with
  | none => []
  | some _ => (encodeFrame command.value payload).toOption.toList

def authenticateWrites (passcodeIo : ExchangeIo) (s : SessionState) : List Bytes :=
  exchangeWrites .passcodeRequest [] s ++
    match session.exchange .passcodeRequest [] .passcodeResponse passcodeIo s with
    | (.error _, _) => []
    | (.ok response, s) =>
      match passcodeOf response with
      | .error _ => []
      | .ok passcode =>
        match loginPayload passcode with
        | .error _ => []
        | .ok payload => exchangeWrites .loginRequest payload s

def sendRawControlWrites (controlPayload : Bytes) (s : SessionState) : List Bytes :=
  match requireAuthenticated s with
  | .error _ => []
  | .ok () =>
    if controlPayload.head? ≠ some controlAction then []
    else
      match Bytes.toBytesBig 4 ((s.sequence + 1) % 2 ^ 32) with
      | .error _ => []
      | .ok packed => exchangeWrites .serialControlRequest (packed ++ controlPayload) s

/-- Everything a call writes. -/
def writes (s : SessionState) : SessionOp → List Bytes
  | .connect _ | .disconnect | .lose => []
  | .authenticate passcodeIo _ => session.authenticateWrites passcodeIo s
  | .heartbeat _ =>
    match requireAuthenticated s with
    | .error _ => []
    | .ok () => exchangeWrites .heartbeatRequest [] s
  | .readRawState _ =>
    match requireAuthenticated s with
    | .error _ => []
    | .ok () => exchangeWrites .serialTransmitRequest [readStateAction] s
  | .sendRawControl controlPayload _ => sendRawControlWrites controlPayload s

end GizwitsSession

/-! ## The stack -/

structure LanStack where
  session : SessionState := {}
  adapter : LanState := {}
  written : List Bytes := []

/-- What happens during one attempt to read back. -/
structure ReadBackIo where
  /-- The delay passes; a cancellation raises instead. -/
  delayed : Except LanError Unit
  /-- The connection closes by itself before the read. -/
  lost : Bool := false
  exchange : ExchangeIo

/-- What happens during one write call. -/
structure ControlIo where
  checkedAt : ℚ
  /-- The sleep for the rest of the interval, when there is one. -/
  waited : Except LanError Unit
  /-- The connection closes by itself before the frame is sent. -/
  lost : Bool := false
  startedAt : ℚ
  exchange : ExchangeIo
  finishedAt : ℚ
  readBack : ℕ → ReadBackIo

namespace LanStack

variable (session : GizwitsSession) (k : LanStack)

/-- A call of the session: its state, and what it writes. -/
def call (op : SessionOp) : LanStack :=
  { k with
    session := sessionStep session k.session op
    written := k.written ++ session.writes k.session op }

def lose (lost : Bool) : LanStack := if lost then k.call session .lose else k

variable (dev : LanJebaoDevice)

def connect (opened : Except ProtocolError Unit) (passcodeIo loginIo : ExchangeIo) :
    Except LanError Unit × LanStack :=
  match (k.session.connect opened).1 with
  | .error e => (.error e.raised, k.call session (.connect opened))
  | .ok () =>
    let k := k.call session (.connect opened)
    let authenticated := ((session.authenticate passcodeIo loginIo k.session).1.mapError
      ProtocolError.raised).map (fun _ => ())
    let (result, adapter) := k.adapter.connect (.ok ()) authenticated
    (result, { k.call session (.authenticate passcodeIo loginIo) with adapter })

def disconnect : LanStack :=
  { k.call session .disconnect with adapter := (k.adapter.disconnect (.ok ())).2 }

/-- `read_raw_state`, as the adapter calls it. -/
def readRawState (io : ExchangeIo) : Except LanError Bytes :=
  (session.readRawState io k.session).1.mapError ProtocolError.raised

def getState (io : ExchangeIo) (observedAt : Datetime) : Except LanError DeviceState × LanStack :=
  let (result, adapter) := dev.getState (k.readRawState session io) observedAt k.adapter
  (result, { k.call session (.readRawState io) with adapter })

/-- The read-back loop, from an attempt on, with the number of attempts left. -/
def readBack (changes : Dict String Value) (io : ℕ → ReadBackIo) :
    ℕ → ℕ → LanStack → Except LanError Unit × LanStack
  | _, 0, k => (.ok (), k)
  | attempt, left + 1, k =>
    match (io attempt).delayed with
    | .error e => (.error e, k)
    | .ok () =>
      let k := k.lose session (io attempt).lost
      let raw := k.readRawState session (io attempt).exchange
      let k := k.call session (.readRawState (io attempt).exchange)
      match dev.readValues raw k.adapter with
      | (.error e, adapter) => (.error e, { k with adapter })
      | (.ok values, adapter) =>
        if shows values changes then
          (.ok (), { k with adapter := { adapter with
            lastSentValues := Dict.setAll Prod.fst Prod.snd changes.entries adapter.lastSentValues } })
        else if attempt + 1 = dev.readbackAttempts then
          (.error (.stateVerification dev.deviceId (LanJebaoDevice.mismatches values changes)),
            { k with adapter })
        else readBack changes io (attempt + 1) left { k with adapter }

/-- `respect_command_interval` before the frame. -/
def respectCommandInterval (io : ControlIo) : Except LanError Unit :=
  match k.adapter.lastCommandAt with
  | none => .ok ()
  | some lastCommandAt =>
      let elapsed := io.checkedAt - lastCommandAt
      let remaining := (dev.minimumCommandIntervalMs : ℚ) / 1000 - elapsed
      if 0 < remaining then io.waited else .ok ()

def applyChanges (changes : Dict String Value) (io : ControlIo) (k : LanStack) :
    Except LanError Unit × LanStack :=
  if ¬ dev.allowHardwareWrites then
    (.error (.hardwareWritesDisabled
      s!"hardware writes are locked for {dev.deviceId}; review preview_target first"), k)
  else
    match buildControlPayload dev.schema changes with
    | .error e => (.error (.python e), k)
    | .ok payload =>
      if shows k.adapter.lastSentValues changes then (.ok (), k)
      else
        match k.respectCommandInterval dev io with
        | .error e => (.error e, k)
        | .ok () =>
          let k := k.lose session io.lost
          let sent := (session.sendRawControl payload io.exchange k.session).1
          let handed := { k.adapter with
            history := .control changes payload io.startedAt :: k.adapter.history }
          let k := { k.call session (.sendRawControl payload io.exchange) with adapter := handed }
          match sent with
          | .error e => (.error e.raised, k)
          | .ok _ =>
            readBack session dev changes io.readBack 0 dev.readbackAttempts
              { k with adapter := { k.adapter with lastCommandAt := some io.finishedAt } }

def write (changes : Except LanError (Dict String Value)) (io : ControlIo) (k : LanStack) :
    Except LanError Unit × LanStack :=
  match changes with
  | .error e => (.error e, k)
  | .ok changes => applyChanges session dev changes io k

end LanStack

/-! ## Runs -/

/-- One call of the adapter with what the network does, or the end of the connection. -/
inductive StackOp
  | connect (opened : Except ProtocolError Unit) (passcodeIo loginIo : ExchangeIo)
  | disconnect
  | lose
  | getState (io : ExchangeIo) (observedAt : Datetime)
  | previewTarget (target : DeviceTarget)
  | write (request : WriteRequest) (io : ControlIo)

def stackStep (session : GizwitsSession) (dev : LanJebaoDevice) (k : LanStack) : StackOp → LanStack
  | .connect opened passcodeIo loginIo => (k.connect session opened passcodeIo loginIo).2
  | .disconnect => k.disconnect session
  | .lose => k.call session .lose
  | .getState io observedAt => (k.getState session dev io observedAt).2
  | .previewTarget _ => k
  | .write request io => (LanStack.write session dev (request.changes dev) io k).2

end JebaoFlow
