import JebaoFlow.Lib.Bytes

/-!
# Frames

The envelope of the LAN protocol: a magic, the length of the body as a varint of
at most four bytes, and the body, which is a flag, a command and a payload.

A stream is what has arrived and was not read yet. A read that needs more than
that waits, unless the other side has closed the stream.
-/

namespace JebaoFlow

open Bytes

/-- What the protocol layer raises. -/
inductive ProtocolError
  | decode (message : String)
  | incompleteFrame (message : String)
  | frameTooLarge (message : String)
  | connection (message : String)
  | timeout (message : String)
  | unexpectedResponse (message : String)
  | authentication (message : String)
  | python (error : PyError)
  deriving DecidableEq

/-- `MAGIC`. -/
def magic : Bytes := [0x00, 0x00, 0x00, 0x03]

/-- `MAX_VARINT_BYTES`. -/
def maxVarintBytes : ℕ := 4

/-- `DEFAULT_MAX_FRAME_BODY_SIZE`. -/
def defaultMaxFrameBodySize : ℤ := 1024 * 1024

/-- `MIN_FRAME_BODY_SIZE`: the flag and the command. -/
def minFrameBodySize : ℕ := 3

inductive GizwitsCommand
  | onboardRequest | onboardResponse | discoverRequest | discoverResponse | startupBroadcast
  | passcodeRequest | passcodeResponse | loginRequest | loginResponse
  | heartbeatRequest | heartbeatResponse
  | serialTransmitRequest | serialTransmitResponse
  | serialControlRequest | serialControlResponse
  deriving DecidableEq, Repr

def GizwitsCommand.value : GizwitsCommand → ℕ
  | .onboardRequest => 0x0001
  | .onboardResponse => 0x0002
  | .discoverRequest => 0x0003
  | .discoverResponse => 0x0004
  | .startupBroadcast => 0x0005
  | .passcodeRequest => 0x0006
  | .passcodeResponse => 0x0007
  | .loginRequest => 0x0008
  | .loginResponse => 0x0009
  | .heartbeatRequest => 0x0015
  | .heartbeatResponse => 0x0016
  | .serialTransmitRequest => 0x0090
  | .serialTransmitResponse => 0x0091
  | .serialControlRequest => 0x0093
  | .serialControlResponse => 0x0094

structure GizwitsFrame where
  command : ℕ
  payload : Bytes := []
  flag : UInt8 := 0
  deriving DecidableEq

/-! ## Varints -/

/-- The bytes of a length; below the four-byte limit the rounds do not run out. -/
def varintBytes : ℕ → ℕ → Bytes
  | 0, _ => []
  | rounds + 1, value =>
      let byte := value &&& 0x7F
      let value := value >>> 7
      if value ≠ 0 then UInt8.ofNat (byte ||| 0x80) :: varintBytes rounds value
      else [UInt8.ofNat byte]

def encodeVarint (value : ℤ) : Except ProtocolError Bytes :=
  if value < 0 then .error (.python (.valueError "varint value must be non-negative"))
  else if (1 <<< (7 * maxVarintBytes) : ℕ) ≤ value then
    .error (.python (.valueError "varint value exceeds the four-byte GAgent limit"))
  else .ok (varintBytes maxVarintBytes value.toNat)

/-- The loop of `decode_varint`, with the number of bytes it may still take. -/
def varintLoop (data : Bytes) (offset : ℕ) : ℕ → ℕ → ℕ → Except ProtocolError (ℕ × ℕ)
  | 0, _, _ => .error (.decode "frame length varint exceeds four bytes")
  | left + 1, index, value =>
    match data[offset + index]? with
    | none => .error (.incompleteFrame "incomplete frame length varint")
    | some byte =>
        let value := value ||| ((byte &&& 0x7F).toNat <<< (7 * index))
        if byte &&& 0x80 = 0 then .ok (value, index + 1)
        else varintLoop data offset left (index + 1) value

/-- `(value, consumed_bytes)`. -/
def decodeVarint (data : Bytes) (offset : ℤ := 0) : Except ProtocolError (ℕ × ℕ) :=
  if offset < 0 then .error (.python (.valueError "offset must be non-negative"))
  else varintLoop data offset.toNat maxVarintBytes 0 0

/-! ## Whole frames -/

def encodeFrame (command : ℤ) (payload : Bytes := []) (flag : ℤ := 0)
    (maxBodySize : ℤ := defaultMaxFrameBodySize) : Except ProtocolError Bytes :=
  if ¬ (0 ≤ command ∧ command ≤ 0xFFFF) then
    .error (.python (.valueError "command must fit in 16 bits"))
  else if ¬ (0 ≤ flag ∧ flag ≤ 0xFF) then
    .error (.python (.valueError "flag must fit in one byte"))
  else
    match toBytesBig 2 command.toNat with
    | .error e => .error (.python e)
    | .ok packed =>
      let body := UInt8.ofNat flag.toNat :: packed ++ payload
      if maxBodySize < body.length then
        .error (.frameTooLarge s!"frame body exceeds {maxBodySize} bytes")
      else
        match encodeVarint body.length with
        | .error e => .error e
        | .ok length => .ok (magic ++ length ++ body)

def decodeFrame (data : Bytes) (maxBodySize : ℤ := defaultMaxFrameBodySize) :
    Except ProtocolError GizwitsFrame :=
  if ¬ magic.isPrefixOf data then .error (.decode "frame has invalid GAgent magic")
  else
    match decodeVarint data magic.length with
    | .error e => .error e
    | .ok (bodySize, varintSize) =>
      if bodySize < minFrameBodySize then
        .error (.decode "frame body is too short for flag and command")
      else if maxBodySize < bodySize then
        .error (.frameTooLarge s!"frame body exceeds {maxBodySize} bytes")
      else
        let bodyStart := magic.length + varintSize
        let bodyEnd := bodyStart + bodySize
        if data.length < bodyEnd then
          .error (.incompleteFrame (s!"frame body declares {bodySize} bytes but only "
            ++ s!"{data.length - bodyStart} are present"))
        else if bodyEnd < data.length then .error (.decode "frame contains trailing bytes")
        else
          let body := slice data bodyStart bodySize
          .ok { command := fromBytesBig (slice body 1 2), payload := body.drop 3,
                flag := body.getD 0 0 }

/-! ## Streams -/

/-- `asyncio.StreamReader`: what has arrived and was not read, and whether more can come. -/
structure StreamReader where
  buffer : Bytes := []
  eof : Bool := false
  deriving DecidableEq

/-- How a read ends without its bytes. -/
inductive ReadStop
  /-- Not enough has arrived, and more can come. -/
  | waiting
  | raised (error : ProtocolError)
  deriving DecidableEq

/-- `readexactly`, with the exception `read_frame` makes of an early end. -/
def StreamReader.readExactly (count : ℕ) (reader : StreamReader) :
    Except ReadStop Bytes × StreamReader :=
  if count ≤ reader.buffer.length then
    (.ok (reader.buffer.take count), { reader with buffer := reader.buffer.drop count })
  else if reader.eof then
    (.error (.raised (.connection "connection closed while reading a frame")),
      { reader with buffer := [] })
  else (.error .waiting, reader)

section

variable {ρ : Type} (readExactly : ℕ → ρ → Except ReadStop Bytes × ρ)

/-- The bytes of the length, one by one, up to the one without a continuation bit. -/
def readLengthFrom : ℕ → Bytes → ρ → Except ReadStop Bytes × ρ
  | 0, _, reader => (.error (.raised (.decode "frame length varint exceeds four bytes")), reader)
  | left + 1, encoded, reader =>
    match readExactly 1 reader with
    | (.error stop, reader) => (.error stop, reader)
    | (.ok byte, reader) =>
        let encoded := encoded ++ byte
        if byte.getD 0 0 &&& 0x80 = 0 then (.ok encoded, reader)
        else readLengthFrom left encoded reader

/--
`read_frame`: one frame off any stream that reads exactly so many bytes. What was read
before a stop is gone.
-/
def readFrameFrom (maxBodySize : ℤ) (reader : ρ) : Except ReadStop GizwitsFrame × ρ :=
  match readExactly magic.length reader with
  | (.error stop, reader) => (.error stop, reader)
  | (.ok start, reader) =>
    if start ≠ magic then (.error (.raised (.decode "stream has invalid GAgent magic")), reader)
    else
      match readLengthFrom readExactly maxVarintBytes [] reader with
      | (.error stop, reader) => (.error stop, reader)
      | (.ok encodedLength, reader) =>
        match decodeVarint encodedLength with
        | .error e => (.error (.raised e), reader)
        | .ok (bodySize, _) =>
          if bodySize < minFrameBodySize then
            (.error (.raised (.decode "frame body is too short for flag and command")), reader)
          else if maxBodySize < bodySize then
            (.error (.raised (.frameTooLarge s!"frame body exceeds {maxBodySize} bytes")), reader)
          else
            match readExactly bodySize reader with
            | (.error stop, reader) => (.error stop, reader)
            | (.ok body, reader) =>
              match decodeFrame (start ++ encodedLength ++ body) maxBodySize with
              | .error e => (.error (.raised e), reader)
              | .ok frame => (.ok frame, reader)

end

/-- The length off a stream of which this has arrived. -/
def readLength : ℕ → Bytes → StreamReader → Except ReadStop Bytes × StreamReader :=
  readLengthFrom StreamReader.readExactly

/-- The frame off a stream of which this has arrived. -/
def readFrame (reader : StreamReader) (maxBodySize : ℤ := defaultMaxFrameBodySize) :
    Except ReadStop GizwitsFrame × StreamReader :=
  readFrameFrom StreamReader.readExactly maxBodySize reader

theorem readLengthFrom_readExactly : readLengthFrom StreamReader.readExactly = readLength := rfl

/-- `read_frame` over and over, for so many frames. -/
def readFrames (maxBodySize : ℤ) : ℕ → StreamReader →
    Except ReadStop (List GizwitsFrame) × StreamReader
  | 0, reader => (.ok [], reader)
  | count + 1, reader =>
    match readFrame reader maxBodySize with
    | (.error stop, reader) => (.error stop, reader)
    | (.ok frame, reader) =>
      match readFrames maxBodySize count reader with
      | (.error stop, reader) => (.error stop, reader)
      | (.ok frames, reader) => (.ok (frame :: frames), reader)

/-! ## Streams that arrive in pieces -/

/-- What has arrived and was not read, and the pieces to come before the stream is closed. -/
structure ChunkedReader where
  buffer : Bytes := []
  arriving : List Bytes

/-- `readexactly`: wait for one piece after the other until there is enough. -/
def readPieces (count : ℕ) : List Bytes → Bytes → Except ReadStop Bytes × ChunkedReader
  | [], buffer =>
    if count ≤ buffer.length then (.ok (buffer.take count), ⟨buffer.drop count, []⟩)
    else (.error (.raised (.connection "connection closed while reading a frame")), ⟨[], []⟩)
  | piece :: arriving, buffer =>
    if count ≤ buffer.length then (.ok (buffer.take count), ⟨buffer.drop count, piece :: arriving⟩)
    else readPieces count arriving (buffer ++ piece)

def ChunkedReader.readExactly (count : ℕ) (reader : ChunkedReader) :
    Except ReadStop Bytes × ChunkedReader :=
  readPieces count reader.arriving reader.buffer

/-- Everything that was not read, arrived or not. -/
def ChunkedReader.unread (reader : ChunkedReader) : Bytes :=
  reader.buffer ++ reader.arriving.flatten

end JebaoFlow
