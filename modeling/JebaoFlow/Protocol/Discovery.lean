import JebaoFlow.Devices.Binding
import JebaoFlow.Protocol.Session

/-!
# Answers to a discovery

`parse_discovery_response` walks over the payload of one frame with a cursor:
length-prefixed fields first, then eight bytes, two strings that end in a zero byte,
and whatever is left. A datagram that is no such answer is logged and dropped.
-/

namespace JebaoFlow

/-- `ProtocolDecodeError` and its subclasses. -/
def ProtocolError.isDecodeError : ProtocolError → Bool
  | .decode _ | .incompleteFrame _ | .frameTooLarge _ => true
  | _ => false

end JebaoFlow

namespace JebaoFlow.Discovery

open Bytes

/-- One answer to the discovery; binding reads the part it extends. -/
structure DiscoveredDevice extends JebaoFlow.DiscoveredDevice where
  model : String := "unknown"
  wifiFirmwareVersion : Option String := none
  apiServer : Option String := none
  gizwitsVersion : Option String := none
  mcuAttributesHex : String := ""
  extraHex : String := ""
  deriving DecidableEq

/-! ## Bytes as text -/

/-- The text of bytes that are all ASCII. -/
def asciiText (raw : Bytes) : String := String.ofList (raw.map (fun b => Char.ofNat b.toNat))

def isAscii (raw : Bytes) : Bool := raw.all (fun b => decide (b.toNat < 0x80))

/-- `raw.decode("ascii")`, where the error it raises is made one of the protocol. -/
def decodeAscii (fieldName : String) (raw : Bytes) : Except ProtocolError String :=
  if isAscii raw then .ok (asciiText raw)
  else .error (.decode s!"discovery {fieldName} is not ASCII")

/-- `raw.hex(separator)`. -/
def hex (separator : String) (raw : Bytes) : String :=
  separator.intercalate (raw.map (fun b =>
    String.ofList [Nat.digitChar (b.toNat / 16), Nat.digitChar (b.toNat % 16)]))

/-- `text or None`. -/
def orNone (text : String) : Option String := if text = "" then none else some text

/-! ## The cursor -/

/-- `_PayloadCursor`: it never leaves the payload. -/
structure PayloadCursor where
  payload : Bytes
  position : ℕ := 0
  within : position ≤ payload.length

namespace PayloadCursor

def start (payload : Bytes) : PayloadCursor where
  payload
  within := Nat.zero_le _

def readExactly (size : ℕ) (cursor : PayloadCursor) :
    Except ProtocolError (Bytes × PayloadCursor) :=
  if h : cursor.payload.length < cursor.position + size then
    .error (.decode "discovery payload is truncated")
  else
    .ok (slice cursor.payload cursor.position size,
      { cursor with position := cursor.position + size, within := not_lt.mp h })

/-- The two bytes of the length are big-endian. -/
def readLengthPrefixed (cursor : PayloadCursor) : Except ProtocolError (Bytes × PayloadCursor) := do
  let (size, cursor) ← cursor.readExactly 2
  cursor.readExactly (fromBytesBig size)

def readAscii (fieldName : String) (cursor : PayloadCursor) :
    Except ProtocolError (String × PayloadCursor) := do
  let (raw, cursor) ← cursor.readLengthPrefixed
  let text ← decodeAscii fieldName raw
  .ok (text, cursor)

/-- The bytes that are left. -/
def rest (cursor : PayloadCursor) : Bytes := cursor.payload.drop cursor.position

/-- The bytes before the next zero byte. -/
def beforeZero (cursor : PayloadCursor) : Bytes := cursor.rest.takeWhile (fun b => b ≠ 0)

/-- What `read_c_string` takes, without the zero byte that it skips. -/
def readTerminated (fieldName : String) (cursor : PayloadCursor) :
    Except ProtocolError (Bytes × PayloadCursor) :=
  if h : cursor.rest.length ≤ cursor.beforeZero.length then
    .error (.decode s!"discovery {fieldName} is not null-terminated")
  else
    .ok (cursor.beforeZero, { cursor with
      position := cursor.position + cursor.beforeZero.length + 1
      within := by
        have hlen : cursor.rest.length = cursor.payload.length - cursor.position :=
          List.length_drop ..
        omega })

def readCString (fieldName : String) (cursor : PayloadCursor) :
    Except ProtocolError (String × PayloadCursor) := do
  let (raw, cursor) ← cursor.readTerminated fieldName
  let text ← decodeAscii fieldName raw
  .ok (text, cursor)

end PayloadCursor

/-! ## Answers -/

/-- The fields of the payload, in their order. -/
def parsePayload (address : String) (cursor : PayloadCursor) :
    Except ProtocolError DiscoveredDevice := do
  let (deviceId, cursor) ← cursor.readAscii "device id"
  if deviceId = "" then .error (.decode "discovery device id is empty")
  else
    let (mac, cursor) ← cursor.readLengthPrefixed
    let (wifiFirmware, cursor) ← cursor.readAscii "Wi-Fi firmware"
    let (productKey, cursor) ← cursor.readAscii "product key"
    let (mcuAttributes, cursor) ← cursor.readExactly 8
    let (apiServer, cursor) ← cursor.readCString "API server"
    let (gizwitsVersion, cursor) ← cursor.readCString "Gizwits version"
    .ok {
      address
      deviceId
      macAddress := some (hex ":" mac)
      productKey := orNone productKey
      wifiFirmwareVersion := orNone wifiFirmware
      apiServer := orNone apiServer
      gizwitsVersion := orNone gizwitsVersion
      mcuAttributesHex := hex "" mcuAttributes
      extraHex := hex "" cursor.rest }

def parseDiscoveryResponse (address : String) (data : Bytes) :
    Except ProtocolError DiscoveredDevice :=
  match decodeFrame data with
  | .error e => .error e
  | .ok frame =>
    if frame.command ≠ GizwitsCommand.discoverResponse.value then
      .error (.decode ("expected discovery response command 0x0004, got "
        ++ GizwitsSession.hexadecimal 4 frame.command))
    else parsePayload address (.start frame.payload)

/-- `datagram_received`, with what it raises and the devices it leaves. -/
def datagramReceived (data : Bytes) (address : String × ℕ)
    (devices : Dict (String × String) DiscoveredDevice) :
    Except ProtocolError (Dict (String × String) DiscoveredDevice) :=
  match parseDiscoveryResponse address.1 data with
  | .error e => if e.isDecodeError then .ok devices else .error e
  -- conflicting addresses stay apart, so that binding can refuse them
  | .ok device => .ok (devices.set (device.deviceId, device.address) device)

end JebaoFlow.Discovery
