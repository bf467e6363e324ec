import JebaoFlow.Lib.Grammar
import JebaoFlow.Protocol.Discovery
import JebaoFlow.Proof.FrameCodec

/-!
# What the discovery parser accepts

Discovery answers come from anyone on the network. Each read of the cursor accepts
a small language, the payload is their concatenation, and a datagram that is not a
frame around such a payload is refused with an error of decoding, which is the one
that the receiver drops.
-/

namespace JebaoFlow.Discovery

open Bytes

/-! ## The grammar -/

/-- A field behind its length. -/
def lengthPrefixed (value : Bytes) : Bytes :=
  UInt8.ofNat (value.length / 256) :: UInt8.ofNat (value.length % 256) :: value

/-- The fields of an answer, as the bytes between their lengths and terminators. -/
structure DiscoveryFields where
  deviceId : Bytes
  mac : Bytes
  wifiFirmware : Bytes
  productKey : Bytes
  mcuAttributes : Bytes
  apiServer : Bytes
  gizwitsVersion : Bytes
  extra : Bytes

namespace DiscoveryFields

/-- What the grammar asks of the fields. -/
structure WellFormed (fields : DiscoveryFields) : Prop where
  deviceId : fields.deviceId ≠ [] ∧ isAscii fields.deviceId = true ∧ fields.deviceId.length < 65536
  mac : fields.mac.length < 65536
  wifiFirmware : isAscii fields.wifiFirmware = true ∧ fields.wifiFirmware.length < 65536
  productKey : isAscii fields.productKey = true ∧ fields.productKey.length < 65536
  mcuAttributes : fields.mcuAttributes.length = 8
  apiServer : isAscii fields.apiServer = true ∧ 0 ∉ fields.apiServer
  gizwitsVersion : isAscii fields.gizwitsVersion = true ∧ 0 ∉ fields.gizwitsVersion

def payload (fields : DiscoveryFields) : Bytes :=
  lengthPrefixed fields.deviceId ++ (lengthPrefixed fields.mac
    ++ (lengthPrefixed fields.wifiFirmware ++ (lengthPrefixed fields.productKey
    ++ (fields.mcuAttributes ++ ((fields.apiServer ++ [0])
    ++ ((fields.gizwitsVersion ++ [0]) ++ fields.extra))))))

/-- The device that the fields describe. -/
def device (address : String) (fields : DiscoveryFields) : DiscoveredDevice where
  address
  deviceId := asciiText fields.deviceId
  macAddress := some (hex ":" fields.mac)
  productKey := orNone (asciiText fields.productKey)
  wifiFirmwareVersion := orNone (asciiText fields.wifiFirmware)
  apiServer := orNone (asciiText fields.apiServer)
  gizwitsVersion := orNone (asciiText fields.gizwitsVersion)
  mcuAttributesHex := hex "" fields.mcuAttributes
  extraHex := hex "" fields.extra

end DiscoveryFields

/-- A datagram that is one frame with command 4 around the payload of the fields. -/
def IsAnswer (data : Bytes) (fields : DiscoveryFields) : Prop :=
  ∃ length flag, IsFrame data length (flag :: 0x00 :: 0x04 :: fields.payload)
    defaultMaxFrameBodySize

/-! ## The reads of the cursor -/

/-- The errors that the receiver drops. -/
def Dropped (e : ProtocolError) : Prop := e.isDecodeError = true

/-- How the cursor's reads are said to accept a language. -/
abbrev Field {α : Type} (read : PayloadCursor → Except ProtocolError (α × PayloadCursor))
    (L : α → Bytes → Prop) : Prop :=
  Accepts PayloadCursor.rest Dropped read L

theorem rest_start (payload : Bytes) : (PayloadCursor.start payload).rest = payload := rfl

theorem rest_length (cursor : PayloadCursor) :
    cursor.rest.length = cursor.payload.length - cursor.position := List.length_drop ..

/-- A cursor that has moved on. -/
theorem drop_rest (cursor : PayloadCursor) (n : ℕ) :
    cursor.payload.drop (cursor.position + n) = cursor.rest.drop n := List.drop_drop.symm

theorem field_readExactly (size : ℕ) :
    Field (PayloadCursor.readExactly size) (fun value w => w = value ∧ value.length = size) where
  sound {cursor next value} h := by
    unfold PayloadCursor.readExactly at h
    split at h
    · cases h
    · rename_i hfits
      cases h
      have hlen := rest_length cursor
      refine ⟨slice cursor.payload cursor.position size, ?_, rfl, ?_⟩
      · show cursor.rest = cursor.rest.take size ++ cursor.payload.drop (cursor.position + size)
        rw [drop_rest, List.take_append_drop]
      · show (cursor.rest.take size).length = size
        rw [List.length_take_of_le (by omega)]
  complete {cursor value w r} hrest hL := by
    obtain ⟨rfl, hsize⟩ := hL
    have hlen := rest_length cursor
    rw [hrest, List.length_append] at hlen
    have hfits : ¬ cursor.payload.length < cursor.position + size := by
      have := cursor.within
      omega
    unfold PayloadCursor.readExactly
    rw [dif_neg hfits]
    refine ⟨_, congrArg Except.ok (Prod.ext ?_ rfl), ?_⟩
    · show cursor.rest.take size = w
      rw [hrest, ← hsize, List.take_left]
    · show cursor.payload.drop (cursor.position + size) = r
      rw [drop_rest, hrest, ← hsize, List.drop_left]
  fails h := by
    unfold PayloadCursor.readExactly at h
    split at h
    · cases h
      rfl
    · cases h

/-- Two bytes are the length that they spell. -/
theorem lengthPrefixed_iff {value size : Bytes} (h : size.length = 2) :
    fromBytesBig size = value.length
      ↔ size ++ value = lengthPrefixed value ∧ value.length < 65536 := by
  match size, h with
  | [high, low], _ =>
      have hspell : fromBytesBig [high, low] = high.toNat * 256 + low.toNat := by
        show (0 * 256 + high.toNat) * 256 + low.toNat = _
        omega
      have hhigh := high.toNat_lt
      have hlow := low.toNat_lt
      rw [hspell]
      constructor
      · intro h
        refine ⟨?_, by omega⟩
        have h1 : value.length / 256 = high.toNat := by omega
        have h2 : value.length % 256 = low.toNat := by omega
        unfold lengthPrefixed
        rw [h1, h2, UInt8.ofNat_toNat, UInt8.ofNat_toNat]
        rfl
      · rintro ⟨h, hlt⟩
        unfold lengthPrefixed at h
        simp only [List.cons_append, List.nil_append, List.cons.injEq, and_true] at h
        obtain ⟨rfl, rfl⟩ := h
        have hsize : UInt8.size = 256 := rfl
        rw [UInt8.toNat_ofNat_of_lt' (by omega), UInt8.toNat_ofNat_of_lt' (by omega)]
        omega

theorem field_readLengthPrefixed :
    Field PayloadCursor.readLengthPrefixed
      (fun value w => w = lengthPrefixed value ∧ value.length < 65536) := by
  have h := (field_readExactly 2).andThen (fun size => field_readExactly (fromBytesBig size))
  refine h.congr (fun value w => ?_)
  constructor
  · rintro ⟨size, u, v, rfl, ⟨rfl, hsize⟩, rfl, hvalue⟩
    exact (lengthPrefixed_iff hsize).mp hvalue.symm
  · rintro ⟨rfl, hlt⟩
    refine ⟨[_, _], [_, _], value, rfl, ⟨rfl, rfl⟩, rfl, ?_⟩
    exact ((lengthPrefixed_iff rfl).mpr ⟨rfl, hlt⟩).symm

theorem decodeAscii_eq_ok {fieldName : String} {raw : Bytes} {text : String} :
    decodeAscii fieldName raw = .ok text ↔ isAscii raw = true ∧ text = asciiText raw := by
  unfold decodeAscii
  split
  · rename_i h
    exact ⟨fun hok => ⟨h, (Except.ok.inj hok).symm⟩, fun hok => congrArg Except.ok hok.2.symm⟩
  · rename_i h
    exact ⟨fun hok => (by cases hok), fun hok => absurd hok.1 h⟩

theorem decodeAscii_dropped {fieldName : String} {raw : Bytes} {e : ProtocolError}
    (h : decodeAscii fieldName raw = .error e) : Dropped e := by
  unfold decodeAscii at h
  split at h
  · cases h
  · cases h
    rfl

/-- The words of a length-prefixed text. -/
def AsciiField (text : String) (w : Bytes) : Prop :=
  ∃ raw, (isAscii raw = true ∧ raw.length < 65536) ∧ text = asciiText raw ∧ w = lengthPrefixed raw

theorem field_readAscii (fieldName : String) :
    Field (PayloadCursor.readAscii fieldName) AsciiField := by
  have h : Field (readAs PayloadCursor.readLengthPrefixed (decodeAscii fieldName)) _ :=
    field_readLengthPrefixed.decoded decodeAscii_dropped
  refine h.congr (fun text w => ?_)
  constructor
  · rintro ⟨raw, htext, hw, hlt⟩
    obtain ⟨hascii, htext⟩ := decodeAscii_eq_ok.mp htext
    exact ⟨raw, ⟨hascii, hlt⟩, htext, hw⟩
  · rintro ⟨raw, ⟨hascii, hlt⟩, htext, hw⟩
    exact ⟨raw, decodeAscii_eq_ok.mpr ⟨hascii, htext⟩, hw, hlt⟩

/-- The words of a text that ends in a zero byte. -/
def CStringField (text : String) (w : Bytes) : Prop :=
  ∃ raw, (isAscii raw = true ∧ 0 ∉ raw) ∧ text = asciiText raw ∧ w = raw ++ [0]

/-- Up to the first zero byte is up to the end of any text without one. -/
theorem takeWhile_terminated {raw : Bytes} (h : (0 : UInt8) ∉ raw) (r : Bytes) :
    (raw ++ 0 :: r).takeWhile (fun b => b ≠ 0) = raw := by
  have hall : ∀ b ∈ raw, decide (b ≠ 0) = true := fun b hb =>
    decide_eq_true (fun heq => h (heq ▸ hb))
  rw [List.takeWhile_append_of_pos hall, List.takeWhile_cons_of_neg (by decide), List.append_nil]

/-- A zero byte ends what was taken, unless there is none. -/
theorem takeWhile_found {bytes : Bytes}
    (h : (bytes.takeWhile (fun b => b ≠ 0)).length < bytes.length) :
    bytes = bytes.takeWhile (fun b => b ≠ 0)
      ++ 0 :: bytes.drop ((bytes.takeWhile (fun b => b ≠ 0)).length + 1) := by
  induction bytes with
  | nil => exact absurd h (Nat.lt_irrefl 0)
  | cons b bytes ih =>
      by_cases hb : b = 0
      · subst hb
        rfl
      · have hcons : (b :: bytes).takeWhile (fun b => b ≠ 0)
            = b :: bytes.takeWhile (fun b => b ≠ 0) :=
          List.takeWhile_cons_of_pos (decide_eq_true hb)
        rw [hcons] at h ⊢
        exact congrArg (b :: ·) (ih (Nat.lt_of_succ_lt_succ h))

theorem field_readTerminated (fieldName : String) :
    Field (PayloadCursor.readTerminated fieldName) (fun raw w => w = raw ++ [0] ∧ 0 ∉ raw) where
  sound {cursor next raw} h := by
    unfold PayloadCursor.readTerminated at h
    split at h
    · cases h
    · rename_i hfound
      cases h
      refine ⟨_, ?_, rfl, fun hmem => ?_⟩
      · have hsplit := takeWhile_found (not_le.mp hfound)
        show cursor.rest = cursor.beforeZero ++ [0]
          ++ cursor.payload.drop (cursor.position + (cursor.beforeZero.length + 1))
        rw [drop_rest, List.append_assoc]
        exact hsplit
      · have hne := List.mem_takeWhile_imp hmem
        exact absurd rfl (of_decide_eq_true hne)
  complete {cursor raw w r} hrest hL := by
    obtain ⟨rfl, hzero⟩ := hL
    rw [List.append_assoc] at hrest
    have htaken : cursor.beforeZero = raw := by
      unfold PayloadCursor.beforeZero
      rw [hrest]
      exact takeWhile_terminated hzero r
    have hfound : ¬ cursor.rest.length ≤ cursor.beforeZero.length := by
      rw [htaken, hrest, List.length_append, List.length_append, List.length_singleton]
      omega
    unfold PayloadCursor.readTerminated
    rw [dif_neg hfound]
    refine ⟨_, congrArg Except.ok (Prod.ext htaken rfl), ?_⟩
    show cursor.payload.drop (cursor.position + (cursor.beforeZero.length + 1)) = r
    have hlen : raw.length + 1 = (raw ++ [0]).length := by
      rw [List.length_append]
      rfl
    rw [drop_rest, htaken, hrest, ← List.append_assoc, hlen, List.drop_left]
  fails h := by
    unfold PayloadCursor.readTerminated at h
    split at h
    · cases h
      rfl
    · cases h

theorem field_readCString (fieldName : String) :
    Field (PayloadCursor.readCString fieldName) CStringField := by
  have h : Field (readAs (PayloadCursor.readTerminated fieldName) (decodeAscii fieldName)) _ :=
    (field_readTerminated fieldName).decoded decodeAscii_dropped
  refine h.congr (fun text w => ?_)
  constructor
  · rintro ⟨raw, htext, hw, hzero⟩
    obtain ⟨hascii, htext⟩ := decodeAscii_eq_ok.mp htext
    exact ⟨raw, ⟨hascii, hzero⟩, htext, hw⟩
  · rintro ⟨raw, ⟨hascii, hzero⟩, htext, hw⟩
    exact ⟨raw, decodeAscii_eq_ok.mpr ⟨hascii, htext⟩, hw, hzero⟩

/-! ## Whole answers -/

theorem asciiText_eq_empty {raw : Bytes} : asciiText raw = "" ↔ raw = [] := by
  unfold asciiText
  rw [String.ofList_eq_empty_iff, List.map_eq_nil_iff]

/-- The device of its texts and bytes. -/
def described (address deviceId : String) (mac : Bytes) (wifiFirmware productKey : String)
    (mcuAttributes : Bytes) (apiServer gizwitsVersion : String) (extra : Bytes) :
    DiscoveredDevice where
  address
  deviceId
  macAddress := some (hex ":" mac)
  productKey := orNone productKey
  wifiFirmwareVersion := orNone wifiFirmware
  apiServer := orNone apiServer
  gizwitsVersion := orNone gizwitsVersion
  mcuAttributesHex := hex "" mcuAttributes
  extraHex := hex "" extra

/-- **The payload is the concatenation of its fields.** -/
theorem parsePayload_parses (address : String) :
    Parses PayloadCursor.rest Dropped (parsePayload address)
      (fun device w => ∃ fields : DiscoveryFields, fields.WellFormed ∧ w = fields.payload
        ∧ device = fields.device address) := by
  have hparse := Parses.after (field_readAscii "device id") (fun deviceId =>
    @Parses.guarded _ _ _ _ PayloadCursor.rest Dropped (deviceId = "") _
      (.decode "discovery device id is empty") _ _
      (Parses.after field_readLengthPrefixed (fun mac =>
        Parses.after (field_readAscii "Wi-Fi firmware") (fun wifiFirmware =>
          Parses.after (field_readAscii "product key") (fun productKey =>
            Parses.after (field_readExactly 8) (fun mcuAttributes =>
              Parses.after (field_readCString "API server") (fun apiServer =>
                Parses.after (field_readCString "Gizwits version") (fun gizwitsVersion =>
                  Parses.remaining (described address deviceId mac wifiFirmware productKey
                    mcuAttributes apiServer gizwitsVersion)))))))) rfl)
  refine ⟨fun {cursor device} => hparse.returns_iff.trans ?_, hparse.fails⟩
  constructor
  · rintro ⟨_, _, _, hw, ⟨deviceId, hdevice, rfl, rfl⟩, hne, mac, _, _, rfl, ⟨rfl, hmac⟩,
      _, _, _, rfl, ⟨firmware, hfirmware, rfl, rfl⟩, _, _, _, rfl, ⟨key, hkey, rfl, rfl⟩,
      _, attributes, _, rfl, ⟨rfl, hattributes⟩, _, _, _, rfl, ⟨server, hserver, rfl, rfl⟩,
      _, _, extra, rfl, ⟨version, hversion, rfl, rfl⟩, rfl⟩
    exact ⟨⟨deviceId, mac, firmware, key, attributes, server, version, extra⟩,
      ⟨⟨fun h => hne (asciiText_eq_empty.mpr h), hdevice⟩, hmac, hfirmware, hkey, hattributes,
        hserver, hversion⟩, hw, rfl⟩
  · rintro ⟨⟨deviceId, mac, firmware, key, attributes, server, version, extra⟩,
      ⟨hdevice, hmac, hfirmware, hkey, hattributes, hserver, hversion⟩, hw, rfl⟩
    exact ⟨_, _, _, hw, ⟨deviceId, hdevice.2, rfl, rfl⟩,
      fun h => hdevice.1 (asciiText_eq_empty.mp h), mac, _, _, rfl, ⟨rfl, hmac⟩,
      _, _, _, rfl, ⟨firmware, hfirmware, rfl, rfl⟩, _, _, _, rfl, ⟨key, hkey, rfl, rfl⟩,
      attributes, _, _, rfl, ⟨rfl, hattributes⟩, _, _, _, rfl, ⟨server, hserver, rfl, rfl⟩,
      _, _, extra, rfl, ⟨version, hversion, rfl, rfl⟩, rfl⟩

/-! ## Datagrams -/

theorem varintLoop_dropped {data : Bytes} {offset : ℕ} : ∀ {left index value : ℕ}
    {e : ProtocolError}, varintLoop data offset left index value = .error e → Dropped e := by
  intro left
  induction left with
  | zero =>
      intro index value e h
      cases h
      rfl
  | succ left ih =>
      intro index value e h
      rw [varintLoop] at h
      split at h
      · cases h
        rfl
      · dsimp only at h
        split at h
        · cases h
        · exact ih h

/-- `decode_frame` fails in the one way that the receiver drops. -/
theorem decodeFrame_dropped {data : Bytes} {maxBodySize : ℤ} {e : ProtocolError}
    (h : decodeFrame data maxBodySize = .error e) : Dropped e := by
  unfold decodeFrame at h
  split at h
  · cases h
    rfl
  split at h
  · rename_i hvarint
    cases h
    exact varintLoop_dropped hvarint
  split at h
  · cases h
    rfl
  split at h
  · cases h
    rfl
  dsimp only at h
  split at h
  · cases h
    rfl
  split at h
  · cases h
    rfl
  · cases h

/-- A body with command 4. -/
theorem command_iff {body : Bytes} (h : minFrameBodySize ≤ body.length) :
    (bodyFrame body).command = GizwitsCommand.discoverResponse.value
      ↔ ∃ flag, body = flag :: 0x00 :: 0x04 :: body.drop 3 := by
  match body, h with
  | flag :: high :: low :: payload, _ =>
      have hspell : (bodyFrame (flag :: high :: low :: payload)).command
          = high.toNat * 256 + low.toNat := by
        show (0 * 256 + high.toNat) * 256 + low.toNat = _
        omega
      have hlow := low.toNat_lt
      rw [hspell]
      constructor
      · intro hcommand
        have h4 : high.toNat * 256 + low.toNat = 4 := hcommand
        have hhigh : high = 0x00 := UInt8.toNat_inj.mp (show high.toNat = 0 by omega)
        have hlow : low = 0x04 := UInt8.toNat_inj.mp (show low.toNat = 4 by omega)
        exact ⟨flag, by rw [hhigh, hlow]; rfl⟩
      · rintro ⟨_, hbody⟩
        simp only [List.cons.injEq] at hbody
        obtain ⟨_, rfl, rfl, _⟩ := hbody
        rfl

theorem parseDiscoveryResponse_dropped {address : String} {data : Bytes} {e : ProtocolError}
    (h : parseDiscoveryResponse address data = .error e) : Dropped e := by
  unfold parseDiscoveryResponse at h
  split at h
  · rename_i hframe
    cases h
    exact decodeFrame_dropped hframe
  · split at h
    · cases h
      rfl
    · exact (parsePayload_parses address).fails h

/-- **Exactly the answers are parsed, as the devices that they describe.** -/
theorem parseDiscoveryResponse_eq_ok {address : String} {data : Bytes}
    {device : DiscoveredDevice} : parseDiscoveryResponse address data = .ok device
      ↔ ∃ fields : DiscoveryFields, fields.WellFormed ∧ IsAnswer data fields
        ∧ device = fields.device address := by
  unfold parseDiscoveryResponse
  constructor
  · intro h
    split at h
    · cases h
    rename_i frame hframe
    split at h
    · cases h
    rename_i hcommand
    obtain ⟨length, body, hwire⟩ := decodeFrame_returns_iff.mp ⟨frame, hframe⟩
    rw [decodeFrame_isFrame hwire] at hframe
    cases hframe
    obtain ⟨fields, hwf, hpayload, hdevice⟩ := (parsePayload_parses address).returns_iff.mp h
    obtain ⟨flag, hbody⟩ := (command_iff hwire.body_min).mp (not_not.mp hcommand)
    rw [rest_start] at hpayload
    refine ⟨fields, hwf, ⟨length, flag, ?_⟩, hdevice⟩
    rw [← hpayload]
    exact hbody ▸ hwire
  · rintro ⟨fields, hwf, ⟨length, flag, hwire⟩, hdevice⟩
    have hcommand := (command_iff hwire.body_min).mpr ⟨flag, rfl⟩
    rw [decodeFrame_isFrame hwire]
    dsimp only
    rw [if_neg (not_not.mpr hcommand)]
    exact (parsePayload_parses address).returns_iff.mpr ⟨fields, hwf, rfl, hdevice⟩

/-- No other datagram raises anything else. -/
theorem parseDiscoveryResponse_refuses {address : String} {data : Bytes}
    (h : ¬ ∃ fields : DiscoveryFields, fields.WellFormed ∧ IsAnswer data fields) :
    ∃ e, parseDiscoveryResponse address data = .error e ∧ e.isDecodeError = true := by
  cases hparse : parseDiscoveryResponse address data with
  | error e => exact ⟨e, rfl, parseDiscoveryResponse_dropped hparse⟩
  | ok device =>
      obtain ⟨fields, hwf, hanswer, _⟩ := parseDiscoveryResponse_eq_ok.mp hparse
      exact absurd ⟨fields, hwf, hanswer⟩ h

/--
**The discovery parser accepts exactly its grammar, and fails in one way.**

A device is returned exactly for one frame with command 4 around the payload of
well-formed fields, and it is the device of these fields. Every other datagram raises
an error of decoding, so the receiver never raises: it stores the device of an answer
under its id and address, and leaves the devices alone otherwise.
-/
theorem discovery_parser_exact (address : String) (port : ℕ) (data : Bytes)
    (devices : Dict (String × String) DiscoveredDevice) :
    (∀ device, parseDiscoveryResponse address data = .ok device
        ↔ ∃ fields : DiscoveryFields, fields.WellFormed ∧ IsAnswer data fields
          ∧ device = fields.device address)
      ∧ ((¬ ∃ fields : DiscoveryFields, fields.WellFormed ∧ IsAnswer data fields) →
          (∃ e, parseDiscoveryResponse address data = .error e ∧ e.isDecodeError = true)
            ∧ datagramReceived data (address, port) devices = .ok devices)
      ∧ ∀ fields : DiscoveryFields, fields.WellFormed → IsAnswer data fields →
          datagramReceived data (address, port) devices
            = .ok (devices.set (asciiText fields.deviceId, address) (fields.device address)) := by
  refine ⟨fun device => parseDiscoveryResponse_eq_ok, fun hother => ?_, fun fields hwf hanswer => ?_⟩
  · obtain ⟨e, hparse, hdecode⟩ := @parseDiscoveryResponse_refuses address data hother
    refine ⟨⟨e, hparse, hdecode⟩, ?_⟩
    unfold datagramReceived
    rw [hparse]
    exact if_pos hdecode
  · have hparse := parseDiscoveryResponse_eq_ok.mpr
      ⟨fields, hwf, hanswer, @rfl _ (fields.device address)⟩
    unfold datagramReceived
    rw [hparse]
    rfl

/-- An answer with all of its fields. -/
def fullAnswer : DiscoveryFields where
  deviceId := [0x64, 0x65, 0x76, 0x31]
  mac := [0x00, 0x11, 0x22, 0xAA, 0xBB, 0xCC]
  wifiFirmware := [0x30, 0x34, 0x30, 0x32]
  productKey := [0x70, 0x6B, 0x30, 0x31]
  mcuAttributes := [1, 2, 3, 4, 5, 6, 7, 8]
  apiServer := [0x61, 0x70, 0x69, 0x3A, 0x38, 0x30]
  gizwitsVersion := [0x34, 0x2E, 0x31]
  extra := [0xFF]

/-- The datagram of it, byte by byte. -/
def fullDatagram : Bytes :=
  [0, 0, 0, 3, 49, 0, 0, 4] ++ [0, 4, 0x64, 0x65, 0x76, 0x31]
    ++ [0, 6, 0x00, 0x11, 0x22, 0xAA, 0xBB, 0xCC] ++ [0, 4, 0x30, 0x34, 0x30, 0x32]
    ++ [0, 4, 0x70, 0x6B, 0x30, 0x31] ++ [1, 2, 3, 4, 5, 6, 7, 8]
    ++ [0x61, 0x70, 0x69, 0x3A, 0x38, 0x30, 0] ++ [0x34, 0x2E, 0x31, 0] ++ [0xFF]

theorem discovery_parser_exact_fullAnswer :
    datagramReceived fullDatagram ("192.0.2.7", 12414) Dict.empty
      = .ok (Dict.empty.set ("dev1", "192.0.2.7") {
          address := "192.0.2.7", deviceId := "dev1", macAddress := some "00:11:22:aa:bb:cc",
          productKey := some "pk01", wifiFirmwareVersion := some "0402", apiServer := some "api:80",
          gizwitsVersion := some "4.1", mcuAttributesHex := "0102030405060708",
          extraHex := "ff" }) := by
  have hdevice := (discovery_parser_exact "192.0.2.7" 12414 fullDatagram Dict.empty).2.2 fullAnswer
    ⟨by decide, by decide, by decide, by decide, by decide, by decide, by decide⟩
    ⟨[49], 0, rfl, (by decide : (49 : UInt8).toNat < 128), by decide, by decide, by decide,
      by decide⟩
  exact hdevice

end JebaoFlow.Discovery
