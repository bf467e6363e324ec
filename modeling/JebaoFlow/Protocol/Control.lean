import Mathlib.Data.Nat.Bitwise
import JebaoFlow.Protocol.Schema

/-!
# Control payloads

`build_control_payload` turns a mapping of datapoint names to requested values
into the bytes of one control frame: the action, the reversed flags of the
datapoints it carries, and their values in place.
-/

namespace JebaoFlow

open Bytes

/-- `CONTROL_ACTION`. -/
def controlAction : UInt8 := 0x01

/-- `value!r`, as far as messages show it. -/
def Value.repr : Value → String
  | .bool b => if b then "True" else "False"
  | .int i => toString i
  | .str s => s!"'{s}'"
  | .bytes b => toString b
  | .object o => o.repr

/-- The index of a label, or the error that lists the labels. -/
def Datapoint.labelIndex (datapoint : Datapoint) (label : String) : Except PyError ℕ :=
  match datapoint.enumValues.idxOf? label with
  | some index => .ok index
  | none =>
      let choices := String.intercalate ", " datapoint.enumValues
      .error (.valueError s!"{datapoint.name}: expected one of {choices}")

def encodeBitValue (datapoint : Datapoint) (requested : Value) : Except PyError ℤ :=
  match datapoint.dataType, requested with
  | .bool, .bool b => .ok (if b then 1 else 0)
  | .bool, _ => .error (.typeError s!"{datapoint.name}: expected a boolean")
  | .enum, .str label => (datapoint.labelIndex label).map Int.ofNat
  | .enum, .int i => .ok i
  | .enum, _ =>
      .error (.typeError s!"{datapoint.name}: expected an enum name or integer index")
  | _, .int i => .ok i
  | _, _ => .error (.typeError s!"{datapoint.name}: expected an integer")

/--
The number a request for a numeric datapoint stands for. A label stands for its
index. Text or bytes that `float` can read reach a datapoint without labels only
when `build_control_payload` is called directly; such a request is an `object` with
that number, and the text and bytes here are those that `float` cannot read.
-/
def requestedNumber (datapoint : Datapoint) (requested : Value) : Except PyError ℚ :=
  match requested with
  | .bool b => .ok (if b then 1 else 0)
  | .int i => .ok i
  | .str label =>
      if datapoint.enumValues ≠ [] then (datapoint.labelIndex label).map (fun index => (index : ℚ))
      else .error (.valueError s!"could not convert string to float: '{label}'")
  | .bytes _ => .error (.valueError "could not convert string to float")
  -- what `float` gives is rounded further on, and only finite numbers round
  | .object o => do
      match ← o.number with
      | .fin number => .ok number
      | .inf _ => .error (.overflowError "cannot convert float infinity to integer")
      | .nan => .error (.valueError "cannot convert float NaN to integer")

/-- The bytes of a numeric datapoint, `length` of them. -/
def encodeNumber (datapoint : Datapoint) (numeric : NumericSpec) (requested : Value) (length : ℕ) :
    Except PyError Bytes := do
  let number ← requestedNumber datapoint requested
  let unrounded := (number - numeric.addition) / numeric.ratio
  let rawValue := pyRound unrounded
  -- a value between two steps of the wire is refused, not rounded
  if 1 / 10 ^ 9 < |unrounded - rawValue| then
    .error (.valueError s!"{datapoint.name}: value {requested.repr} does not match its wire step")
  else if ¬ (numeric.minimum ≤ rawValue ∧ rawValue ≤ numeric.maximum) then
    .error (.valueError (s!"{datapoint.name}: value {requested.repr} is outside "
      ++ s!"{numeric.minimum}..{numeric.maximum}"))
  else if rawValue < 0 then .error (.overflowError "can't convert negative int to unsigned")
  else toBytesBig length rawValue.toNat

/-- `bytes(requested)`: a number asks for that many zero bytes. -/
def requestedBytes : Value → Except PyError Bytes
  | .bytes b => .ok b
  | .bool b => .ok (zeros (if b then 1 else 0))
  | .int i => if 0 ≤ i then .ok (zeros i.toNat) else .error (.valueError "negative count")
  | .str _ => .error (.typeError "string argument without an encoding")
  | .object o => o.bytes

/-- A bit group is rewritten as one big-endian integer, other bits one by one. -/
def placeBits (schema : ProductSchema) (destination : Bytes) (byteOffset bitOffset length : ℕ)
    (value : ℕ) : Except PyError Bytes :=
  if byteOffset = 0 ∧ 1 < schema.bitGroupWidth then do
    let width := schema.bitGroupWidth
    let group := fromBytesBig (destination.take width)
    let mask := ((1 <<< length) - 1) <<< bitOffset
    let written ← toBytesBig width (group.ldiff mask ||| ((value <<< bitOffset) &&& mask))
    pure (patch destination 0 width written)
  else
    .ok ((List.range length).foldl (fun bytes index =>
      setBit bytes (byteOffset + (bitOffset + index) / 8) ((bitOffset + index) % 8)
        (value.testBit index)) destination)

def placeValue (schema : ProductSchema) (destination : Bytes) (datapoint : Datapoint)
    (requested : Value) : Except PyError Bytes :=
  let position := datapoint.position
  match position.unit with
  | .bit => do
      let rawValue ← encodeBitValue datapoint requested
      let maximum : ℤ := (1 <<< position.length : ℕ) - 1
      if 0 ≤ rawValue ∧ rawValue ≤ maximum then
        placeBits schema destination position.byteOffset position.bitOffset position.length
          rawValue.toNat
      else
        .error (.valueError s!"{datapoint.name}: value {rawValue} is outside 0..{maximum}")
  | .byte =>
      match datapoint.dataType with
      | .binary => do
          let rawBytes ← requestedBytes requested
          if rawBytes.length ≠ position.length then
            .error (.valueError (s!"{datapoint.name}: expected {position.length} bytes, "
              ++ s!"got {rawBytes.length}"))
          else pure (patch destination position.byteOffset position.length rawBytes)
      | .bool => .error (.valueError "writing 'bool' is not implemented")
      | .enum => .error (.valueError "writing 'enum' is not implemented")
      | _ =>
          match datapoint.numeric with
          | none => .error (.assertionError "numeric datapoint is missing its specification")
          | some numeric => do
              let rawBytes ← encodeNumber datapoint numeric requested position.length
              pure (patch destination position.byteOffset position.length rawBytes)

/-- The loop over the requested changes, on the flag and value buffers. -/
def placeChanges (schema : ProductSchema) :
    List (String × Value) → Bytes × Bytes → Except PyError (Bytes × Bytes)
  | [], buffers => .ok buffers
  | (name, requested) :: changes, (flags, values) => do
      let datapoint ← schema.byName name
      if ¬ datapoint.isWritable then
        .error (.valueError s!"datapoint '{name}' is not writable")
      else
        let values ← placeValue schema values datapoint requested
        placeChanges schema changes (setBit flags (datapoint.id / 8) (datapoint.id % 8) true, values)

def buildControlPayload (schema : ProductSchema) (changes : Dict String Value) :
    Except PyError Bytes :=
  if ¬ schema.controlSupported then
    .error (.valueError s!"control is not enabled for product {schema.productKey}")
  else if changes.entries = [] then
    .error (.valueError "at least one datapoint change is required")
  else do
    let (flags, values) ← placeChanges schema changes.entries
      (zeros schema.attributeFlagsSize, zeros schema.attributeValuesSize)
    pure (controlAction :: flags.reverse ++ values)

end JebaoFlow
