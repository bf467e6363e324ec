import JebaoFlow.Lib.Bytes
import JebaoFlow.Lib.Dict

/-!
# Product datapoint schemas

The datapoints of a product, where each one sits in the status buffer, and the
strict decoding of a status buffer into values. The validators of the schema
classes are fields.
-/

namespace JebaoFlow

open Bytes

/-- Any other object a caller may pass, by what the built-in functions make of it. -/
structure PyObject where
  repr : String
  /-- `float(x)`. -/
  number : Except PyError PyFloat
  /-- `bytes(x)`. -/
  bytes : Except PyError Bytes
  /-- The number it equals, if it equals one. -/
  equals : Option ℚ
  deriving DecidableEq

/-- What a datapoint decodes to and what a request asks for. -/
inductive Value
  | bool (b : Bool)
  | int (i : ℤ)
  | str (s : String)
  | bytes (b : Bytes)
  | object (o : PyObject)
  deriving DecidableEq

/-- The number a value counts as, a switch as `0` or `1`, or the value itself. -/
def Value.key : Value → ℚ ⊕ Value
  | .bool b => .inl (if b then 1 else 0)
  | .int i => .inl i
  | .object o => match o.equals with
      | some q => .inl q
      | none => .inr (.object o)
  | v => .inr v

/-- `a == b`. -/
def Value.eq (a b : Value) : Bool := decide (a.key = b.key)

theorem Value.eq_refl (a : Value) : a.eq a = true := decide_eq_true rfl

theorem Value.eq_trans {a b c : Value} (hab : a.eq b = true) (hbc : b.eq c = true) :
    a.eq c = true :=
  decide_eq_true ((of_decide_eq_true hab).trans (of_decide_eq_true hbc))

inductive DataType
  | bool | enum | uint8 | uint16 | binary
  deriving DecidableEq, Repr

inductive DatapointKind
  | writable | readOnly | fault | alert
  deriving DecidableEq, Repr

inductive PositionUnit
  | bit | byte
  deriving DecidableEq, Repr

structure Position where
  byteOffset : ℕ
  bitOffset : ℕ := 0
  length : ℕ := 1
  unit : PositionUnit := .byte
  length_pos : 0 < length := by decide

/-- The numeric range of a datapoint; every product uses an integral offset and ratio. -/
structure NumericSpec where
  minimum : ℤ
  maximum : ℤ
  addition : ℤ := 0
  ratio : ℤ := 1
  range : minimum ≤ maximum := by decide
  ratio_ne : ratio ≠ 0 := by decide

structure Datapoint where
  id : ℕ
  name : String
  dataType : DataType
  kind : DatapointKind
  position : Position
  enumValues : List String := []
  numeric : Option NumericSpec := none
  name_ne : name ≠ "" := by decide
  enum_values : dataType = .enum → enumValues ≠ [] := by decide
  numeric_spec : dataType = .uint8 ∨ dataType = .uint16 → numeric.isSome = true := by decide

def Datapoint.isWritable (datapoint : Datapoint) : Bool := datapoint.kind = .writable

/-- The first byte behind a position. -/
def Position.stop (position : Position) : ℕ :=
  position.byteOffset + match position.unit with
    | .byte => position.length
    | .bit => (position.bitOffset + position.length + 7) / 8

/--
The operational datapoints of one product. The flag and value sizes are those of
the complete vendor schema, so frames come out in full length.
-/
structure ProductSchema where
  name : String
  productKey : String
  rawStatusSize : ℕ
  attributeFlagsSize : ℕ
  attributeValuesSize : ℕ
  bitGroupWidth : ℕ
  attributes : List Datapoint
  enabledAttribute : Option String := none
  powerAttribute : Option String := none
  modeAttribute : Option String := none
  frequencyAttribute : Option String := none
  controlSupported : Bool := true
  ids_unique : (attributes.map Datapoint.id).Nodup
  names_unique : (attributes.map Datapoint.name).Nodup
  logical_known : ∀ logical ∈ [enabledAttribute, powerAttribute, modeAttribute,
    frequencyAttribute], ∀ n ∈ logical, n ∈ attributes.map Datapoint.name
  within_status : ∀ a ∈ attributes, a.position.stop ≤ rawStatusSize
  within_control : ∀ a ∈ attributes, a.isWritable = true →
    a.id < attributeFlagsSize * 8 ∧ a.position.stop ≤ attributeValuesSize

namespace ProductSchema

variable (schema : ProductSchema)

def byName (name : String) : Except PyError Datapoint :=
  match schema.attributes.find? (fun a => a.name = name) with
  | some datapoint => .ok datapoint
  | none => .error (.keyError s!"product {schema.productKey} has no datapoint '{name}'")

/-- A bit group is read as one big-endian integer, other bits one by one. -/
def readBits (raw : Bytes) (position : Position) : ℕ :=
  if position.byteOffset = 0 ∧ 1 < schema.bitGroupWidth then
    (fromBytesBig (raw.take schema.bitGroupWidth) >>> position.bitOffset)
      &&& ((1 <<< position.length) - 1)
  else
    (List.range position.length).foldl (fun value index => value |||
      (if bit raw (position.byteOffset * 8 + position.bitOffset + index) then 1 <<< index else 0)) 0

def decodeAttribute (raw : Bytes) (datapoint : Datapoint) : Except PyError Value :=
  let position := datapoint.position
  match position.unit with
  | .bit =>
      let value := schema.readBits raw position
      match datapoint.dataType with
      | .bool => .ok (.bool (value != 0))
      | .enum => .ok ((datapoint.enumValues[value]?.map Value.str).getD (.int value))
      | _ => .ok (.int value)
  | .byte =>
      let chunk := slice raw position.byteOffset position.length
      if datapoint.dataType = .binary then .ok (.bytes chunk)
      else if datapoint.dataType = .bool ∨ datapoint.dataType = .enum then
        .error (.valueError "unsupported byte datapoint type")
      else
        match datapoint.numeric with
        | none => .error (.assertionError "numeric datapoint is missing its specification")
        | some numeric =>
            let rawValue := fromBytesBig chunk
            .ok ((datapoint.enumValues[rawValue]?.map Value.str).getD
              (.int (rawValue * numeric.ratio + numeric.addition)))

/-- Decode a status buffer of exactly the product's size. -/
def decodeStatus (raw : Bytes) : Except PyError (Dict String Value) :=
  if raw.length ≠ schema.rawStatusSize then
    .error (.valueError
      s!"{schema.name} status must be {schema.rawStatusSize} bytes, got {raw.length}")
  else
    Dict.collect Datapoint.name (fun datapoint => (schema.decodeAttribute raw datapoint).map some)
      schema.attributes Dict.empty

end ProductSchema

end JebaoFlow
