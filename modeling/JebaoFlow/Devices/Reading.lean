import JebaoFlow.Devices.Lan
import JebaoFlow.Protocol.Schedule

/-!
# Reading the state of a pump

`get_state` reads one status buffer and turns its datapoints and its schedule into a
`DeviceState`. Modes the product does not name and slots that make no sense are
represented; power and frequency go into fields with a range.
-/

namespace JebaoFlow

/-- `is_problem`. -/
def Datapoint.isProblem (datapoint : Datapoint) : Bool :=
  datapoint.kind = .fault ∨ datapoint.kind = .alert

/-- `bool(value)`; other objects are not decoded from a buffer, and count as true. -/
def Value.truthy : Value → Bool
  | .bool b => b
  | .int i => i ≠ 0
  | .str s => s ≠ ""
  | .bytes b => b ≠ []
  | .object _ => true

/-- `float(value)`. -/
def Value.toFloat : Value → Except PyError PyFloat
  | .bool b => .ok (.fin (if b then 1 else 0))
  | .int i => .ok (.fin i)
  | .str s => .error (.valueError s!"could not convert string to float: '{s}'")
  | .bytes _ => .error (.valueError "could not convert string to float")
  | .object o => o.number

/-- The validator of one value of `DeviceState.observed_attributes`. -/
def Value.toScalar : Value → Except PyError Scalar
  | .bool b => .ok (.bool b)
  | .int i => .ok (.int i)
  | .str s => .ok (.str s)
  | _ => .error (.validationError "observed_attributes: Input should be a valid boolean")

/-- The range of the percentages of a `DeviceState`. -/
def percentOf (name : String) (value : ℤ) : Except PyError Percent :=
  if h : 0 ≤ value ∧ value ≤ 100 then .ok ⟨value.toNat, percent_toNat h⟩
  else .error (.validationError s!"{name}: Input should be between 0 and 100")

def ProductSchema.activeProblems (schema : ProductSchema) (values : Dict String Value) :
    List String :=
  (schema.attributes.filter
    (fun a => a.isProblem && (values.get? a.name).any Value.truthy)).map Datapoint.name

/-- The datapoints that are reported next to the logical ones. -/
def isObserved (name : String) : Bool :=
  ["Timer", "Auto", "Feed", "Interval"].any (fun start => start.toList.isPrefixOf name.toList)
    || ["PulseTide", "Linkage", "Cust_Wav_Freq", "channe1", "channe2", "channe3", "channe4"].contains
      name

namespace LanJebaoDevice

variable (dev : LanJebaoDevice)

/-- `values.get(logical)`; a product without that attribute has no value for it. -/
def logicalValue (values : Dict String Value) (logical : Option String) : Option Value :=
  logical.bind values.get?

def toDeviceState (values : Dict String Value) (schedule : Option DeviceSchedule)
    (observedAt : Datetime) : Except PyError DeviceState := do
  let enabled := (logicalValue values dev.schema.enabledAttribute).any Value.truthy
  let power ← (← ((logicalValue values dev.schema.powerAttribute).getD (.int 0)).toFloat).round
  let mode := match (logicalValue values dev.schema.modeAttribute).getD (.str "unknown") with
    | .str mode => mode
    | other => s!"raw_{other.repr}"
  let frequency ← (logicalValue values dev.schema.frequencyAttribute).mapM
    (fun value => do (← value.toFloat).round)
  let problems := dev.schema.activeProblems values
  let power ← percentOf "power" power
  let frequency ← frequency.mapM (percentOf "frequency")
  let observedAttributes ← Dict.collect Prod.fst (fun e => e.2.toScalar.map some)
    (values.entries.filter (fun e => isObserved e.1)) Dict.empty
  pure {
    enabled
    power
    mode
    frequency
    error := if problems = [] then none else some (String.intercalate ", " problems)
    schedule
    observedAttributes
    observedAt
  }

/-- What `get_state` makes of the values of a status buffer. -/
def stateOf (raw : Bytes) (values : Dict String Value) (observedAt : Datetime) :
    Except PyError DeviceState := do
  let schedule ← decodeSchedule dev.schema.productKey raw ((values.get? "TimerON").any Value.truthy)
  dev.toDeviceState values schedule observedAt

def getState (raw : Except LanError Bytes) (observedAt : Datetime) (s : LanState) :
    Except LanError DeviceState × LanState :=
  match raw with
  | .error e => (.error e, s)
  | .ok raw =>
    match dev.readValues (.ok raw) s with
    | (.error e, s) => (.error e, s)
    | (.ok values, s) =>
      match dev.stateOf raw values observedAt with
      | .error e => (.error (.python e), s)
      | .ok state => (.ok state, s)

end LanJebaoDevice

end JebaoFlow
