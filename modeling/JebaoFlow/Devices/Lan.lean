import JebaoFlow.Protocol.Control
import JebaoFlow.Protocol.Models
import JebaoFlow.Protocol.Profiles

/-!
# The LAN device adapter

`LanJebaoDevice`: targets become verified writes of one physical pump. A write is
built into a control frame, handed to the session, and read back until a status
payload shows it; a write whose values were all verified before is suppressed.

The session, the clock and the pump answer as they like. What they answer during
one call is an argument of the call, and what went over the session is kept in
the state next to the adapter's own two fields.
-/

namespace JebaoFlow

/-- What a call of the adapter raises. -/
inductive LanError
  | python (error : PyError)
  | unsupportedCapability (message : String)
  | hardwareWritesDisabled (message : String)
  /-- The control did not take: expected and actual value of every mismatch. -/
  | stateVerification (deviceId : String) (mismatches : List (String × Value × Option Value))
  /-- Whatever a session call or a cancelled sleep raised. -/
  | session (message : String)
  deriving DecidableEq

inductive Capability
  | power | enabled | mode | frequency | error
  deriving DecidableEq, Repr

def Capability.value : Capability → String
  | .power => "power"
  | .enabled => "enabled"
  | .mode => "mode"
  | .frequency => "frequency"
  | .error => "error"

/-- The constructor's arguments, as far as writing and reading depend on them. -/
structure LanJebaoDevice where
  deviceId : String
  schema : ProductSchema
  powerLimits : PowerLimits
  powerStep : ℕ := 1
  minimumCommandIntervalMs : ℕ := 1000
  readbackAttempts : ℕ := 3
  allowHardwareWrites : Bool := false
  known : schema ∈ knownSchemas
  id_ne : deviceId ≠ "" := by decide
  step_range : 1 ≤ powerStep ∧ powerStep ≤ 100 := by decide
  interval_ge : 100 ≤ minimumCommandIntervalMs := by decide
  attempts_pos : 1 ≤ readbackAttempts := by decide

/-! The defaults of the constructor pass its checks. -/

theorem LanJebaoDevice.step_default : 1 ≤ 1 ∧ 1 ≤ 100 := by decide

theorem LanJebaoDevice.interval_default : 100 ≤ 1000 := by decide

theorem LanJebaoDevice.attempts_default : 1 ≤ 3 := by decide

/-- Something that went over the session. -/
inductive SessionEvent
  /-- A control frame handed to `send_raw_control`, with the changes it was built from. -/
  | control (changes : Dict String Value) (payload : Bytes) (startedAt : ℚ)
  /-- A status payload `read_raw_state` returned. -/
  | status (raw : Bytes)

structure LanState where
  lastCommandAt : Option ℚ := none
  lastSentValues : Dict String Value := Dict.empty
  /-- What went over the session so far, newest first. -/
  history : List SessionEvent := []

namespace LanState

/-- The changes of the control frames handed over so far, newest first. -/
def frames (s : LanState) : List (Dict String Value) :=
  s.history.filterMap (fun event => match event with
    | .control changes _ _ => some changes
    | .status _ => none)

/-- The value the newest frame carrying the datapoint carried. -/
def lastCarried (s : LanState) (name : String) : Option Value :=
  s.frames.findSome? (fun changes => changes.get? name)

/-- The newest status payload read. -/
def lastStatus (s : LanState) : Option Bytes :=
  s.history.findSome? (fun event => match event with
    | .control _ _ _ => none
    | .status raw => some raw)

end LanState

/-- What the session, the clock and the pump answer during one write call. -/
structure WriteIo where
  /-- `loop.time()` when the command interval is checked. -/
  checkedAt : ℚ
  /-- The sleep for the rest of the interval, when there is one. -/
  waited : Except LanError Unit
  /-- The moment the frame is handed over. -/
  startedAt : ℚ
  sent : Except LanError Unit
  /-- `loop.time()` after the frame. -/
  finishedAt : ℚ
  /-- The status read of each read-back attempt, its delay included. -/
  read : ℕ → Except LanError Bytes

/-- `all(values.get(name) == expected for name, expected in changes.items())`. -/
def shows (values changes : Dict String Value) : Bool :=
  changes.entries.all (fun e => (values.get? e.1).any (fun value => value.eq e.2))

/-- A dictionary with one entry. -/
def single (name : String) (value : Value) : Dict String Value := Dict.empty.set name value

/-! ## Sessions -/

def LanState.connect (connected authenticated : Except LanError Unit) (s : LanState) :
    Except LanError Unit × LanState :=
  match connected with
  | .error e => (.error e, s)
  | .ok () =>
    match authenticated with
    | .error e => (.error e, s)
    -- a new connection knows of no command, however recent
    | .ok () => (.ok (), { s with lastCommandAt := none, lastSentValues := Dict.empty })

def LanState.disconnect (disconnected : Except LanError Unit) (s : LanState) :
    Except LanError Unit × LanState :=
  match disconnected with
  | .error e => (.error e, s)
  | .ok () => (.ok (), { s with lastCommandAt := none, lastSentValues := Dict.empty })

namespace LanJebaoDevice

variable (dev : LanJebaoDevice)

/--
`_read_values`, and the part of `get_state` that touches the session: what
`get_state` makes of the values changes nothing.
-/
def readValues (raw : Except LanError Bytes) (s : LanState) :
    Except LanError (Dict String Value) × LanState :=
  match raw with
  | .error e => (.error e, s)
  | .ok raw =>
    let s := { s with history := .status raw :: s.history }
    match dev.schema.decodeStatus raw with
    | .error e => (.error (.python e), s)
    | .ok values => (.ok values, s)

/-! ## Writing -/

def respectCommandInterval (io : WriteIo) (s : LanState) : Except LanError Unit :=
  match s.lastCommandAt with
  | none => .ok ()
  | some lastCommandAt =>
      let elapsed := io.checkedAt - lastCommandAt
      let remaining := (dev.minimumCommandIntervalMs : ℚ) / 1000 - elapsed
      if 0 < remaining then io.waited else .ok ()

/-- The entries of `changes` the values do not show. -/
def mismatches (values changes : Dict String Value) : List (String × Value × Option Value) :=
  (changes.entries.filter (fun e => !(values.get? e.1).any (fun value => value.eq e.2))).map
    (fun e => (e.1, e.2, values.get? e.1))

/-- The read-back loop, from an attempt on, with the number of attempts left. -/
def readBack (changes : Dict String Value) (read : ℕ → Except LanError Bytes) :
    ℕ → ℕ → LanState → Except LanError Unit × LanState
  | _, 0, s => (.ok (), s)
  | attempt, left + 1, s =>
    match dev.readValues (read attempt) s with
    | (.error e, s) => (.error e, s)
    | (.ok values, s) =>
      if shows values changes then
        (.ok (), { s with
          lastSentValues := Dict.setAll Prod.fst Prod.snd changes.entries s.lastSentValues })
      else if attempt + 1 = dev.readbackAttempts then
        (.error (.stateVerification dev.deviceId (mismatches values changes)), s)
      else readBack changes read (attempt + 1) left s

def applyChanges (changes : Dict String Value) (io : WriteIo) (s : LanState) :
    Except LanError Unit × LanState :=
  if ¬ dev.allowHardwareWrites then
    (.error (.hardwareWritesDisabled
      s!"hardware writes are locked for {dev.deviceId}; review preview_target first"), s)
  else
    match buildControlPayload dev.schema changes with
    | .error e => (.error (.python e), s)
    | .ok payload =>
      -- suppressed when every value is the one last verified under its name
      if shows s.lastSentValues changes then (.ok (), s)
      else
        match dev.respectCommandInterval io s with
        | .error e => (.error e, s)
        | .ok () =>
          -- from here the frame counts as sent, acknowledged or not
          let s := { s with history := .control changes payload io.startedAt :: s.history }
          match io.sent with
          | .error e => (.error e, s)
          | .ok () =>
            -- only an acknowledgement starts the interval
            dev.readBack changes io.read 0 dev.readbackAttempts
              { s with lastCommandAt := some io.finishedAt }

/-! ## What each call asks for -/

def requireLogicalAttribute (capability : Capability) : Except LanError String :=
  let named := match capability with
    | .enabled => dev.schema.enabledAttribute
    | .power => dev.schema.powerAttribute
    | .mode => dev.schema.modeAttribute
    | .frequency => dev.schema.frequencyAttribute
    | .error => none
  match named with
  | some name => .ok name
  | none =>
      .error (.unsupportedCapability s!"{dev.schema.name} does not expose {capability.value}")

def validatePower (power : ℤ) : Except LanError Unit :=
  if ¬ ((dev.powerLimits.minPower.val : ℤ) ≤ power ∧ power ≤ dev.powerLimits.maxPower.val) then
    .error (.python (.valueError (s!"power {power} is outside configured range "
      ++ s!"{dev.powerLimits.minPower.val}..{dev.powerLimits.maxPower.val}")))
  else if power % dev.powerStep ≠ 0 then
    .error (.python (.valueError s!"power {power} does not match step {dev.powerStep}"))
  else .ok ()

/-- The mode attribute, when its numbers have names. -/
def mappedModeAttribute : Except LanError String := do
  let name ← dev.requireLogicalAttribute .mode
  match dev.schema.byName name with
  | .error e => .error (.python e)
  | .ok datapoint =>
      if datapoint.dataType ≠ .enum ∧ datapoint.enumValues = [] then
        .error (.unsupportedCapability
          s!"{dev.schema.name} mode numbers have not been mapped safely")
      else .ok name

def enabledChanges (enabled : Bool) : Except LanError (Dict String Value) := do
  let name ← dev.requireLogicalAttribute .enabled
  pure (single name (.bool enabled))

def powerChanges (power : ℤ) : Except LanError (Dict String Value) := do
  dev.validatePower power
  let name ← dev.requireLogicalAttribute .power
  pure (single name (.int power))

def modeChanges (mode : String) : Except LanError (Dict String Value) := do
  let name ← dev.mappedModeAttribute
  pure (single name (.str mode))

def frequencyChanges (value : ℤ) : Except LanError (Dict String Value) :=
  if ¬ (0 ≤ value ∧ value ≤ 100) then
    .error (.python (.valueError "frequency must be an integer between 0 and 100"))
  else do
    let name ← dev.requireLogicalAttribute .frequency
    pure (single name (.int value))

/-- The mode entry of a target that names a mode. -/
def addMode (mode : Option String) (changes : Dict String Value) :
    Except LanError (Dict String Value) :=
  match mode with
  | none => .ok changes
  | some mode => do
      let name ← dev.mappedModeAttribute
      pure (changes.set name (.str mode))

/-- The frequency entry; the range check of the source never fires on a validated target. -/
def addFrequency (frequency : Option Percent) (changes : Dict String Value) :
    Except LanError (Dict String Value) :=
  match frequency with
  | none => .ok changes
  | some frequency => do
      let name ← dev.requireLogicalAttribute .frequency
      pure (changes.set name (.int frequency.val))

/-- `_target_changes`: a disabled target only switches off. -/
def targetChanges (target : DeviceTarget) : Except LanError (Dict String Value) := do
  let enabledName ← dev.requireLogicalAttribute .enabled
  let changes := single enabledName (.bool target.enabled)
  if ¬ target.enabled then pure changes
  else do
    dev.validatePower target.power.val
    let powerName ← dev.requireLogicalAttribute .power
    let changes ← dev.addMode target.mode (changes.set powerName (.int target.power.val))
    dev.addFrequency target.frequency changes

end LanJebaoDevice

structure ControlPlan where
  productKey : String
  changes : Dict String Value
  payload : Bytes

namespace LanJebaoDevice

variable (dev : LanJebaoDevice)

/-- `preview_target`: the frame a target would be written with, and nothing goes out. -/
def previewTarget (target : DeviceTarget) : Except LanError ControlPlan := do
  let changes ← dev.targetChanges target
  match buildControlPayload dev.schema changes with
  | .error e => .error (.python e)
  | .ok payload => pure { productKey := dev.schema.productKey, changes, payload }

/-- Apply the changes, unless asking for them raised. -/
def write (changes : Except LanError (Dict String Value)) (io : WriteIo) (s : LanState) :
    Except LanError Unit × LanState :=
  match changes with
  | .error e => (.error e, s)
  | .ok changes => dev.applyChanges changes io s

def setEnabled (enabled : Bool) := dev.write (dev.enabledChanges enabled)

def setPower (power : ℤ) := dev.write (dev.powerChanges power)

def setMode (mode : String) := dev.write (dev.modeChanges mode)

def setFrequency (value : ℤ) := dev.write (dev.frequencyChanges value)

def writeTarget (target : DeviceTarget) := dev.write (dev.targetChanges target)

end LanJebaoDevice

/-! ## Runs -/

/-- A write call with its argument. -/
inductive WriteCall
  | setEnabled (enabled : Bool)
  | setPower (power : ℤ)
  | setMode (mode : String)
  | setFrequency (value : ℤ)
  | writeTarget (target : DeviceTarget)

/-- The changes the call asks for. -/
def WriteCall.changes (dev : LanJebaoDevice) : WriteCall → Except LanError (Dict String Value)
  | .setEnabled enabled => dev.enabledChanges enabled
  | .setPower power => dev.powerChanges power
  | .setMode mode => dev.modeChanges mode
  | .setFrequency value => dev.frequencyChanges value
  | .writeTarget target => dev.targetChanges target

def WriteCall.run (dev : LanJebaoDevice) :
    WriteCall → WriteIo → LanState → Except LanError Unit × LanState
  | .setEnabled enabled => dev.setEnabled enabled
  | .setPower power => dev.setPower power
  | .setMode mode => dev.setMode mode
  | .setFrequency value => dev.setFrequency value
  | .writeTarget target => dev.writeTarget target

/-- One call of the adapter with what its environment answers. -/
inductive LanOp
  | connect (connected authenticated : Except LanError Unit)
  | disconnect (disconnected : Except LanError Unit)
  | getState (raw : Except LanError Bytes)
  | write (call : WriteCall) (io : WriteIo)

/-- The state after the call, whether it returned or raised. -/
def lanStep (dev : LanJebaoDevice) (s : LanState) : LanOp → LanState
  | .connect connected authenticated => (s.connect connected authenticated).2
  | .disconnect disconnected => (s.disconnect disconnected).2
  | .getState raw => (dev.readValues raw s).2
  | .write call io => (call.run dev io s).2

/-! ## Arguments of any type -/

/-- An argument as it is passed, whatever the annotation asks for. -/
inductive Argument
  | bool (b : Bool)
  | int (i : ℤ)
  | str (s : String)
  /-- A float, bytes, `None` or whatever else. -/
  | object (o : PyObject)
  deriving DecidableEq

def Argument.value : Argument → Value
  | .bool b => .bool b
  | .int i => .int i
  | .str s => .str s
  | .object o => .object o

/-- A write call with the argument as it is passed; a target has been validated. -/
inductive WriteRequest
  | setEnabled (enabled : Argument)
  | setPower (power : Argument)
  | setMode (mode : Argument)
  | setFrequency (value : Argument)
  | writeTarget (target : DeviceTarget)

/-- The changes the call asks for: numbers are checked to be numbers. -/
def WriteRequest.changes (dev : LanJebaoDevice) :
    WriteRequest → Except LanError (Dict String Value)
  -- what is no boolean is left to the encoder
  | .setEnabled enabled => do
      let name ← dev.requireLogicalAttribute .enabled
      pure (single name enabled.value)
  | .setPower (.int power) => dev.powerChanges power
  | .setPower _ => .error (.python (.typeError "power must be an integer"))
  | .setMode mode => do
      let name ← dev.mappedModeAttribute
      pure (single name mode.value)
  | .setFrequency (.int value) => dev.frequencyChanges value
  | .setFrequency _ =>
      .error (.python (.valueError "frequency must be an integer between 0 and 100"))
  | .writeTarget target => dev.targetChanges target

/-- One call of the public interface with what its environment answers. -/
inductive AdapterOp
  | connect (connected authenticated : Except LanError Unit)
  | disconnect (disconnected : Except LanError Unit)
  | getState (raw : Except LanError Bytes)
  | previewTarget (target : DeviceTarget)
  | write (request : WriteRequest) (io : WriteIo)

/-- The state after the call, whether it returned or raised. -/
def adapterStep (dev : LanJebaoDevice) (s : LanState) : AdapterOp → LanState
  | .connect connected authenticated => (s.connect connected authenticated).2
  | .disconnect disconnected => (s.disconnect disconnected).2
  | .getState raw => (dev.readValues raw s).2
  | .previewTarget _ => s
  | .write request io => (dev.write (request.changes dev) io s).2

/-- The request behind a write call with an argument of the annotated type. -/
def WriteCall.request : WriteCall → WriteRequest
  | .setEnabled enabled => .setEnabled (.bool enabled)
  | .setPower power => .setPower (.int power)
  | .setMode mode => .setMode (.str mode)
  | .setFrequency value => .setFrequency (.int value)
  | .writeTarget target => .writeTarget target

/-- The same call on the public interface. -/
def LanOp.adapterOp : LanOp → AdapterOp
  | .connect connected authenticated => .connect connected authenticated
  | .disconnect disconnected => .disconnect disconnected
  | .getState raw => .getState raw
  | .write call io => .write call.request io

end JebaoFlow
