import JebaoFlow.Groups.Models
import JebaoFlow.Protocol.Models

/-!
# Patterns

The eight implemented group patterns, in exact arithmetic. Each computes a
requested power per member and hands it to `memberTarget`, which applies the
member's gain, the limits and the rounding; `memberTargets` is the loop they
share.

The hash behind the random patterns and the sine behind the tidal one enter as a
`UnitSource`, of which only the range is known.
-/

namespace JebaoFlow

open PyFloat

/-- The pseudo-random units and the absolute sine, as arbitrary values in `[0, 1]`. -/
structure UnitSource where
  /-- `_stable_unit(seed, step)`. -/
  stableUnit : String → ℤ → ℚ
  /-- `abs(math.sin(turns * math.tau))`. -/
  absSin : ℚ → ℚ
  stableUnit_mem : ∀ seed step, 0 ≤ stableUnit seed step ∧ stableUnit seed step ≤ 1
  absSin_mem : ∀ turns, 0 ≤ absSin turns ∧ absSin turns ≤ 1

/-- Constant stand-ins for the hash and the sine. -/
def steadyUnits : UnitSource where
  stableUnit _ _ := 1 / 2
  absSin _ := 1 / 2
  stableUnit_mem _ _ := by norm_num
  absSin_mem _ := by norm_num

/-! ## Shared calculations -/

def isGroupEnabled (group : GroupConfig) (runtime : GroupRuntime) : Bool :=
  runtime.enabled.getD group.enabled

def effectiveLimits (group : GroupConfig) (runtime : GroupRuntime) : Except PyError PowerLimits :=
  PowerLimits.validate (runtime.minPower.getD group.default.minPower)
    (runtime.maxPower.getD group.default.maxPower)

def effectivePeriod (group : GroupConfig) (runtime : GroupRuntime) : PyFloat :=
  runtime.periodSeconds.getD group.default.periodSeconds

def effectivePower (group : GroupConfig) (runtime : GroupRuntime) : Percent :=
  runtime.power.getD group.default.power

def effectiveCeiling (group : GroupConfig) (runtime : GroupRuntime) (limits : PowerLimits) :
    Except PyError PyFloat :=
  clamp (fin (effectivePower group runtime).val) (fin limits.minPower.val)
    (fin limits.maxPower.val)

/-- A number in `[0, 1)`, a positive phase being a delay. -/
def cycleFraction (timestamp : PyFloat) (runtime : GroupRuntime) (period phaseDegrees : PyFloat) :
    PyFloat :=
  let elapsed := timestamp - runtime.startedAt
  (elapsed / period - phaseDegrees / fin 360).mod 1

def memberTarget (requestedPower : PyFloat) (member : GroupMember) (limits : PowerLimits)
    (groupEnabled : Bool) : Except PyError DeviceTarget := do
  let enabled := groupEnabled && member.enabled
  let power ← clampEnabledPower (requestedPower * member.gain) limits enabled
  DeviceTarget.validate enabled power

/-- The loop every pattern ends in: one target per member. -/
def memberTargets (requested : GroupMember → PyFloat) (members : List GroupMember)
    (limits : PowerLimits) (groupEnabled : Bool) : Except PyError (Dict String DeviceTarget) :=
  Dict.collect GroupMember.device
    (fun member => do
      let target ← memberTarget (requested member) member limits groupEnabled
      pure (some target))
    members Dict.empty

/-! ## The patterns -/

def ConstantPattern.calculate (_timestamp : PyFloat) (group : GroupConfig)
    (runtime : GroupRuntime) : Except PyError (Dict String DeviceTarget) := do
  let limits ← effectiveLimits group runtime
  let power := effectivePower group runtime
  memberTargets (fun _ => fin power.val) group.members limits (isGroupEnabled group runtime)

def SyncPattern.calculate (timestamp : PyFloat) (group : GroupConfig)
    (runtime : GroupRuntime) : Except PyError (Dict String DeviceTarget) := do
  let limits ← effectiveLimits group runtime
  let period := effectivePeriod group runtime
  let power := if (cycleFraction timestamp runtime period (fin 0)).lt (fin 0.5)
    then limits.maxPower else limits.minPower
  memberTargets (fun _ => fin power.val) group.members limits (isGroupEnabled group runtime)

def AntiPhasePattern.calculate (timestamp : PyFloat) (group : GroupConfig)
    (runtime : GroupRuntime) : Except PyError (Dict String DeviceTarget) := do
  let limits ← effectiveLimits group runtime
  let period := effectivePeriod group runtime
  let requested (member : GroupMember) : PyFloat :=
    if (cycleFraction timestamp runtime period member.phase).lt (fin 0.5)
    then fin limits.maxPower.val else fin limits.minPower.val
  memberTargets requested group.members limits (isGroupEnabled group runtime)

def GyrePattern.calculate (timestamp : PyFloat) (group : GroupConfig)
    (runtime : GroupRuntime) : Except PyError (Dict String DeviceTarget) := do
  let limits ← effectiveLimits group runtime
  let upper ← effectiveCeiling group runtime limits
  let period := effectivePeriod group runtime
  let requested (member : GroupMember) : PyFloat :=
    if (cycleFraction timestamp runtime period member.phase).lt (fin 0.5)
    then upper else fin limits.minPower.val
  memberTargets requested group.members limits (isGroupEnabled group runtime)

def NutrientTransportPattern.calculate (timestamp : PyFloat) (group : GroupConfig)
    (runtime : GroupRuntime) : Except PyError (Dict String DeviceTarget) := do
  let limits ← effectiveLimits group runtime
  let upper ← effectiveCeiling group runtime limits
  let period := effectivePeriod group runtime
  let lower : PyFloat := fin limits.minPower.val
  let fraction := ((timestamp - runtime.startedAt) / period).mod 1
  let requested (member : GroupMember) : PyFloat :=
    if fraction.lt (fin 0.5) then
      let waveFraction := (fraction * fin 8 - member.phase / fin 360).mod 1
      if waveFraction.lt (fin 0.5) then upper else lower
    else
      let surge := (fraction - fin 0.5) * fin 2
      lower + (upper - lower) * (fin 0.6 + fin 0.4 * surge)
  memberTargets requested group.members limits (isGroupEnabled group runtime)

def smoothstep (value : PyFloat) : PyFloat := value * value * (fin 3 - fin 2 * value)

def LagoonPattern.calculate (units : UnitSource) (timestamp : PyFloat) (group : GroupConfig)
    (runtime : GroupRuntime) : Except PyError (Dict String DeviceTarget) := do
  let limits ← effectiveLimits group runtime
  let ceiling ← effectiveCeiling group runtime limits
  let period := effectivePeriod group runtime
  let lower : PyFloat := fin limits.minPower.val
  let elapsedCycles := (timestamp - runtime.startedAt) / period
  let step ← elapsedCycles.floor
  let blend := smoothstep (elapsedCycles - fin step)
  let requested (member : GroupMember) : PyFloat :=
    let seed := "lagoon:" ++ group.id ++ ":" ++ member.device
    let start : PyFloat := fin (units.stableUnit seed step)
    let stop : PyFloat := fin (units.stableUnit seed (step + 1))
    let unit := start + (stop - start) * blend
    let gentleUnit := fin 0.15 + unit * fin 0.5
    lower + (ceiling - lower) * gentleUnit
  memberTargets requested group.members limits (isGroupEnabled group runtime)

def ReefCrestPattern.calculate (units : UnitSource) (timestamp : PyFloat) (group : GroupConfig)
    (runtime : GroupRuntime) : Except PyError (Dict String DeviceTarget) := do
  let limits ← effectiveLimits group runtime
  let ceiling ← effectiveCeiling group runtime limits
  let period := effectivePeriod group runtime
  let lower : PyFloat := fin limits.minPower.val
  let step ← ((timestamp - runtime.startedAt) / period).floor
  let requested (member : GroupMember) : PyFloat :=
    let unit := units.stableUnit ("reef-crest:" ++ group.id ++ ":" ++ member.device) step
    let energeticUnit := fin 0.35 + fin unit * fin 0.65
    lower + (ceiling - lower) * energeticUnit
  memberTargets requested group.members limits (isGroupEnabled group runtime)

/-- The tidal envelope. The sine is only reached below `0.4`, hence on a finite fraction. -/
def tidalIntensity (units : UnitSource) (fraction : PyFloat) : PyFloat :=
  if fraction.lt (fin 0.4) then
    match fraction with
    | fin q => fin 0.55 + fin 0.35 * fin (units.absSin (q * 5))
    | _ => nan
  else if fraction.lt (fin 0.7) then fin 0.3
  else if fraction.lt (fin 0.9) then fin 0.3 + (fraction - fin 0.7) / fin 0.2 * fin 0.7
  else fin 1

def TidalSwellPattern.calculate (units : UnitSource) (timestamp : PyFloat) (group : GroupConfig)
    (runtime : GroupRuntime) : Except PyError (Dict String DeviceTarget) := do
  let limits ← effectiveLimits group runtime
  let upper ← effectiveCeiling group runtime limits
  let period := effectivePeriod group runtime
  let lower : PyFloat := fin limits.minPower.val
  let elapsedCycles := (timestamp - runtime.startedAt) / period
  let cycle ← elapsedCycles.floor
  let fraction := elapsedCycles.mod 1
  let intensity := tidalIntensity units fraction
  let dominantSide := cycle % 2
  let requested (member : GroupMember) : PyFloat :=
    let memberSide : ℤ := if member.phase.lt (fin 180) then 0 else 1
    let dominance : PyFloat := if memberSide = dominantSide then fin 1 else fin 0.5
    let scaled := intensity * dominance
    lower + (upper - lower) * scaled
  memberTargets requested group.members limits (isGroupEnabled group runtime)

/-- `create_pattern(kind).calculate`: a kind without an implementation raises. -/
def createPattern (units : UnitSource) (kind : PatternKind) :
    Except PyError (PyFloat → GroupConfig → GroupRuntime →
      Except PyError (Dict String DeviceTarget)) :=
  match kind with
  | .constant => .ok ConstantPattern.calculate
  | .sync => .ok SyncPattern.calculate
  | .antiPhase => .ok AntiPhasePattern.calculate
  | .lagoon => .ok (LagoonPattern.calculate units)
  | .reefCrest => .ok (ReefCrestPattern.calculate units)
  | .gyre => .ok GyrePattern.calculate
  | .tidalSwell => .ok (TidalSwellPattern.calculate units)
  | .nutrientTransport => .ok NutrientTransportPattern.calculate
  | .sine => .error (.notImplementedError "pattern 'sine' is not implemented")
  | .randomReef => .error (.notImplementedError "pattern 'random_reef' is not implemented")
  | .tide => .error (.notImplementedError "pattern 'tide' is not implemented")
  | .native => .error (.notImplementedError "pattern 'native' is not implemented")

end JebaoFlow
