import JebaoFlow.Safety.Limits

/-!
# Configuration and runtime models of pump groups

A value of these structures is one the validators accept: the checks are fields.
No NaN passes the check of a bound.
-/

namespace JebaoFlow

open PyFloat

/-- The identifier pattern `^[a-z][a-z0-9_]*$`. -/
def isIdentifier (s : String) : Bool :=
  match s.toList with
  | [] => false
  | c :: cs => ('a' ≤ c && c ≤ 'z')
      && cs.all (fun d => ('a' ≤ d && d ≤ 'z') || ('0' ≤ d && d ≤ '9') || d == '_')

inductive PatternKind
  | constant | sync | antiPhase | lagoon | reefCrest | gyre | tidalSwell | nutrientTransport
  | sine | randomReef | tide | native
  deriving DecidableEq, Repr

inductive GroupState
  | stopped | starting | running | feeding | maintenance | degraded | error | emergencyStop
  deriving DecidableEq, Repr

inductive GroupMemberRole
  | left | right | crossflow | support
  deriving DecidableEq, Repr

structure GroupMember where
  device : String
  role : GroupMemberRole := .support
  gain : PyFloat := fin 1
  phase : PyFloat := fin 0
  enabled : Bool := true
  gain_gt : (fin 0).lt gain = true := by decide +kernel
  gain_le : gain.le (fin 10) = true := by decide +kernel
  phase_ge : (fin 0).le phase = true := by decide +kernel
  phase_lt : phase.lt (fin 360) = true := by decide +kernel

/-- A member that is configured by its device alone. -/
def GroupMember.plain (device : String) : GroupMember := { device }

structure GroupDefaults extends PowerLimits where
  pattern : PatternKind := .constant
  power : Percent := ⟨50, by decide⟩
  periodSeconds : PyFloat := fin 10
  transitionSeconds : PyFloat := fin 0
  period_gt : (fin 0).lt periodSeconds = true := by decide +kernel
  transition_ge : (fin 0).le transitionSeconds = true := by decide +kernel

/-- The defaults of a group that is configured by its limits alone. -/
def GroupDefaults.within (limits : PowerLimits) : GroupDefaults := { limits with }

structure GroupConfig where
  id : String
  name : String
  enabled : Bool := true
  members : List GroupMember
  default : GroupDefaults
  id_ok : isIdentifier id = true := by decide
  name_ne : name ≠ "" := by decide
  members_ne : members ≠ [] := by decide
  members_unique : (members.map GroupMember.device).Nodup := by decide

/-- The devices of a group, in configuration order. -/
def GroupConfig.deviceIds (group : GroupConfig) : List String :=
  group.members.map GroupMember.device

/-- Desired inputs captured for one calculation. An absent value falls back to the group's own. -/
structure GroupRuntime where
  state : GroupState := .stopped
  enabled : Option Bool := none
  pattern : Option PatternKind := none
  power : Option Percent := none
  minPower : Option Percent := none
  maxPower : Option Percent := none
  periodSeconds : Option PyFloat := none
  startedAt : PyFloat := fin 0

/-- The field and range validators of `GroupRuntime`. -/
def GroupRuntime.validate (runtime : GroupRuntime) : Except PyError GroupRuntime :=
  match runtime.periodSeconds with
  | some period =>
      if (fin 0).lt period then checkRange
      else .error (.validationError "period_seconds: Input should be greater than 0")
  | none => checkRange
where
  checkRange : Except PyError GroupRuntime :=
    match runtime.minPower, runtime.maxPower with
    | some lo, some hi =>
        if hi.val < lo.val then
          .error (.validationError "runtime min_power must not exceed max_power")
        else .ok runtime
    | _, _ => .ok runtime

end JebaoFlow
