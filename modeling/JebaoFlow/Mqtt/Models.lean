import JebaoFlow.Config

/-!
# Messages exchanged with Home Assistant

Commands, results and the two state payloads. The range checks of a command are
in the types of its fields, so a `GroupCommand` is one the validator accepted;
`changed` is the validator that refuses an empty command.
-/

namespace JebaoFlow

open PyFloat

inductive GroupAction
  | startFeed | stopFeed | emergencyStop | clearEmergency | resumeAllMembers
  deriving DecidableEq, Repr

inductive DeviceAction
  | resumeGroup
  deriving DecidableEq, Repr

inductive DeviceControlMode
  | group | manualOverride | standalone
  deriving DecidableEq, Repr

inductive ObservationSource
  | lanPoll | simulator
  deriving DecidableEq, Repr

inductive ChangeSource
  | externalOrNative | homeAssistant | flowdScheduler | unknown
  deriving DecidableEq, Repr

/-- The texts `DeviceStatePayload.status` takes. -/
inductive DeviceStatus
  | unobserved | groupControl | manualOverride | running | stopped | error
  | unmapped | connecting | offline
  deriving DecidableEq, Repr

/-- `Field(ge=1, le=86400)`. -/
abbrev PeriodSeconds :=
  { p : PyFloat // (fin 1).le p = true ∧ p.le (fin 86400) = true }

/-- `Field(ge=0, le=3600)`. -/
abbrev TransitionSeconds :=
  { p : PyFloat // (fin 0).le p = true ∧ p.le (fin 3600) = true }

/-- `Field(min_length=8, max_length=128, pattern=r"^[A-Za-z0-9_-]+$")`. -/
def isRequestId (s : String) : Bool :=
  8 ≤ s.toList.length && s.toList.length ≤ 128
    && s.toList.all (fun c => ('A' ≤ c && c ≤ 'Z') || ('a' ≤ c && c ≤ 'z')
      || ('0' ≤ c && c ≤ '9') || c == '_' || c == '-')

structure GroupCommand where
  requestId : String
  enabled : Option Bool := none
  pattern : Option PatternKind := none
  power : Option Percent := none
  minPower : Option Percent := none
  maxPower : Option Percent := none
  periodSeconds : Option PeriodSeconds := none
  transitionSeconds : Option TransitionSeconds := none
  action : Option GroupAction := none
  requestId_ok : isRequestId requestId = true := by decide
  changed : (enabled.isSome || pattern.isSome || power.isSome || minPower.isSome
    || maxPower.isSome || periodSeconds.isSome || transitionSeconds.isSome
    || action.isSome) = true := by decide

structure GroupMemberState where
  name : String
  role : GroupMemberRole
  gain : PyFloat
  phase : PyFloat
  controlMode : DeviceControlMode
  enabled : Bool
  targetPower : Percent
  actualEnabled : Option Bool
  actualPower : Option Percent
  actualMode : Option String
  actualFrequency : Option Percent
  online : Option Bool
  error : Option String
  lastSeenAt : Option Datetime
  lastChangedAt : Option Datetime
  lastConfigurationChangedAt : Option Datetime
  observedAttributes : Dict String Scalar

structure GroupStatePayload where
  revision : ℕ
  groupId : String
  name : String
  status : GroupState
  enabled : Bool
  pattern : PatternKind
  power : Percent
  minPower : Percent
  maxPower : Percent
  periodSeconds : PeriodSeconds
  transitionSeconds : TransitionSeconds
  hardwareWritesLocked : Bool
  members : Dict String GroupMemberState
  actualEnabled : Option Bool := none
  onlineMemberCount : ℕ := 0
  memberCount : ℕ := 0
  lastSeenAt : Option Datetime := none
  lastChangedAt : Option Datetime := none
  lastConfigurationChangedAt : Option Datetime := none
  lastRequestId : Option String := none

structure GroupCommandResult where
  requestId : String
  groupId : String
  accepted : Bool
  revision : ℕ
  reason : Option String := none
  deriving DecidableEq

structure DeviceCommand where
  requestId : String
  enabled : Option Bool := none
  power : Option Percent := none
  action : Option DeviceAction := none
  requestId_ok : isRequestId requestId = true := by decide
  changed : (enabled.isSome || power.isSome || action.isSome) = true := by decide

structure DeviceStatePayload where
  revision : ℕ
  deviceId : String
  name : String
  type : DeviceType
  enabled : Bool
  power : Percent
  actualEnabled : Option Bool := none
  actualPower : Option Percent := none
  actualMode : Option String := none
  actualFrequency : Option Percent := none
  online : Option Bool := none
  error : Option String := none
  lastSeenAt : Option Datetime := none
  lastChangedAt : Option Datetime := none
  lastConfigurationChangedAt : Option Datetime := none
  observedAttributes : Dict String Scalar := Dict.empty
  schedule : Option DeviceSchedule := none
  observationSource : Option ObservationSource := none
  changeSource : ChangeSource := .unknown
  status : DeviceStatus
  controlMode : DeviceControlMode
  groupIds : List String
  hardwareWritesLocked : Bool
  lastRequestId : Option String := none

structure DeviceCommandResult where
  requestId : String
  deviceId : String
  accepted : Bool
  revision : ℕ
  reason : Option String := none
  deriving DecidableEq

/-! ## Observer events -/

inductive ObserverStatus
  | unmapped | connecting | online | offline
  deriving DecidableEq, Repr

structure ObserverEvent where
  deviceId : String
  status : ObserverStatus
  occurredAt : Datetime
  state : Option DeviceState := none
  error : Option String := none

end JebaoFlow
