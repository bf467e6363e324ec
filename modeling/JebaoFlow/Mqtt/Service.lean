import Mathlib.Data.Finset.Basic
import Mathlib.Data.Finset.Dedup
import Mathlib.Data.Finset.Sort
import Mathlib.Data.String.Basic
import JebaoFlow.Lib.Run
import JebaoFlow.Mqtt.Models

/-!
# The group control service

`GroupControlService`: the desired state of every group and device, the command
validation in front of it, and the merge of what the LAN observer reports.

Every operation is a function from a state to a result and a state, where the
result may be an exception; the state it leaves is returned in either case,
because an exception in the middle of a method keeps the assignments made before
it. The monotonic clock is read once per calculation, and a `Clock` gives the
successive readings of one call.
-/

namespace JebaoFlow

open PyFloat

/-- The readings of `time.monotonic()` within one call, in order. -/
abbrev Clock := ℕ → ℚ

structure ServiceState where
  states : Dict String GroupStatePayload
  results : Dict String GroupCommandResult
  deviceStates : Dict String DeviceStatePayload
  deviceResults : Dict String DeviceCommandResult
  dirtyDevices : Finset String
  dirtyGroups : Finset String
  lastPublishedSeenAt : Dict String (Option Datetime)
  updateEvent : Bool

/-- `_MAX_DEDUPLICATION_ENTRIES`. -/
def maxDeduplicationEntries : ℕ := 512

/-- `bool(error)` of an optional text: the empty text counts as absent. -/
def truthy : Option String → Bool
  | some text => text ≠ ""
  | none => false

variable (cfg : AppConfig) (units : UnitSource)

/-! ## Targets and members -/

/--
The pattern the targets are computed with. In observer mode an unimplemented one
falls back to `constant`, since the targets are informational there.
-/
def targetPattern (pattern : PatternKind) : PatternKind :=
  if cfg.runtime.mode = .observer ∧ pattern ∉ supportedPatterns then .constant else pattern

def calculateTargets (now : ℚ) (state : GroupStatePayload) :
    Except PyError (Dict String DeviceTarget) :=
  match cfg.group? state.groupId with
  | none => .error (.keyError state.groupId)
  | some group => do
      let runtime ← GroupRuntime.validate {
        state := state.status
        enabled := some state.enabled
        pattern := some (targetPattern cfg state.pattern)
        power := some state.power
        minPower := some state.minPower
        maxPower := some state.maxPower
        periodSeconds := some state.periodSeconds.val
        startedAt := fin 0 }
      PatternCalculator.calculate units (fin now) group runtime

/-- The `GroupMemberState` of one member; an overridden device shows its own desired values. -/
def memberView (name : String) (deviceState : Option DeviceStatePayload) (member : GroupMember)
    (target : DeviceTarget) : GroupMemberState :=
  let manual := deviceState.filter (fun d => d.controlMode = .manualOverride)
  { name
    role := member.role
    gain := member.gain
    phase := member.phase
    controlMode := if manual.isSome then .manualOverride else .group
    enabled := (manual.map (·.enabled)).getD target.enabled
    targetPower := (manual.map (·.power)).getD target.power
    actualEnabled := deviceState.bind (·.actualEnabled)
    actualPower := deviceState.bind (·.actualPower)
    actualMode := deviceState.bind (·.actualMode)
    actualFrequency := deviceState.bind (·.actualFrequency)
    online := deviceState.bind (·.online)
    error := deviceState.bind (·.error)
    lastSeenAt := deviceState.bind (·.lastSeenAt)
    lastChangedAt := deviceState.bind (·.lastChangedAt)
    lastConfigurationChangedAt := deviceState.bind (·.lastConfigurationChangedAt)
    observedAttributes := (deviceState.map (·.observedAttributes)).getD Dict.empty }

/-- One iteration of `_calculate_members`; `none` is its `continue`. -/
def memberState (deviceStates : Dict String DeviceStatePayload)
    (targets : Dict String DeviceTarget) (member : GroupMember) :
    Except PyError (Option GroupMemberState) :=
  match targets.get? member.device with
  | none => .ok none
  | some target => do
      let device ← cfg.deviceConfig member.device
      pure (some (memberView device.name (deviceStates.get? member.device) member target))

def calculateMembers (now : ℚ) (deviceStates : Dict String DeviceStatePayload)
    (state : GroupStatePayload) : Except PyError (Dict String GroupMemberState) :=
  match cfg.group? state.groupId with
  | none => .error (.keyError state.groupId)
  | some group => do
      let targets ← calculateTargets cfg units now state
      Dict.collect GroupMember.device (memberState cfg deviceStates targets) group.members
        Dict.empty

/-! ## Refreshing a group -/

/-- Recompute a group's members and write the record that `write` makes of them. -/
def refreshWith (write : GroupStatePayload → Dict String GroupMemberState → GroupStatePayload)
    (now : ℚ) (groupId : String) (s : ServiceState) : Except PyError Unit × ServiceState :=
  match s.states.get? groupId with
  | none => (.error (.keyError groupId), s)
  | some state =>
    match calculateMembers cfg units now s.deviceStates state with
    | .error e => (.error e, s)
    | .ok members => (.ok (), { s with states := s.states.set groupId (write state members) })

/-- The group record `_refresh_group_members` writes. -/
def refreshedGroup (incrementRevision : Bool) (state : GroupStatePayload)
    (members : Dict String GroupMemberState) : GroupStatePayload :=
  { state with
    revision := if incrementRevision then state.revision + 1 else state.revision
    members }

def refreshGroupMembers (now : ℚ) (groupId : String) (incrementRevision : Bool)
    (s : ServiceState) : Except PyError Unit × ServiceState :=
  refreshWith cfg units (refreshedGroup incrementRevision) now groupId s

/-- The health classification of `_refresh_group_observation`. -/
def observedStatus (members : List GroupMemberState) : GroupState :=
  let observed := members.filter (fun m => m.online.isSome)
  let online := members.filter (fun m => m.online = some true)
  let errors := members.filter (fun m => truthy m.error)
  if errors ≠ [] ∧ errors.length = members.length then .error
  else if errors ≠ [] then .degraded
  else if online.length = members.length ∧ members ≠ [] then
    if online.any (fun m => m.actualEnabled = some true) then .running else .stopped
  else if online ≠ [] then .degraded
  else if observed ≠ [] then .error
  else .starting

/-- The group record `_refresh_group_observation` writes. -/
def observedGroup (incrementRevision : Bool) (state : GroupStatePayload)
    (members : Dict String GroupMemberState) : GroupStatePayload :=
  let values := members.entries.map Prod.snd
  let online := values.filter (fun m => m.online = some true)
  { state with
    revision := if incrementRevision then state.revision + 1 else state.revision
    members
    status := observedStatus values
    actualEnabled :=
      if online ≠ [] then some (online.any (fun m => m.actualEnabled = some true)) else none
    onlineMemberCount := online.length
    memberCount := values.length
    lastSeenAt := (values.filterMap (·.lastSeenAt)).max?
    lastChangedAt := (values.filterMap (·.lastChangedAt)).max?
    lastConfigurationChangedAt := (values.filterMap (·.lastConfigurationChangedAt)).max? }

def refreshGroupObservation (now : ℚ) (groupId : String) (incrementRevision : Bool)
    (s : ServiceState) : Except PyError Unit × ServiceState :=
  refreshWith cfg units (observedGroup incrementRevision) now groupId s

/-- A loop `for x in xs: body(x)` that stops at the first exception; `i` counts the iterations. -/
def forEach {α : Type} (body : ℕ → α → ServiceState → Except PyError Unit × ServiceState) :
    ℕ → List α → ServiceState → Except PyError Unit × ServiceState
  | _, [], s => (.ok (), s)
  | i, x :: xs, s =>
    match body i x s with
    | (.error e, s') => (.error e, s')
    | (.ok (), s') => forEach body (i + 1) xs s'

/-! ## Start -/

def hardwareWritesLocked (group : GroupConfig) : Except PyError Bool := do
  if cfg.runtime.mode = .observer || cfg.runtime.dryRun then pure true
  else
    let devices ← group.members.mapM (fun m => cfg.deviceConfig m.device)
    pure (devices.any (fun d => !d.control.allowHardwareWrites))

/-- The fields of the initial record, checked by the payload's validators. -/
def initialPayload (group : GroupConfig) (locked : Bool) : Except PyError GroupStatePayload :=
  if hp : (fin 1).le group.default.periodSeconds = true
      ∧ group.default.periodSeconds.le (fin 86400) = true then
    if ht : (fin 0).le group.default.transitionSeconds = true
        ∧ group.default.transitionSeconds.le (fin 3600) = true then
      .ok {
        revision := 0
        groupId := group.id
        name := group.name
        status :=
          if cfg.runtime.mode = .observer then .starting
          else if group.enabled then .running else .stopped
        enabled := group.enabled
        pattern := group.default.pattern
        power := group.default.power
        minPower := group.default.minPower
        maxPower := group.default.maxPower
        periodSeconds := ⟨group.default.periodSeconds, hp⟩
        transitionSeconds := ⟨group.default.transitionSeconds, ht⟩
        hardwareWritesLocked := locked
        members := Dict.empty
        memberCount := group.members.length }
    else .error (.validationError "transition_seconds: Input should be between 0 and 3600")
  else .error (.validationError "period_seconds: Input should be between 1 and 86400")

/-- `_initial_state`: no device state exists yet when the members are first computed. -/
def initialState (now : ℚ) (group : GroupConfig) : Except PyError GroupStatePayload := do
  let locked ← hardwareWritesLocked cfg group
  let state ← initialPayload cfg group locked
  let members ← calculateMembers cfg units now Dict.empty state
  pure { state with members }

/-- What a device starts with: the output its first group asks for, or off without one. -/
def initialOutput (states : Dict String GroupStatePayload) (device : DeviceConfig) :
    List String → Except PyError (Bool × Percent)
  | [] => .ok (false, device.limits.minPower)
  | groupId :: _ =>
    match states.get? groupId with
    | none => .error (.keyError groupId)
    | some groupState =>
      match groupState.members.get? device.id with
      | none => .error (.keyError device.id)
      | some member => .ok (groupState.enabled, member.targetPower)

def initialDeviceState (states : Dict String GroupStatePayload) (device : DeviceConfig) :
    Except PyError DeviceStatePayload := do
  let groupIds := (cfg.groupsOf device.id).map GroupConfig.id
  let output ← initialOutput states device groupIds
  pure {
    revision := 0
    deviceId := device.id
    name := device.name
    type := device.type
    enabled := output.1
    power := output.2
    status := .unobserved
    controlMode := if groupIds ≠ [] then .group else .standalone
    groupIds
    hardwareWritesLocked :=
      cfg.runtime.mode = .observer || cfg.runtime.dryRun || !device.control.allowHardwareWrites }

/-- `{x.id: build(x) for x in xs}`, with the clock reading of each iteration. -/
def buildAll {α β : Type} (key : α → String) (build : ℕ → α → Except PyError β) :
    ℕ → List α → Dict String β → Except PyError (Dict String β)
  | _, [], d => .ok d
  | i, x :: xs, d =>
    match build i x with
    | .error e => .error e
    | .ok b => buildAll key build (i + 1) xs (d.set (key x) b)

/-- `GroupControlService(config)`. -/
def GroupControlService.init (clk : Clock) : Except PyError ServiceState := do
  let states ← buildAll GroupConfig.id (fun i group => initialState cfg units (clk i) group)
    0 cfg.groups Dict.empty
  let deviceStates ← buildAll DeviceConfig.id
    (fun _ device => initialDeviceState cfg states device) 0 cfg.devices Dict.empty
  let s : ServiceState := {
    states
    results := Dict.empty
    deviceStates
    deviceResults := Dict.empty
    dirtyDevices := ∅
    dirtyGroups := ∅
    lastPublishedSeenAt := Dict.setAll DeviceConfig.id (fun _ => none) cfg.devices Dict.empty
    updateEvent := false }
  -- a second time, now that the members have device records
  match forEach (fun i group s => refreshGroupMembers cfg units (clk i) group.id false s)
      cfg.groups.length cfg.groups s with
  | (.error e, _) => .error e
  | (.ok (), s) => pure s

/-! ## Snapshots -/

def snapshot (groupId : String) (s : ServiceState) : Except PyError GroupStatePayload :=
  match s.states.get? groupId with
  | none => .error (.keyError s!"unknown group '{groupId}'")
  | some state => .ok state

def deviceSnapshot (deviceId : String) (s : ServiceState) : Except PyError DeviceStatePayload :=
  match s.deviceStates.get? deviceId with
  | none => .error (.keyError s!"unknown device '{deviceId}'")
  | some state => .ok state

structure StateUpdate where
  deviceIds : List String
  groupIds : List String

/-- `wait_for_updates`, once the event is set. -/
def waitForUpdates (s : ServiceState) : StateUpdate × ServiceState :=
  ({ deviceIds := s.dirtyDevices.sort (· ≤ ·), groupIds := s.dirtyGroups.sort (· ≤ ·) },
    { s with updateEvent := false, dirtyDevices := ∅, dirtyGroups := ∅ })

/-! ## Commands -/

/-- `_remember`. -/
def remember (s : ServiceState) (result : GroupCommandResult) :
    Except PyError GroupCommandResult × ServiceState :=
  (.ok result, { s with
    results := ((s.results.set result.requestId result).moveToEnd result.requestId).trimTo
      maxDeduplicationEntries })

@[simp] theorem remember_states (s : ServiceState) (result : GroupCommandResult) :
    (remember s result).2.states = s.states := by unfold remember; rfl
@[simp] theorem remember_deviceStates (s : ServiceState) (result : GroupCommandResult) :
    (remember s result).2.deviceStates = s.deviceStates := by unfold remember; rfl
@[simp] theorem remember_published (s : ServiceState) (result : GroupCommandResult) :
    (remember s result).2.lastPublishedSeenAt = s.lastPublishedSeenAt := by unfold remember; rfl

/-- `_remember_device`. -/
def rememberDevice (s : ServiceState) (result : DeviceCommandResult) :
    Except PyError DeviceCommandResult × ServiceState :=
  (.ok result, { s with
    deviceResults := ((s.deviceResults.set result.requestId result).moveToEnd
      result.requestId).trimTo maxDeduplicationEntries })

@[simp] theorem rememberDevice_states (s : ServiceState) (result : DeviceCommandResult) :
    (rememberDevice s result).2.states = s.states := by unfold rememberDevice; rfl
@[simp] theorem rememberDevice_deviceStates (s : ServiceState) (result : DeviceCommandResult) :
    (rememberDevice s result).2.deviceStates = s.deviceStates := by unfold rememberDevice; rfl
@[simp] theorem rememberDevice_published (s : ServiceState) (result : DeviceCommandResult) :
    (rememberDevice s result).2.lastPublishedSeenAt = s.lastPublishedSeenAt := by
  unfold rememberDevice; rfl

/-- The merge of a command's fields into the current record. -/
def mergeFields (current : GroupStatePayload) (command : GroupCommand) : GroupStatePayload :=
  { current with
    enabled := command.enabled.getD current.enabled
    pattern := command.pattern.getD current.pattern
    power := command.power.getD current.power
    minPower := command.minPower.getD current.minPower
    maxPower := command.maxPower.getD current.maxPower
    periodSeconds := command.periodSeconds.getD current.periodSeconds
    transitionSeconds := command.transitionSeconds.getD current.transitionSeconds }

/-- The checks of `apply` on a known group, in order; `none` lets the command through. -/
def rejection (current : GroupStatePayload) (command : GroupCommand) : Option String :=
  let merged := mergeFields current command
  if cfg.runtime.mode = .observer then some "observer_mode_read_only"
  else if command.pattern.any (fun p => p ∉ supportedPatterns) then some "unsupported_pattern"
  else if current.status = .emergencyStop ∧ command.action ≠ some .clearEmergency then
    some "emergency_stop_locked"
  else if merged.maxPower.val < merged.minPower.val then some "min_power_exceeds_max_power"
  else if merged.enabled ∧ ¬ (merged.minPower.val ≤ merged.power.val
      ∧ merged.power.val ≤ merged.maxPower.val) then some "power_outside_active_limits"
  else none

/-- The record an accepted command writes, its members still the old ones. -/
def patched (current : GroupStatePayload) (command : GroupCommand) : GroupStatePayload :=
  let merged := mergeFields current command
  let status : GroupState := if merged.enabled then .running else .stopped
  let (enabled, status) := match command.action with
    | some .startFeed => (merged.enabled, .feeding)
    | some .stopFeed => (merged.enabled, if merged.enabled then .running else .stopped)
    | some .emergencyStop => (false, .emergencyStop)
    -- unlocked, but reported stopped, whether enabled or not
    | some .clearEmergency => (merged.enabled, .stopped)
    | some .resumeAllMembers => (merged.enabled, current.status)
    | none => (merged.enabled, status)
  { merged with
    enabled
    status
    revision := current.revision + 1
    lastRequestId := some command.requestId }

/-- `force_group_control`: the commands that bring overridden members back. -/
def forcesGroupControl (command : GroupCommand) : Bool :=
  command.enabled.isSome
    || command.action = some .startFeed
    || command.action = some .emergencyStop
    || command.action = some .resumeAllMembers

/-- The record `_sync_group_devices` writes for a device it does not skip. -/
def syncedDevice (groupState : GroupStatePayload) (power : Percent)
    (current : DeviceStatePayload) : DeviceStatePayload :=
  { current with
    revision := current.revision + 1
    enabled := groupState.enabled
    power
    status := .groupControl
    controlMode := .group }

/-- One iteration of `_sync_group_devices`. -/
def syncDevice (groupState : GroupStatePayload) (rawTargets : Dict String DeviceTarget)
    (force : Bool) (member : String × GroupMemberState) (s : ServiceState) :
    Except PyError Unit × ServiceState :=
  match s.deviceStates.get? member.1 with
  | none => (.error (.keyError member.1), s)
  | some current =>
    if current.controlMode = .manualOverride ∧ ¬ force then (.ok (), s)
    else
      let power := if force then (rawTargets.get? member.1).map (·.power)
        else some member.2.targetPower
      match power with
      | none => (.error (.keyError member.1), s)
      | some power =>
        (.ok (), { s with
          deviceStates := s.deviceStates.set member.1 (syncedDevice groupState power current) })

def syncGroupDevices (now : ℚ) (groupId : String) (force : Bool) (s : ServiceState) :
    Except PyError Unit × ServiceState :=
  match s.states.get? groupId with
  | none => (.error (.keyError groupId), s)
  | some groupState =>
    match calculateTargets cfg units now groupState with
    | .error e => (.error e, s)
    | .ok rawTargets =>
      forEach (fun _ member s => syncDevice groupState rawTargets force member s)
        0 groupState.members.entries s

/-- The part of `apply` after the checks. -/
def commit (clk : Clock) (groupId : String) (current : GroupStatePayload)
    (command : GroupCommand) (s : ServiceState) :
    Except PyError GroupCommandResult × ServiceState :=
  let updated := patched current command
  match calculateMembers cfg units (clk 0) s.deviceStates updated with
  | .error e => (.error e, s)
  | .ok members =>
    let s₁ := { s with states := s.states.set groupId { updated with members } }
    -- the record is stored already, and stays where a later step raises
    match syncGroupDevices cfg units (clk 1) groupId (forcesGroupControl command) s₁ with
    | (.error e, s₂) => (.error e, s₂)
    | (.ok (), s₂) =>
      match refreshGroupMembers cfg units (clk 2) groupId false s₂ with
      | (.error e, s₃) => (.error e, s₃)
      | (.ok (), s₃) =>
        remember s₃ {
          requestId := command.requestId
          groupId
          accepted := true
          revision := updated.revision }

def apply (clk : Clock) (groupId : String) (command : GroupCommand) (s : ServiceState) :
    Except PyError GroupCommandResult × ServiceState :=
  match s.results.get? command.requestId with
  | some previousResult => (.ok previousResult, s)
  | none =>
    match cfg.group? groupId with
    | none => remember s {
        requestId := command.requestId
        groupId
        accepted := false
        revision := 0
        reason := some "unknown_group" }
    | some _ =>
      match s.states.get? groupId with
      | none => (.error (.keyError groupId), s)
      | some current =>
        match rejection cfg current command with
        | some reason => remember s {
            requestId := command.requestId
            groupId
            accepted := false
            revision := current.revision
            reason := some reason }
        | none => commit cfg units clk groupId current command s

/-- `_device_controls`. -/
def deviceControls (device : DeviceConfig) : List String :=
  if cfg.runtime.mode = .observer then []
  else if device.type = .dosingPump then ["status"]
  else if cfg.groupsOf device.id ≠ [] then ["enabled", "power", "resume_group"]
  else ["enabled", "power"]

/-- `any(self._states[group_id].status is GroupState.EMERGENCY_STOP for ...)`. -/
def anyEmergencyStop (s : ServiceState) : List String → Except PyError Bool
  | [] => .ok false
  | groupId :: rest =>
    match s.states.get? groupId with
    | none => .error (.keyError groupId)
    | some state => if state.status = .emergencyStop then .ok true else anyEmergencyStop s rest

/-- The checks on an individual patch, in order. -/
def deviceRejection (device : DeviceConfig) (command : DeviceCommand) : Option String :=
  let controls := deviceControls cfg device
  if command.enabled.isSome ∧ "enabled" ∉ controls then some "enabled_control_unsupported"
  else if command.power.isSome ∧ "power" ∉ controls then some "power_control_unsupported"
  else if command.power.any (fun p => ¬ device.limits.Contains p.val) then
    some "power_outside_device_limits"
  else none

/-- The record an accepted individual patch writes. -/
def patchedDevice (current : DeviceStatePayload) (command : DeviceCommand) :
    DeviceStatePayload :=
  let enabled := command.enabled.getD current.enabled
  { current with
    revision := current.revision + 1
    lastRequestId := some command.requestId
    enabled
    power := command.power.getD current.power
    controlMode := if current.groupIds ≠ [] then .manualOverride else current.controlMode
    status :=
      if current.groupIds ≠ [] then .manualOverride
      else if enabled then .running else .stopped }

/-- `_reject_device`. -/
def rejectDevice (s : ServiceState) (current : DeviceStatePayload) (command : DeviceCommand)
    (reason : String) : Except PyError DeviceCommandResult × ServiceState :=
  rememberDevice s {
    requestId := command.requestId
    deviceId := current.deviceId
    accepted := false
    revision := current.revision
    reason := some reason }

/-- The end of `apply_device`: store the record, refresh its groups, report success. -/
def commitDevice (clk : Clock) (deviceId : String) (updated : DeviceStatePayload)
    (command : DeviceCommand) (s : ServiceState) :
    Except PyError DeviceCommandResult × ServiceState :=
  let s₁ := { s with deviceStates := s.deviceStates.set deviceId updated }
  match forEach (fun i groupId s => refreshGroupMembers cfg units (clk i) groupId true s)
      1 updated.groupIds s₁ with
  | (.error e, s₂) => (.error e, s₂)
  | (.ok (), s₂) =>
    rememberDevice s₂ {
      requestId := command.requestId
      deviceId
      accepted := true
      revision := updated.revision }

/-- The record `RESUME_GROUP` writes. -/
def resumedDevice (current : DeviceStatePayload) (target : DeviceTarget)
    (command : DeviceCommand) : DeviceStatePayload :=
  { current with
    revision := current.revision + 1
    enabled := target.enabled
    power := target.power
    status := .groupControl
    controlMode := .group
    lastRequestId := some command.requestId }

/-- `RESUME_GROUP`: the target of the first group the device belongs to. -/
def resumeTarget (now : ℚ) (current : DeviceStatePayload) (deviceId : String)
    (s : ServiceState) : Except PyError DeviceTarget :=
  match current.groupIds with
  | [] => .error (.indexError "tuple index out of range")
  | groupId :: _ =>
    match s.states.get? groupId with
    | none => .error (.keyError groupId)
    | some groupState => do
        let targets ← calculateTargets cfg units now groupState
        match targets.get? deviceId with
        | none => .error (.keyError deviceId)
        | some target => pure target

def applyDevice (clk : Clock) (deviceId : String) (command : DeviceCommand) (s : ServiceState) :
    Except PyError DeviceCommandResult × ServiceState :=
  match s.deviceResults.get? command.requestId with
  | some previousResult => (.ok previousResult, s)
  | none =>
    match s.deviceStates.get? deviceId with
    | none => rememberDevice s {
        requestId := command.requestId
        deviceId
        accepted := false
        revision := 0
        reason := some "unknown_device" }
    | some current =>
      if cfg.runtime.mode = .observer then
        rejectDevice s current command "observer_mode_read_only"
      else
        -- one stopped group is enough to lock the device
        match anyEmergencyStop s current.groupIds with
        | .error e => (.error e, s)
        | .ok true => rejectDevice s current command "group_emergency_stop_locked"
        | .ok false =>
          match cfg.deviceConfig deviceId with
          | .error e => (.error e, s)
          | .ok device =>
            if command.action = some .resumeGroup then
              if "resume_group" ∉ deviceControls cfg device then
                rejectDevice s current command "device_is_not_grouped"
              else
                match resumeTarget cfg units (clk 0) current deviceId s with
                | .error e => (.error e, s)
                | .ok target =>
                  commitDevice cfg units clk deviceId (resumedDevice current target command)
                    command s
            else
              match deviceRejection cfg device command with
              | some reason => rejectDevice s current command reason
              | none => commitDevice cfg units clk deviceId (patchedDevice current command) command s

/-! ## Observations -/

/-- `_schedule_configuration`: the schedule without its advancing clock. -/
def scheduleConfiguration (schedule : Option DeviceSchedule) : Option DeviceSchedule :=
  schedule.map (fun sch => { sch with deviceLocalTime := none })

/-- Equality of two schedule configurations. -/
def scheduleConfigurationEq : Option DeviceSchedule → Option DeviceSchedule → Bool
  | none, none => true
  | some a, some b => a.enabled == b.enabled && a.deviceLocalTime == b.deviceLocalTime
      && ScheduleEntry.eqList a.entries b.entries && a.invalidSlots == b.invalidSlots
  | _, _ => false

/-- A read that is not newer than the last one recorded is dropped. -/
def isStale (current : DeviceStatePayload) (state : DeviceState) : Bool :=
  current.lastSeenAt.any (fun seen => state.observedAt ≤ seen)

/-- The record after a fresh read, and whether the read was a semantic change. -/
def mergeRead (current : DeviceStatePayload) (state : DeviceState) :
    DeviceStatePayload × Bool :=
  -- a first read has nothing to differ from, and is a semantic change all the same
  let hasBaseline := current.lastSeenAt.isSome
  let operationalChanged : Bool := hasBaseline
    && (current.actualEnabled, current.actualPower, current.actualMode, current.actualFrequency)
      ≠ (some state.enabled, some state.power, some state.mode, state.frequency)
  let configurationChanged : Bool := hasBaseline
    && (!Scalar.eqDict current.observedAttributes state.observedAttributes
      || !scheduleConfigurationEq (scheduleConfiguration current.schedule)
        (scheduleConfiguration state.schedule))
  let status : DeviceStatus :=
    if truthy state.error then .error else if state.enabled then .running else .stopped
  let semanticChanged : Bool := !hasBaseline || operationalChanged || configurationChanged
    || (current.online, current.error, current.status) ≠ (some true, state.error, status)
  ({ current with
      revision := if semanticChanged then current.revision + 1 else current.revision
      actualEnabled := some state.enabled
      actualPower := some state.power
      actualMode := some state.mode
      actualFrequency := state.frequency
      online := some true
      error := state.error
      lastSeenAt := some state.observedAt
      observedAttributes := state.observedAttributes
      schedule := state.schedule
      observationSource := some .lanPoll
      status
      lastChangedAt := if operationalChanged then some state.observedAt else current.lastChangedAt
      lastConfigurationChangedAt :=
        if configurationChanged then some state.observedAt
        else current.lastConfigurationChangedAt
      changeSource :=
        if operationalChanged || configurationChanged then .externalOrNative
        else current.changeSource },
    semanticChanged)

/-- The record after a status report without a read, and whether it was a semantic change. -/
def mergeReport (current : DeviceStatePayload) (event : ObserverEvent) :
    DeviceStatePayload × Bool :=
  let (online, status) : Option Bool × DeviceStatus := match event.status with
    | .unmapped => (none, .unmapped)
    -- connecting says nothing new about being online
    | .connecting => (if current.online = some false then some false else current.online, .connecting)
    | _ => (some false, .offline)
  let semanticChanged : Bool :=
    (current.online, current.error, current.status) ≠ (online, event.error, status)
  ({ current with
      revision := if semanticChanged then current.revision + 1 else current.revision
      online
      error := event.error
      status },
    semanticChanged)

/-- `_mark_dirty`. -/
def markDirty (s : ServiceState) (deviceIds groupIds : List String) : ServiceState :=
  { s with
    dirtyDevices := s.dirtyDevices ∪ deviceIds.toFinset
    dirtyGroups := s.dirtyGroups ∪ groupIds.toFinset
    updateEvent := true }

/-- `(observed_at - last_published).total_seconds() >= publish_heartbeat_seconds`. -/
def heartbeatDue (lastPublished : Option Datetime) (observedAt : Datetime) : Bool :=
  match lastPublished with
  | none => true
  | some last =>
      cfg.observer.publishHeartbeatSeconds.le (fin (((observedAt - last : ℤ) : ℚ) / 1000000))

/-- Whether a read is due for publication anyway, and the note that it is being published. -/
def recordHeartbeat (event : ObserverEvent) (semanticChanged : Bool) (s : ServiceState) :
    Except PyError (Bool × ServiceState) :=
  match event.state with
  | none => .ok (false, s)
  | some state =>
    match s.lastPublishedSeenAt.get? event.deviceId with
    | none => .error (.keyError event.deviceId)
    | some lastPublished =>
      let publishHeartbeat := heartbeatDue cfg lastPublished state.observedAt
      .ok (publishHeartbeat,
        if semanticChanged || publishHeartbeat then
          { s with lastPublishedSeenAt :=
              s.lastPublishedSeenAt.set event.deviceId (some state.observedAt) }
        else s)

/-- Everything `record_observer_event` does once the device record is merged. -/
def storeObservation (clk : Clock) (event : ObserverEvent) (updated : DeviceStatePayload)
    (semanticChanged : Bool) (s : ServiceState) : Except PyError Unit × ServiceState :=
  let s₁ := { s with deviceStates := s.deviceStates.set event.deviceId updated }
  match recordHeartbeat cfg event semanticChanged s₁ with
  | .error e => (.error e, s₁)
  | .ok (publishHeartbeat, s₂) =>
    let publish := semanticChanged || publishHeartbeat
    let s₃ := if publish then markDirty s₂ [event.deviceId] [] else s₂
    -- every read refreshes the groups, a change or not
    let refreshed :=
      if event.state.isSome || semanticChanged then
        forEach (fun i groupId s =>
            refreshGroupObservation cfg units (clk i) groupId semanticChanged s)
          0 updated.groupIds s₃
      else (.ok (), s₃)
    match refreshed with
    | (.error e, s₄) => (.error e, s₄)
    | (.ok (), s₄) => (.ok (), if publish then markDirty s₄ [] updated.groupIds else s₄)

def recordObserverEvent (clk : Clock) (event : ObserverEvent) (s : ServiceState) :
    Except PyError Unit × ServiceState :=
  match s.deviceStates.get? event.deviceId with
  | none => (.ok (), s)
  | some current =>
    match event.state with
    | some state =>
      if isStale current state then (.ok (), s)
      else
        let (updated, semanticChanged) := mergeRead current state
        storeObservation cfg units clk event updated semanticChanged s
    | none =>
      let (updated, semanticChanged) := mergeReport current event
      storeObservation cfg units clk event updated semanticChanged s

/-! ## Runs -/

/-- One call of the service, with the clock readings it sees. -/
inductive ServiceOp
  | apply (groupId : String) (command : GroupCommand) (clk : Clock)
  | applyDevice (deviceId : String) (command : DeviceCommand) (clk : Clock)
  | observe (event : ObserverEvent) (clk : Clock)

/-- The state one call leaves behind, whether it returns or raises. -/
def serviceStep (s : ServiceState) : ServiceOp → ServiceState
  | .apply groupId command clk => (apply cfg units clk groupId command s).2
  | .applyDevice deviceId command clk => (applyDevice cfg units clk deviceId command s).2
  | .observe event clk => (recordObserverEvent cfg units clk event s).2

/-- The states any run of a freshly constructed service can reach. -/
def Reachable (s : ServiceState) : Prop :=
  ∃ clk s₀ ops, GroupControlService.init cfg units clk = .ok s₀
    ∧ s = Run.exec (serviceStep cfg units) s₀ ops

end JebaoFlow
