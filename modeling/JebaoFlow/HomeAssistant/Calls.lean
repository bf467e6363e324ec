import JebaoFlow.HomeAssistant.Controls

/-!
# Calls and commands

What a user can ask of the entities of a group and of a device, and the commands of the daemon
as they are written on the wire. The calls are those of `HomeAssistant.Controls`, side by side.
-/

namespace JebaoFlow

open HomeAssistant PyStr

/-! ## Commands on the wire -/

/-- The fields of a command; what is not asked for is left out. -/
def commandFields (requestId : String) (asked : List (String × Option Json)) : List (PyStr × Json) :=
  ([("request_id", Json.text requestId), ("source", .text "home_assistant")]
    ++ asked.filterMap (fun field => field.2.map (fun value => (field.1, value)))).map
    (fun field => (ofString field.1, field.2))

def DeviceCommand.wire (command : DeviceCommand) : List (PyStr × Json) :=
  commandFields command.requestId
    [("enabled", command.enabled.map .bool), ("power", command.power.map .percent),
      ("action", command.action.map (fun action => .text action.text))]

def GroupCommand.wire (command : GroupCommand) : List (PyStr × Json) :=
  commandFields command.requestId
    [("enabled", command.enabled.map .bool),
      ("pattern", command.pattern.map (fun kind => .text kind.text)),
      ("power", command.power.map .percent), ("min_power", command.minPower.map .percent),
      ("max_power", command.maxPower.map .percent),
      ("period_seconds", command.periodSeconds.map (fun p => .float p.val)),
      ("transition_seconds", command.transitionSeconds.map (fun t => .float t.val)),
      ("action", command.action.map (fun action => .text action.text))]

namespace HomeAssistant

/-! ## Calls -/

/-- What a user asks of a device: its switch, its number and its button. -/
inductive DeviceCall
  | turn (enabled : Bool)
  | setPower (value : PyFloat)
  | resume

/-- What a user asks of a group. -/
inductive GroupCall
  | turn (enabled : Bool)
  | setNumber (description : FlowNumberDescription) (value : PyFloat)
  | selectPattern (option : PyStr)
  | press (action : String)

variable (conv : Conversions) (runtime : LiveRuntime) (requestId : PyStr) (id : String)

def DeviceCall.send : DeviceCall → Except CallError PublishedCommand
  | .turn enabled => DeviceSwitch.turn conv runtime requestId id enabled
  | .setPower value => DevicePowerNumber.setNativeValue conv runtime requestId id value
  | .resume => ResumeGroupButton.press conv runtime requestId id

def GroupCall.send : GroupCall → Except CallError PublishedCommand
  | .turn enabled => GroupSwitch.turn conv runtime requestId id enabled
  | .setNumber description value => Number.setNativeValue conv runtime requestId id description value
  | .selectPattern option => PatternSelect.selectOption conv runtime requestId id option
  | .press action => ActionButton.press conv runtime requestId id action

end HomeAssistant

end JebaoFlow
