import RobotBlocks.Graph.CallNode
import RobotBlocks.Gamepad.Controller
import RobotBlocks.Json.DecodeFault

/-!
# Why a piece of work is given up

A fault ends the work on one node, one profile or one project file, and on nothing else.
References that have gone stale are no faults: they become warnings on the node.
`Fault.message` is the wording; a fault whose text could only say where in a JSON text it lies
has none.
-/

set_option autoImplicit false

namespace RobotBlocks

/-- Why project settings are refused. -/
inductive SettingsFault
  /-- The text is not JSON, or not the JSON of project settings. -/
  | unreadable
  /-- One level of indentation is not made of spaces and tabs. -/
  | badIndent (indent : String)
  /-- The driver station has no such gamepad port. -/
  | badPort (port : UInt8)

/-- The last gamepad port of the driver station; the first one is port 0. -/
def lastGamepadPort : UInt8 := 5

/-- The wording of a fault in project settings, where it has one. -/
def SettingsFault.message : SettingsFault → Option String
  | .unreadable => none
  | .badIndent indent => some ("indent must be spaces or tabs, got " ++ Text.quote indent)
  | .badPort port =>
    some ("gamepad port " ++ toString port.toNat ++ " is outside 0..=" ++
      toString lastGamepadPort.toNat)

/-- Why a piece of work is given up. -/
inductive Fault
  /-- A saved node has a tag that is no kind of call. -/
  | unknownCallKind (tag : String)
  /-- The graph has no node with this identifier. -/
  | nodeNotFound (id : NodeId)
  /-- A node has no value in a field that its code needs. -/
  | missingField (node : NodeId) (field : FieldName)
  /-- A value is not the JSON of a saved node. -/
  | invalidSavedState (cause : Json.DecodeFault)
  /-- There is no profile for this controller. -/
  | unknownProfile (controller : Controller)
  /-- There already is a profile for this controller. -/
  | duplicateProfile (controller : Controller)
  /-- Project settings are refused. -/
  | invalidSettings (cause : SettingsFault)

/-- The wording of a fault, where it has one. -/
def Fault.message : Fault → Option String
  | .unknownCallKind tag => some ("call kind has unexpected value: '" ++ tag ++ "'")
  | .nodeNotFound id => some ("node not found: " ++ id.name)
  | .missingField node field =>
    some ("node " ++ node.name ++ " has no value for field '" ++ field.text ++ "'")
  | .invalidSavedState cause => cause.message.map fun text => "invalid extra state: " ++ text
  | .unknownProfile controller =>
    some ("unknown device profile: '" ++ controller.displayName ++ "'")
  | .duplicateProfile controller =>
    some ("device profile registered twice: '" ++ controller.displayName ++ "'")
  | .invalidSettings cause => cause.message.map fun text => "invalid configuration: " ++ text

end RobotBlocks
