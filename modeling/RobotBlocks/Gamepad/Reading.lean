import RobotBlocks.Gamepad.Labels
import RobotBlocks.Gamepad.Profile

/-!
# Reading controls

The Python expressions that read a control of the gamepad on a port, and the choices that the
editor offers for controls, actions and events: each a label and a key.
-/

set_option autoImplicit false

namespace RobotBlocks

/-- What reading a button reports. -/
inductive ButtonAction
  /-- Whether it is down. -/
  | isDown
  /-- Whether it went down since the last look. -/
  | wasPressed
  /-- Whether it went up since the last look. -/
  | wasReleased
deriving DecidableEq, Repr

namespace ButtonAction

/-- All actions, in the order in which they are offered. -/
def all : List ButtonAction := [.isDown, .wasPressed, .wasReleased]

/-- The key of an action. -/
def key : ButtonAction → String
  | .isDown => "IS_DOWN"
  | .wasPressed => "WAS_PRESSED"
  | .wasReleased => "WAS_RELEASED"

/-- The key of its label. -/
def labelKey : ButtonAction → String
  | .isDown => "GAMEPAD_IS_DOWN"
  | .wasPressed => "GAMEPAD_PRESSED"
  | .wasReleased => "GAMEPAD_RELEASED"

/-- What it adds to the name of the method that reads the button. -/
def suffix : ButtonAction → String
  | .isDown => ""
  | .wasPressed => "Pressed"
  | .wasReleased => "Released"

/-- The action with the given key. -/
def ofKey? (key : String) : Option ButtonAction :=
  all.find? fun action => decide (action.key = key)

end ButtonAction

/-- What a handler of button events waits for. -/
inductive ButtonEvent
  /-- The button goes down. -/
  | pressed
  /-- The button goes up. -/
  | released
  /-- The button goes either way. -/
  | changed
deriving DecidableEq, Repr

namespace ButtonEvent

/-- All events, in the order in which they are offered. -/
def all : List ButtonEvent := [.pressed, .released, .changed]

/-- The key of an event, which is the key of its label too. -/
def key : ButtonEvent → String
  | .pressed => "GAMEPAD_EVENT_PRESSED"
  | .released => "GAMEPAD_EVENT_RELEASED"
  | .changed => "GAMEPAD_EVENT_CHANGED"

/-- The event with the given key. -/
def ofKey? (key : String) : Option ButtonEvent :=
  all.find? fun event => decide (event.key = key)

/-- The comment that stands for a handler. -/
def handlerComment (event : ButtonEvent) (button : String) (port : UInt8) : String :=
  "# " ++ event.key ++ " for button " ++ button ++ " on gamepad " ++ toString port.toNat ++ "\n"

end ButtonEvent

/-- The gamepad on a port. -/
def gamepadExpression (port : UInt8) : String :=
  "DriverStation.gamepads[" ++ toString port.toNat ++ "]"

namespace Profile

/-- The expression that reads a button, if the profile has it. -/
def buttonReading? (profile : Profile) (port : UInt8) (button : String) (action : ButtonAction) :
    Option String :=
  (profile.control? .button button).map fun control =>
    gamepadExpression port ++ "." ++ control.call action.suffix

/-- The expression that reads an axis, if the profile has it. -/
def axisReading? (profile : Profile) (port : UInt8) (axis : String) : Option String :=
  (profile.control? .axis axis).map fun control =>
    gamepadExpression port ++ "." ++ control.call ""

/-- The controls of a kind that the editor offers. -/
def choices (profile : Profile) (slot : Slot) (labels : Labels) : List (String × String) :=
  match profile.tables.table slot with
  | none => []
  | some table =>
    table.toList.map fun (key, control) => (labels.lookup control.labelKey, key)

end Profile

namespace Labels

/-- The actions that the editor offers. -/
def actionChoices (labels : Labels) : List (String × String) :=
  ButtonAction.all.map fun action => (labels.lookup action.labelKey, action.key)

/-- The events that the editor offers. -/
def eventChoices (labels : Labels) : List (String × String) :=
  ButtonEvent.all.map fun event => (labels.lookup event.key, event.key)

end Labels

end RobotBlocks
