import RobotBlocks.Gamepad.Profile

/-!
# Built-in profiles

The controllers that are known from the start. Most share one layout, from which they take out
what they do not have; the sign printed on a face button goes into its comment.
-/

set_option autoImplicit false

namespace RobotBlocks.Builtin

/-- A table of names, keys of labels and accessors. -/
def tableOf (rows : List (String × String × String)) : SlotTable :=
  .ofList (rows.map fun (key, labelKey, accessor) => (key, { labelKey, accessor }))

/-- The buttons of the common layout. -/
def commonButtons : SlotTable :=
  tableOf
    [("SOUTH_FACE", "GAMEPAD_BUTTON_SOUTH_FACE", "getSouthFace"),
      ("EAST_FACE", "GAMEPAD_BUTTON_EAST_FACE", "getEastFace"),
      ("WEST_FACE", "GAMEPAD_BUTTON_WEST_FACE", "getWestFace"),
      ("NORTH_FACE", "GAMEPAD_BUTTON_NORTH_FACE", "getNorthFace"),
      ("BACK", "GAMEPAD_BUTTON_BACK", "getBack"),
      ("GUIDE", "GAMEPAD_BUTTON_GUIDE", "getGuide"),
      ("START", "GAMEPAD_BUTTON_START", "getStart"),
      ("LEFT_STICK", "GAMEPAD_BUTTON_LEFT_STICK", "getLeftStick"),
      ("RIGHT_STICK", "GAMEPAD_BUTTON_RIGHT_STICK", "getRightStick"),
      ("LEFT_BUMPER", "GAMEPAD_BUTTON_LEFT_BUMPER", "getLeftBumper"),
      ("RIGHT_BUMPER", "GAMEPAD_BUTTON_RIGHT_BUMPER", "getRightBumper"),
      ("DPAD_UP", "GAMEPAD_BUTTON_DPAD_UP", "getDpadUp"),
      ("DPAD_DOWN", "GAMEPAD_BUTTON_DPAD_DOWN", "getDpadDown"),
      ("DPAD_LEFT", "GAMEPAD_BUTTON_DPAD_LEFT", "getDpadLeft"),
      ("DPAD_RIGHT", "GAMEPAD_BUTTON_DPAD_RIGHT", "getDpadRight"),
      ("MISC1", "GAMEPAD_BUTTON_MISC1", "getMisc1"),
      ("RIGHT_PADDLE_1", "GAMEPAD_BUTTON_RIGHT_PADDLE_1", "getRightPaddle1"),
      ("LEFT_PADDLE_1", "GAMEPAD_BUTTON_LEFT_PADDLE_1", "getLeftPaddle1"),
      ("RIGHT_PADDLE_2", "GAMEPAD_BUTTON_RIGHT_PADDLE_2", "getRightPaddle2"),
      ("LEFT_PADDLE_2", "GAMEPAD_BUTTON_LEFT_PADDLE_2", "getLeftPaddle2"),
      ("TOUCHPAD", "GAMEPAD_BUTTON_TOUCHPAD", "getTouchpad"),
      ("MISC2", "GAMEPAD_BUTTON_MISC2", "getMisc2"),
      ("MISC3", "GAMEPAD_BUTTON_MISC3", "getMisc3"),
      ("MISC4", "GAMEPAD_BUTTON_MISC4", "getMisc4"),
      ("MISC5", "GAMEPAD_BUTTON_MISC5", "getMisc5"),
      ("MISC6", "GAMEPAD_BUTTON_MISC6", "getMisc6")]

/-- The axes of the common layout. -/
def commonAxes : SlotTable :=
  tableOf
    [("LEFT_STICK_X", "GAMEPAD_AXIS_LEFT_STICK_X", "getLeftStickX"),
      ("LEFT_STICK_Y", "GAMEPAD_AXIS_LEFT_STICK_Y", "getLeftStickY"),
      ("RIGHT_STICK_X", "GAMEPAD_AXIS_RIGHT_STICK_X", "getRightStickX"),
      ("RIGHT_STICK_Y", "GAMEPAD_AXIS_RIGHT_STICK_Y", "getRightStickY"),
      ("LEFT_TRIGGER", "GAMEPAD_AXIS_LEFT_TRIGGER", "getLeftTrigger"),
      ("RIGHT_TRIGGER", "GAMEPAD_AXIS_RIGHT_TRIGGER", "getRightTrigger")]

/-- The rumble motors. -/
def rumbleMotors : SlotTable :=
  tableOf
    [("LEFT_RUMBLE", "GAMEPAD_RUMBLE_LEFT", "kLeftRumble"),
      ("RIGHT_RUMBLE", "GAMEPAD_RUMBLE_RIGHT", "kRightRumble"),
      ("TRIGGER_LEFT_RUMBLE", "GAMEPAD_RUMBLE_LEFT_TRIGGER", "kLeftTriggerRumble"),
      ("TRIGGER_RIGHT_RUMBLE", "GAMEPAD_RUMBLE_RIGHT_TRIGGER", "kRightTriggerRumble")]

/-- The lights. -/
def lights : SlotTable :=
  tableOf
    [("LEDS", "GAMEPAD_LEDS", "setLeds")]

/-- The common layout. -/
def common : ControlTables where
  buttons := some commonButtons
  axes := some commonAxes
  rumble := some rumbleMotors
  leds := some lights

/-- The number of buttons, and of axes, of a device that only numbers them. -/
def numberedControls : Nat := 16

/-- Controls numbered from 1 and labelled by their number, read by a method that takes it. -/
def numberedTable (method : String) : SlotTable :=
  .ofList ((List.range' 1 numberedControls).map fun number =>
    let key := toString number
    (key, { labelKey := key, accessor := method ++ "(" ++ key ++ ")" }))

/-- A device that numbers its buttons and axes. -/
def numbered : ControlTables where
  buttons := some (numberedTable "getRawButton")
  axes := some (numberedTable "getRawAxis")
  rumble := some rumbleMotors
  leds := some lights

/-- The buttons of the common layout that neither the XBOX nor the PlayStation gamepads have. -/
def extraButtons : List String :=
  ["MISC1", "MISC2", "MISC3", "MISC4", "MISC5", "MISC6", "RIGHT_PADDLE_1", "LEFT_PADDLE_1",
    "RIGHT_PADDLE_2", "LEFT_PADDLE_2"]

/-- A face button with the sign printed on it. -/
def face (key labelKey accessor sign : String) : Slot × String × Control :=
  (.button, key, { labelKey, accessor, comment := sign })

/-- The removal of buttons. -/
def withoutButtons (keys : List String) : List (Slot × String) :=
  keys.map fun key => (.button, key)

/-- The XBOX gamepad. -/
def xbox : Derivation where
  base := .generic
  overrides :=
    [face "SOUTH_FACE" "GAMEPAD_BUTTON_A" "getSouthFace" "A",
      face "EAST_FACE" "GAMEPAD_BUTTON_B" "getEastFace" "B",
      face "WEST_FACE" "GAMEPAD_BUTTON_X" "getWestFace" "X",
      face "NORTH_FACE" "GAMEPAD_BUTTON_Y" "getNorthFace" "Y"]
  removals := withoutButtons (extraButtons ++ ["TOUCHPAD"])

/-- The PlayStation 4 gamepad. -/
def playStation4 : Derivation where
  base := .generic
  overrides :=
    [face "SOUTH_FACE" "GAMEPAD_BUTTON_CROSS" "getSouthFace" "X",
      face "EAST_FACE" "GAMEPAD_BUTTON_CIRCLE" "getEastFace" "O",
      face "WEST_FACE" "GAMEPAD_BUTTON_SQUARE" "getWestFace" "□",
      face "NORTH_FACE" "GAMEPAD_BUTTON_TRIANGLE" "getNorthFace" "Δ"]
  removals := withoutButtons extraButtons

/-- The F310, which has the layout of the XBOX gamepad but no rumble motor and no light. -/
def logitechF310 : Derivation where
  base := .xbox
  without := [.rumble, .led]

/-- The built-in declarations, each base before what is taken from it. -/
def declarations : List (Controller × Declaration) :=
  [(.absent, .tables {}), (.generic, .tables common), (.numbered, .tables numbered),
    (.xbox, .derivedFrom xbox), (.playStation4, .derivedFrom playStation4),
    (.playStation5, .sameAs .playStation4), (.logitechF310, .derivedFrom logitechF310)]

end RobotBlocks.Builtin

namespace RobotBlocks.Registry

/-- Registers declarations in order; the first that is refused ends it. -/
def registerAll (registry : Registry) (declarations : List (Controller × Declaration)) :
    Except Fault Registry :=
  declarations.foldlM (fun registry entry => registry.register entry.1 entry.2) registry

/-- The registry of all built-in profiles. -/
def builtin : Except Fault Registry :=
  registerAll {} Builtin.declarations

end RobotBlocks.Registry
