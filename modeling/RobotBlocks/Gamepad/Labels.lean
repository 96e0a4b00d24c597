/-!
# Labels

The texts shown for controls, actions and events, looked up by key. A key without a text is shown
as it is; numbered buttons get their labels in this way.
-/

set_option autoImplicit false

namespace RobotBlocks

/-- The texts known, the latest first. -/
structure Labels where
  /-- Keys and texts, the latest first. -/
  messages : List (String × String)
deriving DecidableEq, Repr

namespace Labels

/-- No text at all. -/
def empty : Labels := ⟨[]⟩

/-- Adds texts in order; a later one replaces an earlier one with its key. -/
def extend (labels : Labels) (messages : List (String × String)) : Labels :=
  ⟨messages.reverse ++ labels.messages⟩

/-- The text of a key, or the key itself. -/
def lookup (labels : Labels) (key : String) : String :=
  (labels.messages.lookup key).getD key

/-- The English texts. -/
def englishMessages : List (String × String) :=
  [("GAMEPAD", "Gamepad"),
    ("GAMEPAD_BUTTON_SOUTH_FACE", "South Face"),
    ("GAMEPAD_BUTTON_EAST_FACE", "East Face"),
    ("GAMEPAD_BUTTON_WEST_FACE", "West Face"),
    ("GAMEPAD_BUTTON_NORTH_FACE", "North Face"),
    ("GAMEPAD_BUTTON_A", "A"),
    ("GAMEPAD_BUTTON_B", "B"),
    ("GAMEPAD_BUTTON_X", "X"),
    ("GAMEPAD_BUTTON_Y", "Y"),
    ("GAMEPAD_BUTTON_CROSS", "Cross"),
    ("GAMEPAD_BUTTON_CIRCLE", "Circle"),
    ("GAMEPAD_BUTTON_SQUARE", "Square"),
    ("GAMEPAD_BUTTON_TRIANGLE", "Triangle"),
    ("GAMEPAD_BUTTON_BACK", "Back"),
    ("GAMEPAD_BUTTON_GUIDE", "Guide"),
    ("GAMEPAD_BUTTON_START", "Start"),
    ("GAMEPAD_BUTTON_LEFT_STICK", "Left Stick"),
    ("GAMEPAD_BUTTON_RIGHT_STICK", "Right Stick"),
    ("GAMEPAD_BUTTON_LEFT_BUMPER", "Left Bumper"),
    ("GAMEPAD_BUTTON_RIGHT_BUMPER", "Right Bumper"),
    ("GAMEPAD_BUTTON_DPAD_UP", "D-pad Up"),
    ("GAMEPAD_BUTTON_DPAD_DOWN", "D-pad Down"),
    ("GAMEPAD_BUTTON_DPAD_LEFT", "D-pad Left"),
    ("GAMEPAD_BUTTON_DPAD_RIGHT", "D-pad Right"),
    ("GAMEPAD_BUTTON_MISC1", "Misc 1"),
    ("GAMEPAD_BUTTON_MISC2", "Misc 2"),
    ("GAMEPAD_BUTTON_MISC3", "Misc 3"),
    ("GAMEPAD_BUTTON_MISC4", "Misc 4"),
    ("GAMEPAD_BUTTON_MISC5", "Misc 5"),
    ("GAMEPAD_BUTTON_MISC6", "Misc 6"),
    ("GAMEPAD_BUTTON_RIGHT_PADDLE_1", "Right Paddle 1"),
    ("GAMEPAD_BUTTON_LEFT_PADDLE_1", "Left Paddle 1"),
    ("GAMEPAD_BUTTON_RIGHT_PADDLE_2", "Right Paddle 2"),
    ("GAMEPAD_BUTTON_LEFT_PADDLE_2", "Left Paddle 2"),
    ("GAMEPAD_BUTTON_TOUCHPAD", "Touchpad"),
    ("GAMEPAD_AXIS_LEFT_STICK_X", "Left Stick X"),
    ("GAMEPAD_AXIS_LEFT_STICK_Y", "Left Stick Y"),
    ("GAMEPAD_AXIS_RIGHT_STICK_X", "Right Stick X"),
    ("GAMEPAD_AXIS_RIGHT_STICK_Y", "Right Stick Y"),
    ("GAMEPAD_AXIS_LEFT_TRIGGER", "Left Trigger"),
    ("GAMEPAD_AXIS_RIGHT_TRIGGER", "Right Trigger"),
    ("GAMEPAD_RUMBLE_LEFT", "Left Rumble"),
    ("GAMEPAD_RUMBLE_RIGHT", "Right Rumble"),
    ("GAMEPAD_RUMBLE_LEFT_TRIGGER", "Left Trigger Rumble"),
    ("GAMEPAD_RUMBLE_RIGHT_TRIGGER", "Right Trigger Rumble"),
    ("GAMEPAD_LEDS", "LEDs"),
    ("GAMEPAD_IS_DOWN", "is down"),
    ("GAMEPAD_PRESSED", "was pressed"),
    ("GAMEPAD_RELEASED", "was released"),
    ("GAMEPAD_EVENT_PRESSED", "On Pressed"),
    ("GAMEPAD_EVENT_RELEASED", "On Released"),
    ("GAMEPAD_EVENT_CHANGED", "On Changed")]

/-- The labels in English. -/
def english : Labels := extend empty englishMessages

end Labels

end RobotBlocks
