/-!
# Controllers

The kinds of controller that a port of the driver station can have, and the kinds of control
that a controller has. A project stores a controller under its display name.
-/

set_option autoImplicit false

namespace RobotBlocks

/-- A kind of controller. -/
inductive Controller
  /-- No controller. -/
  | absent
  /-- A gamepad of which only the common layout is known. -/
  | generic
  /-- A Logitech F310. -/
  | logitechF310
  /-- An XBOX gamepad. -/
  | xbox
  /-- A PlayStation 4 gamepad. -/
  | playStation4
  /-- A PlayStation 5 gamepad. -/
  | playStation5
  /-- A device with numbered buttons and axes. -/
  | numbered
deriving DecidableEq, Repr

namespace Controller

/-- All kinds, in the order in which they are offered. -/
def all : List Controller :=
  [.absent, .generic, .logitechF310, .xbox, .playStation4, .playStation5, .numbered]

/-- The name that is stored in a project and shown to the user. -/
def displayName : Controller → String
  | .absent => "None"
  | .generic => "Generic Gamepad"
  | .logitechF310 => "Logitech F310"
  | .xbox => "XBOX Gamepad"
  | .playStation4 => "PlayStation 4 Gamepad"
  | .playStation5 => "PlayStation 5 Gamepad"
  | .numbered => "Generic HID"

/-- The controller with the given name. -/
def ofDisplayName? (name : String) : Option Controller :=
  all.find? fun controller => decide (controller.displayName = name)

/-- A controller is found under its name. -/
@[simp]
theorem ofDisplayName?_displayName (controller : Controller) :
    ofDisplayName? controller.displayName = some controller := by
  cases controller <;> decide

/-- What is found under a name has that name. -/
theorem displayName_of_ofDisplayName? {name : String} {controller : Controller}
    (found : ofDisplayName? name = some controller) : controller.displayName = name := by
  simpa using List.find?_some found

end Controller

/-- A kind of control on a controller. -/
inductive Slot
  /-- A button. -/
  | button
  /-- An axis of a stick, or a trigger. -/
  | axis
  /-- A rumble motor. -/
  | rumble
  /-- A light. -/
  | led
deriving DecidableEq, Repr

end RobotBlocks
