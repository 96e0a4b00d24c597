import RobotBlocks.Ascending
import RobotBlocks.Gamepad.Profile
import RobotBlocks.Json.Record

/-!
# Gamepads on ports

Which controller is on which port of the driver station. The names of the controllers are kept as
the project stores them: a name that is not known stands for a gamepad of the common layout, and
an empty name for no controller. The ports ascend, so that two assignments with the same entries
are equal.

In JSON a port is a key in decimal digits, without sign or leading zero.
-/

set_option autoImplicit false

namespace RobotBlocks

open Json

/-- Which controller is on which port. -/
structure Ports where
  /-- The ports and the stored names of their controllers. -/
  entries : List (UInt8 × String) := []
  /-- Each port comes once, and they ascend. -/
  ascending : entries.Pairwise fun a b => a.1 < b.1 := by simp
deriving DecidableEq

namespace Ports

/-- No port is assigned. -/
def empty : Ports := {}

/-- Assigns a stored name to a port. -/
def insert (ports : Ports) (port : UInt8) (name : String) : Ports where
  entries := Ascending.insert Prod.fst (port, name) ports.entries
  ascending := Ascending.pairwise_insert Prod.fst (port, name) ports.ascending

/-- Assigns a controller to a port. -/
def set (ports : Ports) (port : UInt8) (controller : Controller) : Ports :=
  ports.insert port controller.displayName

/-- The assignment that results from assigning names in order; a later one replaces an earlier
one for its port. -/
def ofList (entries : List (UInt8 × String)) : Ports :=
  entries.foldl (fun ports entry => ports.insert entry.1 entry.2) empty

/-- What a new project starts with: an F310 on each of the first two ports. -/
def initial : Ports :=
  (empty.set 0 .logitechF310).set 1 .logitechF310

/-- The stored name for a port. -/
def name? (ports : Ports) (port : UInt8) : Option String :=
  ports.entries.lookup port

/-- The controller that a stored name stands for. -/
def controllerNamed (name : String) : Controller :=
  if name = "" then .absent else (Controller.ofDisplayName? name).getD .generic

/-- The controller on a port. -/
def controllerAt (ports : Ports) (port : UInt8) : Controller :=
  match ports.name? port with
  | none => .absent
  | some name => controllerNamed name

/-- The entries other than those stored as no controller. -/
def withoutAbsent (ports : Ports) : Ports where
  entries := ports.entries.filter fun entry => decide (entry.2 ≠ Controller.absent.displayName)
  ascending := ports.ascending.filter _

/-- The ports with a controller. -/
def occupied (ports : Ports) : List UInt8 :=
  (ports.entries.map Prod.fst).filter fun port => decide (ports.controllerAt port ≠ .absent)

/-- Refuses ports that the driver station does not have; the first one is reported. -/
def check (ports : Ports) : Except SettingsFault Unit :=
  match ports.entries.find? fun entry => decide (lastGamepadPort < entry.1) with
  | some entry => .error (.badPort entry.1)
  | none => .ok ()

/-- The profile of the controller on a port. -/
def profileAt (ports : Ports) (registry : Registry) (port : UInt8) : Except Fault Profile :=
  registry.resolve (ports.controllerAt port)

/-- A port as a key. -/
def keyOf (port : UInt8) : String :=
  toString port.toNat

/-- The port that a key spells. A key that breaks off a number with other characters is told from
one that spells a number which is no port. -/
def portOfKey (key : List Char) : Except DecodeFault UInt8 :=
  match key with
  | [] => .error .keyNotNumber
  | '-' :: _ => .error .keyNotPort
  | _ =>
    let (digits, rest) := key.span Char.isDigit
    let value := Literal.natOfDigits digits
    if digits = [] then .error .keyNotNumber
    else if digits.head? = some '0' ∧ digits ≠ ['0'] then .error .keyNotPort
    else if 256 ≤ value then .error .keyNotPort
    else
      match rest with
      | [] => .ok (UInt8.ofNat value)
      | c :: _ =>
        if c = '.' ∨ c = 'e' ∨ c = 'E' then .error .keyNotPort else .error .keyNotNumber

/-- An assignment as a JSON object. -/
def toJson (ports : Ports) : Json :=
  .object (ports.entries.map fun (port, name) => (keyOf port, .text name))

/-- Reads one entry. -/
def entryOfJson (key : String) (found : Json) : Except DecodeFault (UInt8 × String) := do
  let port ← portOfKey key.toList
  let name ← Decoder.text found
  .ok (port, name)

/-- Reads an assignment. -/
def decoder : Decoder Ports
  | .object entries => ((Reading.entries entryOfJson entries).map ofList).result
  | found => .error (.wrongType found .map)

end Ports

end RobotBlocks
