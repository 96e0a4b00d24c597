import RobotBlocks.Json.Record

/-!
# Kinds of module

The three kinds of module that a project is made of. They differ in how their code reaches a
component. A kind is stored under its tag.
-/

set_option autoImplicit false

namespace RobotBlocks.Code

open Json

/-- The kinds of module; they differ in how a component is reached. -/
inductive ModuleKind
  /-- The robot itself. -/
  | robot
  /-- A part of the robot. -/
  | mechanism
  /-- A way to operate the robot. -/
  | opMode
deriving DecidableEq, Repr

namespace ModuleKind

/-- All kinds, in the order in which messages list them. -/
def all : List ModuleKind := [.robot, .mechanism, .opMode]

/-- The tag under which a kind is stored. -/
def tag : ModuleKind → String
  | .robot => "robot"
  | .mechanism => "mechanism"
  | .opMode => "opmode"

/-- The kind with the given tag, or the fault to report. -/
def ofTag (tag : String) : Except DecodeFault ModuleKind :=
  match all.find? fun kind => decide (kind.tag = tag) with
  | some kind => .ok kind
  | none => .error (.unknownChoice tag (all.map ModuleKind.tag))

/-- A kind as a JSON text. -/
def toJson (kind : ModuleKind) : Json := .text kind.tag

/-- Reads a kind: its tag alone, or an object with the tag as its only key and nothing under
it. -/
def decoder : Decoder ModuleKind
  | .text tag => ofTag tag
  | .object [(tag, content)] =>
    match ofTag tag, content with
    | .error fault, _ => .error fault
    | .ok kind, .null => .ok kind
    | .ok _, found => .error (.wrongType found .unit)
  | .object _ => .error .notSingleKey
  | found => .error (.wrongType found .choice)

end ModuleKind

end RobotBlocks.Code
