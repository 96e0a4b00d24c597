import RobotBlocks.Json

/-!
# Why a JSON value is not what it should be

Each constructor is one cause; `DecodeFault.message` is its wording. A fault in the spelling of a
port has no wording: what it says depends on where in the text the port stands, which is not
kept.
-/

set_option autoImplicit false

namespace RobotBlocks.Json

/-- What should stand where another value was found. -/
inductive Expectation
  /-- A text. -/
  | text
  /-- A list of values. -/
  | sequence
  /-- An object used as a table. -/
  | map
  /-- A record, by name. -/
  | record (name : String)
  /-- The name of a choice, alone or as the only key of an object. -/
  | choice
  /-- Nothing but `null`. -/
  | unit
deriving DecidableEq, Repr

/-- How a message names what should stand there. -/
def Expectation.describe : Expectation → String
  | .text => "a string"
  | .sequence => "a sequence"
  | .map => "a map"
  | .record name => "struct " ++ name
  | .choice => "string or map"
  | .unit => "unit"

/-- Why a value was refused. -/
inductive DecodeFault
  /-- A value of another kind stands there. -/
  | wrongType (found : Json) (expected : Expectation)
  /-- A record lacks a field that it must have. -/
  | missingField (name : String)
  /-- A record has a field twice, under two spellings of its name or in a text that repeats it. -/
  | duplicateField (name : String)
  /-- A record written as a list ends before a field that it must have. -/
  | tooFewItems (position : Nat) (record : String) (fields : Nat)
  /-- A record written as a list has items after its last field. -/
  | tooManyItems (length : Nat)
  /-- The name of a choice is none of the names on offer. -/
  | unknownChoice (name : String) (choices : List String)
  /-- A choice written as an object does not have exactly one key. -/
  | notSingleKey
  /-- A key that should spell a number does not. -/
  | keyNotNumber
  /-- A key spells a number, or begins to, that is no port. -/
  | keyNotPort

/-- A name between backticks. -/
def ticked (name : String) : String :=
  "`" ++ name ++ "`"

namespace DecodeFault

/-- The wording of a fault, where it has one. -/
def message : DecodeFault → Option String
  | .wrongType found expected =>
    some ("invalid type: " ++ found.describe ++ ", expected " ++ expected.describe)
  | .missingField name => some ("missing field " ++ ticked name)
  | .duplicateField name => some ("duplicate field " ++ ticked name)
  | .tooFewItems position record fields =>
    some ("invalid length " ++ toString position ++ ", expected struct " ++ record ++ " with " ++
      toString fields ++ " elements")
  | .tooManyItems length =>
    some ("invalid length " ++ toString length ++ ", expected fewer elements in array")
  | .unknownChoice name choices =>
    some ("unknown variant " ++ ticked name ++ ", expected one of " ++
      String.intercalate ", " (choices.map ticked))
  | .notSingleKey => some "invalid value: map, expected map with a single key"
  | .keyNotNumber => some "invalid value: expected key to be a number in quotes"
  | .keyNotPort => none

end DecodeFault

end RobotBlocks.Json
