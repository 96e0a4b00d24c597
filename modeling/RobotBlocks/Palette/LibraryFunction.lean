import RobotBlocks.Graph.Interchange

/-!
# Library functions

What the description files of the Python libraries say about a function: its name, what it
takes and gives back, and the class that declares it.
-/

set_option autoImplicit false

namespace RobotBlocks

open Json

/-- A function of a Python library. -/
structure LibraryFunction where
  /-- Its name. -/
  name : String
  /-- A remark for the tooltip. -/
  tooltip : String
  /-- The text of its return type. -/
  returnText : String
  /-- Its arguments, the receiver included. -/
  arguments : List Argument
  /-- The class that declares it; empty for a function of a module. -/
  declaringClass : String
deriving DecidableEq, Repr

namespace LibraryFunction

/-- A function as a JSON object. -/
def toJson (function : LibraryFunction) : Json :=
  .object
    [("functionName", .text function.name), ("tooltip", .text function.tooltip),
      ("returnType", .text function.returnText),
      ("args", .list (function.arguments.map Argument.toJson)),
      ("declaringClassName", .text function.declaringClass)]

/-- Reads an argument of a library function. -/
def argumentDecoder : Decoder Argument := Argument.decoderNamed "ArgData"

/-- Reads a function. -/
def decoder : Decoder LibraryFunction :=
  Fields.decoder "FunctionData"
    ((Fields.none LibraryFunction.mk).and (Field.required "functionName" .text)
      |>.and (Field.optional "tooltip" .text "")
      |>.and (Field.required "returnType" .text)
      |>.and (Field.optional "args" (.list argumentDecoder) [])
      |>.and (Field.optional "declaringClassName" .text ""))

end LibraryFunction

end RobotBlocks
