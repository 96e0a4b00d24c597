import RobotBlocks.Graph.Signature

/-!
# Definitions and components

What call nodes refer to: the methods defined in the graph and the components attached to the
robot. Both are known by the identifier that the editor gave them, so that a new name does not
make them another thing.
-/

set_option autoImplicit false

namespace RobotBlocks

/-- An identifier given by the editor. -/
structure NodeId where
  /-- The identifier as the editor spells it. -/
  name : String
deriving DecidableEq, Repr

/-- A method defined in the graph. It is the one source of the name, the return type and the
arguments of every node that calls it. -/
structure Definition where
  /-- Its identifier. -/
  id : NodeId
  /-- The label shown on the nodes that call it. -/
  displayName : String
  /-- Its name in generated code. -/
  emittedName : String
  /-- What it gives back. -/
  returnType : ReturnType
  /-- The receiver, which callers do not supply. -/
  receiver : Option Argument
  /-- The arguments that callers supply. -/
  params : List Argument
deriving DecidableEq, Repr

namespace Definition

/-- The receiver of a method. -/
def selfArgument : Argument := ⟨"self", ""⟩

/-- All arguments, the receiver first. -/
def arguments (definition : Definition) : List Argument :=
  definition.receiver.toList ++ definition.params

end Definition

/-- A named part of the robot: a motor, an arm. -/
structure Component where
  /-- Its identifier. -/
  id : NodeId
  /-- Its name, by which code refers to it. -/
  name : String
  /-- The name of its class. -/
  className : String
deriving DecidableEq, Repr

end RobotBlocks
