import RobotBlocks.Code.Identifier
import RobotBlocks.Code.Imports
import RobotBlocks.Code.ModuleKind
import RobotBlocks.Code.Precedence
import RobotBlocks.Graph.Definition

/-!
# The context of generated code

What the code of a call node depends on besides the node: the kind of module, one level of
indentation, the code plugged into the sockets, and the imports asked for so far.
-/

set_option autoImplicit false

namespace RobotBlocks.Code

/-- Code plugged into a socket of a node. -/
structure Plug where
  /-- The node. -/
  node : NodeId
  /-- The name of the socket. -/
  input : String
  /-- The code. -/
  code : String
  /-- How tightly the code binds. -/
  precedence : Precedence
deriving DecidableEq, Repr

/-- One level of indentation where a project does not set its own. -/
def standardIndent : String := "    "

/-- What the code of a call node depends on besides the node. -/
structure Context where
  /-- The kind of module. -/
  moduleKind : ModuleKind
  /-- One level of indentation. -/
  indent : String := standardIndent
  /-- The code plugged into the sockets, the latest first. -/
  plugs : List Plug := []
  /-- The imports asked for so far. -/
  imports : Imports := {}
deriving DecidableEq

/-- The name of the socket of the argument at a position. -/
def socketName (position : Nat) : String :=
  "ARG" ++ toString position

/-- The code between parentheses. -/
def parenthesized (code : String) : String :=
  "(" ++ code ++ ")"

namespace Context

/-- Plugs code into a socket; what was there before is forgotten. -/
def plug (context : Context) (plug : Plug) : Context :=
  { context with plugs := plug :: context.plugs }

/-- What is plugged into a socket. -/
def plug? (context : Context) (node : NodeId) (input : String) : Option Plug :=
  context.plugs.find? fun plug => decide (plug.node = node ∧ plug.input = input)

/-- The code plugged into a socket, between parentheses if it binds looser than its surroundings
allow. Empty code counts as nothing. -/
def value? (context : Context) (node : NodeId) (input : String) (outer : Precedence) :
    Option String :=
  match context.plug? node input with
  | none => none
  | some plug =>
    if plug.code = "" then none
    else if plug.precedence.looserThan outer then some (parenthesized plug.code)
    else some plug.code

/-- What stands for a value that is missing. -/
def noValue : String := "None"

/-- The code plugged into the socket of an argument, or what stands for a missing value. -/
def argument (context : Context) (node : NodeId) (position : Nat) (outer : Precedence) : String :=
  (context.value? node (socketName position) outer).getD noValue

/-- Asks for an import. -/
def importing (context : Context) (name : String) : Context :=
  { context with imports := context.imports.insert name }

end Context

end RobotBlocks.Code
