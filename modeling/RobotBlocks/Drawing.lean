import RobotBlocks.Code.Context
import RobotBlocks.Fault

/-!
# Drawings of call nodes

What the editor draws for a call node: how it connects to its neighbours, its title, one socket
for each argument, its tooltip and its warning. All of it is read off the node. The title follows
a layout that depends on the kind of call alone.
-/

set_option autoImplicit false

namespace RobotBlocks

/-- An element in the layout of a title. -/
inductive TitleItem
  /-- A fixed text. -/
  | text (text : String)
  /-- The value of a field. -/
  | field (name : FieldName)
  /-- The drop-down list of components. -/
  | componentMenu
deriving DecidableEq, Repr

/-- The layout of the title of each kind of call. -/
def CallKind.titleLayout : CallKind → List TitleItem
  | .builtIn | .ownMethod => [.text "call", .field .function]
  | .moduleFunction | .staticMethod | .instanceMethod =>
    [.text "call", .field .owner, .text ".", .field .function]
  | .construction => [.text "create", .field .owner]
  | .event => [.text "fire", .field .function]
  | .componentMethod => [.text "call", .componentMenu, .text ".", .field .function]
  | .robotMethod => [.text "call", .text "robot", .text ".", .field .function]

/-- The layouts that the editor knows. -/
abbrev Layouts : Type := CallKind → Option (List TitleItem)

/-- The layouts of all kinds. -/
def Layouts.standard : Layouts := fun kind => some kind.titleLayout

/-- No layout at all. -/
def Layouts.empty : Layouts := fun _ => none

/-- How a block connects to its neighbours. -/
inductive Connection
  /-- It plugs into a socket that accepts the type; any socket will do when none is named. -/
  | output (check : Option String)
  /-- It stands between statements. -/
  | statement
deriving DecidableEq, Repr

/-- An element of a title. -/
inductive TitleElement
  /-- A fixed text. -/
  | text (text : String)
  /-- A field with its value. -/
  | value (name : FieldName) (value : String)
  /-- A drop-down list with its choices and the one chosen. -/
  | menu (name : FieldName) (choices : List String) (value : String)
deriving DecidableEq, Repr

/-- A socket for an argument. -/
structure Socket where
  /-- Its name. -/
  input : String
  /-- The label beside it. -/
  label : String
  /-- The type that it accepts; any when none is named. -/
  check : Option String
deriving DecidableEq, Repr

/-- What the editor draws for a call node. -/
structure Drawing where
  /-- How it connects to its neighbours. -/
  connection : Connection
  /-- The title, from left to right. -/
  title : List TitleElement
  /-- The sockets, from top to bottom. -/
  sockets : List Socket
  /-- The tooltip. -/
  tooltip : String
  /-- The warning. -/
  warning : Option String
deriving DecidableEq, Repr

namespace CallNode

/-- The names offered in the drop-down list. The present name stays on offer when no known
component has it. -/
def componentChoices (node : CallNode) : List String :=
  let names := node.components.map Component.name
  if names.contains node.componentName then names else names ++ [node.componentName]

/-- What the call does, in a sentence. -/
def purpose (node : CallNode) : String :=
  match node.kind with
  | .builtIn => "Calls the builtin function " ++ node.functionName ++ "."
  | .moduleFunction =>
    "Calls the module function " ++ node.ownerName ++ "." ++ node.functionName ++ "."
  | .staticMethod =>
    "Calls the static method " ++ node.ownerName ++ "." ++ node.functionName ++ "."
  | .construction => "Constructs an instance of the class " ++ node.ownerName ++ "."
  | .instanceMethod =>
    "Calls the instance method " ++ node.ownerName ++ "." ++ node.functionName ++ "."
  | .ownMethod => "Calls the instance method " ++ node.functionName ++ "."
  | .event => "Fires the event " ++ node.functionName ++ "."
  | .componentMethod =>
    "Calls the instance method " ++ node.componentClass ++ "." ++ node.functionName ++
      " on the component named " ++ node.componentName ++ "."
  | .robotMethod => "Calls the robot method " ++ node.functionName ++ "."

/-- The tooltip: what the call does, and the remark below it if there is one. -/
def fullTooltip (node : CallNode) : String :=
  if node.tooltip = "" then node.purpose else node.purpose ++ "\n\n" ++ node.tooltip

/-- How the block connects to its neighbours. -/
def connection (node : CallNode) : Connection :=
  if node.hasValue then .output node.returnType.check else .statement

/-- An element of the title. -/
def titleElement (node : CallNode) : TitleItem → TitleElement
  | .text text => .text text
  | .field name => .value name ((node.field name).getD "")
  | .componentMenu => .menu .component node.componentChoices node.componentName

/-- The socket of the argument at a position. -/
def socketOf (argument : Argument) (position : Nat) : Socket where
  input := Code.socketName position
  label := argument.name
  check := if argument.type = "" then none else some argument.type

/-- The sockets, one for each argument. -/
def sockets (node : CallNode) : List Socket :=
  node.arguments.zipIdx.map fun (argument, position) => socketOf argument position

/-- What the editor draws for a node, if it knows the layout of its kind. -/
def draw (layouts : Layouts) (node : CallNode) : Except Fault Drawing :=
  match layouts node.kind with
  | none => .error (.unknownCallKind node.kind.tag)
  | some layout =>
    .ok
      { connection := node.connection
        title := layout.map node.titleElement
        sockets := node.sockets
        tooltip := node.fullTooltip
        warning := node.warning }

end CallNode

end RobotBlocks
