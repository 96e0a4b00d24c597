import RobotBlocks.Graph.CallNode
import RobotBlocks.Palette.LibraryFunction

/-!
# The palette

Call nodes ready to be placed: one way to build a node for each kind of call, from a library
function, from a definition in the graph, or from a component and a method of its class.
-/

set_option autoImplicit false

namespace RobotBlocks.Palette

/-- The part of a dotted name after its last dot. -/
def lastPart (name : List Char) : List Char :=
  (name.reverse.takeWhile (· ≠ '.')).reverse

/-- The label of the socket for a receiver: `my` and the bare name of the class. -/
def receiverLabel (className : String) : String :=
  "my" ++ String.ofList (lastPart className.toList)

/-- The arguments with a receiver in first place labelled after its class. -/
def labelReceiver (className : String) : List Argument → List Argument
  | [] => []
  | first :: rest =>
    if first.name = "self" ∧ className ≠ "" then
      { first with name := receiverLabel className } :: rest
    else first :: rest

/-- A node that calls a library function, without its labels. -/
def libraryNode (id : NodeId) (kind : CallKind) (function : LibraryFunction) : CallNode where
  id
  kind
  returnType := .ofText function.returnText
  tooltip := function.tooltip
  arguments := labelReceiver function.declaringClass function.arguments

/-- A call of a function that is always there. -/
def builtIn (id : NodeId) (function : LibraryFunction) : CallNode :=
  { libraryNode id .builtIn function with fields := { function := some function.name } }

/-- A call that names its module or class before the function. -/
def qualified (id : NodeId) (kind : CallKind) (importModule owner : String)
    (function : LibraryFunction) : CallNode :=
  { libraryNode id kind function with
    importModule
    fields := { owner := some owner, function := some function.name } }

/-- A call of a function of a module. -/
def moduleFunction (id : NodeId) (moduleName : String) (function : LibraryFunction) : CallNode :=
  qualified id .moduleFunction moduleName moduleName function

/-- A call of a static method; there is none for a function without a class. -/
def staticMethod? (id : NodeId) (importModule : String) (function : LibraryFunction) :
    Option CallNode :=
  if function.declaringClass = "" then none
  else some (qualified id .staticMethod importModule function.declaringClass function)

/-- The making of an instance. -/
def construction (id : NodeId) (importModule : String) (function : LibraryFunction) : CallNode :=
  { libraryNode id .construction function with
    importModule
    fields := { owner := some function.declaringClass } }

/-- A call of a method of the value in the first socket. -/
def instanceMethod (id : NodeId) (function : LibraryFunction) : CallNode :=
  { libraryNode id .instanceMethod function with
    fields := { owner := some function.declaringClass, function := some function.name } }

/-- A call of a definition in the graph. -/
def definitionCall (id : NodeId) (kind : CallKind) (definition : Definition) : CallNode where
  id
  kind
  returnType := definition.returnType
  definitionId := some definition.id
  fields := { function := some definition.displayName }
  arguments := definition.params

/-- A call of a method defined in the module being edited. -/
def ownMethod (id : NodeId) (definition : Definition) : CallNode :=
  { definitionCall id .ownMethod definition with calleeName := definition.emittedName }

/-- A call of a method defined on the robot. -/
def robotMethod (id : NodeId) (definition : Definition) : CallNode :=
  { definitionCall id .robotMethod definition with calleeName := definition.emittedName }

/-- The firing of an event. -/
def event (id : NodeId) (definition : Definition) : CallNode :=
  definitionCall id .event definition

/-- A call of a method of a component. The component is the receiver, so the first argument of
the method is left out. -/
def componentMethod (id : NodeId) (component : Component) (function : LibraryFunction) :
    CallNode where
  id
  kind := .componentMethod
  returnType := .ofText function.returnText
  tooltip := function.tooltip
  componentId := some component.id
  componentClass := component.className
  components := [component]
  fields := { component := some component.name, function := some function.name }
  arguments := function.arguments.drop 1

end RobotBlocks.Palette
