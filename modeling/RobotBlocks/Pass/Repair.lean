import RobotBlocks.SavedState

/-!
# Repairing one node

How a call node is brought in line with what it refers to. A node that calls a definition takes
over the label, the return type and the arguments of the definition; a changed return type or
changed arguments are announced by a latched warning, since the node may now sit in the wrong
place. A node that calls a component keeps the component that is selected and shows it under its
present name. When the reference is lost the node is kept as it is, with a warning that lasts
until the next pass.
-/

set_option autoImplicit false

namespace RobotBlocks

/-- What a pass has to say about a node. -/
inductive PassWarning
  /-- The component no longer exists. -/
  | componentMissing
  /-- The definition no longer exists. -/
  | methodMissing
  /-- The return type was taken over from a changed definition. -/
  | returnTypeChanged
  /-- The arguments were taken over from a changed definition. -/
  | argumentsChanged
deriving DecidableEq, Repr

/-- The wording of a warning. -/
def PassWarning.message : PassWarning → String
  | .componentMissing => "This block calls a method on a component that no longer exists."
  | .methodMissing => "This block calls a method that no longer exists."
  | .returnTypeChanged => "This block calls a method whose return type has changed."
  | .argumentsChanged => "This block calls a method whose arguments have changed."

namespace CallNode

/-- Takes the label of the definition over. -/
def takeLabel (node : CallNode) (definition : Definition) : CallNode :=
  node.setField .function definition.displayName

/-- Takes the name to call over, if the node has one or its kind needs one. -/
def takeCalleeName (node : CallNode) (definition : Definition) : CallNode :=
  if node.kind = .robotMethod ∨ node.calleeName ≠ "" then
    { node with calleeName := definition.emittedName }
  else node

/-- Takes the return type over, and says so if it is another one. -/
def takeReturnType (node : CallNode) (definition : Definition) : CallNode :=
  if node.returnType ≠ definition.returnType then
    { node with returnType := definition.returnType }.latch PassWarning.returnTypeChanged.message
  else node

/-- Takes the arguments over, and says so if they are other ones. -/
def takeArguments (node : CallNode) (definition : Definition) : CallNode :=
  if node.arguments ≠ definition.params then
    { node with arguments := definition.params }.latch PassWarning.argumentsChanged.message
  else node

/-- Brings a node in line with its definition; without one the node is left as it is. The
warnings are those that last until the next pass. -/
def followDefinition (node : CallNode) : Option Definition → CallNode × List PassWarning
  | none => (node, [.methodMissing])
  | some definition =>
    ((((node.takeLabel definition).takeCalleeName definition).takeReturnType
      definition).takeArguments definition, [])

/-- Binds the selected component and looks the components of the class up afresh. -/
def rebind (node : CallNode) (live : List Component) : CallNode :=
  { node with
    componentId := node.selectedComponentId
    components := componentsOfClass node.componentClass live }

/-- Brings a node in line with the components of the robot. The selection is read before the
known components are replaced. The warnings are those that last until the next pass. -/
def followComponents (node : CallNode) (live : List Component) : CallNode × List PassWarning :=
  let node := node.rebind live
  match node.boundComponent with
  | some component => (node.setField .component component.name, [])
  | none => (node, [.componentMissing])

end CallNode

/-- A way to bring a node in line with the graph around it. -/
abbrev Repair : Type := CallNode → CallNode × List PassWarning

/-- The node after a repair, with its warning. -/
def Repair.run (repair : Repair) (node : CallNode) : CallNode :=
  (repair node).1.setWarnings ((repair node).2.map PassWarning.message)

end RobotBlocks
