import RobotBlocks.Graph.CallKind
import RobotBlocks.Graph.Definition
import RobotBlocks.Keyed

/-!
# Call nodes

A call node is one call in the block graph. Its labels are fields of the block: the name of the
function, the module or class before it, and the component chosen in the drop-down list.

A node shows one warning, made of two parts. Latched warnings stay until they are acknowledged;
the others last from one pass over the graph to the next. `setWarnings` joins the two.
-/

set_option autoImplicit false

namespace RobotBlocks

/-- A field of the block that shows a call node. -/
inductive FieldName
  /-- The name of the function. -/
  | function
  /-- The name of the module or class before it. -/
  | owner
  /-- The name of the chosen component. -/
  | component
  /-- A field of the editor that has no meaning here. -/
  | other (name : String)
deriving DecidableEq, Repr

namespace FieldName

/-- The name under which the editor keeps a field. -/
def text : FieldName → String
  | .function => "FUNC"
  | .owner => "MODULE_OR_CLASS"
  | .component => "COMPONENT_NAME"
  | .other name => name

/-- The field that the editor keeps under a name. -/
def ofText (text : String) : FieldName :=
  if text = "FUNC" then .function
  else if text = "MODULE_OR_CLASS" then .owner
  else if text = "COMPONENT_NAME" then .component
  else .other text

end FieldName

/-- The values of the fields; a field that was never set has none. -/
structure BlockFields where
  /-- The name of the function. -/
  function : Option String := none
  /-- The name of the module or class before it. -/
  owner : Option String := none
  /-- The name of the chosen component. -/
  component : Option String := none
  /-- The fields without a meaning here, in the order in which they were first set. -/
  others : List (String × String) := []
deriving DecidableEq, Repr

namespace BlockFields

/-- The value of a field. -/
def get (fields : BlockFields) : FieldName → Option String
  | .function => fields.function
  | .owner => fields.owner
  | .component => fields.component
  | .other name => (Keyed.find? Prod.fst name fields.others).map Prod.snd

/-- The fields with one of them set. -/
def set (fields : BlockFields) (name : FieldName) (value : String) : BlockFields :=
  match name with
  | .function => { fields with function := some value }
  | .owner => { fields with owner := some value }
  | .component => { fields with component := some value }
  | .other name => { fields with others := Keyed.upsert Prod.fst (name, value) fields.others }

/-- A field just set has its value. -/
@[simp]
theorem get_set_self (fields : BlockFields) (name : FieldName) (value : String) :
    (fields.set name value).get name = some value := by
  cases name with
  | function => rfl
  | owner => rfl
  | component => rfl
  | other name => simp [set, get, Keyed.find?_upsert_self Prod.fst (name, value) fields.others]

end BlockFields

/-- One call in the block graph. Texts that are not set are empty. -/
structure CallNode where
  /-- Its identifier. -/
  id : NodeId
  /-- How it reaches the function that it calls. -/
  kind : CallKind
  /-- What the call gives back. -/
  returnType : ReturnType := .nothing
  /-- The arguments, one socket for each. -/
  arguments : List Argument := []
  /-- A remark shown below the built-in tooltip. -/
  tooltip : String := ""
  /-- The module that generated code must import. -/
  importModule : String := ""
  /-- The name to call in generated code when it is not the label. -/
  calleeName : String := ""
  /-- The definition that is called. -/
  definitionId : Option NodeId := none
  /-- The component that is bound. -/
  componentId : Option NodeId := none
  /-- The class that the component must have. -/
  componentClass : String := ""
  /-- The components of that class, as of the last look at the robot. -/
  components : List Component := []
  /-- The labels of the block. -/
  fields : BlockFields := {}
  /-- The warnings kept until they are acknowledged, oldest first. -/
  latched : List String := []
  /-- The warning that the block shows. -/
  warning : Option String := none
deriving DecidableEq, Repr

namespace CallNode

/-- The value of a field. -/
def field (node : CallNode) (name : FieldName) : Option String :=
  node.fields.get name

/-- The node with a field set. -/
def setField (node : CallNode) (name : FieldName) (value : String) : CallNode :=
  { node with fields := node.fields.set name value }

/-- Whether setting a field to `value` would change it. -/
def wouldChange (node : CallNode) (name : FieldName) (value : String) : Bool :=
  decide (node.field name ≠ some value)

/-- The label of the function; empty when it was never set. -/
def functionName (node : CallNode) : String :=
  node.fields.function.getD ""

/-- The module or class before the function; empty when it was never set. -/
def ownerName (node : CallNode) : String :=
  node.fields.owner.getD ""

/-- The chosen component; empty when none was ever chosen. -/
def componentName (node : CallNode) : String :=
  node.fields.component.getD ""

/-- The name to call: `calleeName` when it is set, and the label otherwise. -/
def calledName (node : CallNode) : String :=
  if node.calleeName = "" then node.functionName else node.calleeName

/-- Whether the call is an expression. -/
def hasValue (node : CallNode) : Bool :=
  node.returnType.hasValue

/-- What stands between two warnings. -/
def warningSeparator : String := "\n\n"

/-- The latched warnings, and after them those of `passing` that are not among them. -/
def allWarnings (node : CallNode) (passing : List String) : List String :=
  node.latched ++ passing.filter fun warning => !node.latched.contains warning

/-- Shows the latched warnings together with the given ones, or none if there are neither. -/
def setWarnings (node : CallNode) (passing : List String) : CallNode :=
  { node with
    warning :=
      match node.allWarnings passing with
      | [] => none
      | warnings => some (String.intercalate warningSeparator warnings) }

/-- Keeps a warning until it is acknowledged; one that is kept already is kept once. -/
def latch (node : CallNode) (warning : String) : CallNode :=
  if node.latched.contains warning then node
  else { node with latched := node.latched ++ [warning] }

/-- Drops every warning, latched or not. -/
def acknowledge (node : CallNode) : CallNode :=
  { node with latched := [], warning := none }

/-- The bound component, if it is among the known ones. -/
def boundComponent (node : CallNode) : Option Component :=
  match node.componentId with
  | none => none
  | some id => Keyed.find? Component.id id node.components

/-- The component that the drop-down list selects.

The chosen name counts only while the bound component is known under another name, which means
that the user chose another entry. A bound component that is not known stays bound, whatever
other component has taken its name. -/
def selectedComponentId (node : CallNode) : Option NodeId :=
  match node.boundComponent, node.fields.component with
  | none, _ => node.componentId
  | some bound, none => some bound.id
  | some bound, some chosen =>
    if chosen = bound.name then some bound.id
    else
      match Keyed.find? Component.name chosen node.components with
      | some other => some other.id
      | none => some bound.id

end CallNode

end RobotBlocks
