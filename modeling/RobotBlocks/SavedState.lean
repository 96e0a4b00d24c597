import RobotBlocks.Fault

/-!
# Saved nodes

What is kept of a call node when the graph is saved, and how a node is brought back from it. The
labels of the function and of its owner are fields of the block, which the editor saves itself;
the components that a node may choose from are looked up afresh.

Saving takes the component that the drop-down list selects, so a choice made since the last look
at the robot is kept. Loading shows the bound component under the name that it has now.
-/

set_option autoImplicit false

namespace RobotBlocks

/-- What is kept of a call node. Texts that are not set are empty. -/
structure SavedState where
  /-- The tag of the kind, kept as a text so that an unknown one is noticed on loading. -/
  kindTag : String
  /-- The text of the return type. -/
  returnText : String
  /-- The arguments. -/
  arguments : List Argument := []
  /-- The remark below the built-in tooltip. -/
  tooltip : String := ""
  /-- The module that generated code must import. -/
  importModule : String := ""
  /-- The name to call in generated code when it is not the label. -/
  calleeName : String := ""
  /-- The definition that is called. -/
  definitionId : Option NodeId := none
  /-- The name of the chosen component. -/
  componentName : String := ""
  /-- The class that the component must have. -/
  componentClass : String := ""
  /-- The component that is bound. -/
  componentId : Option NodeId := none
deriving DecidableEq, Repr

/-- The components of a class, in their order. -/
def componentsOfClass (className : String) (live : List Component) : List Component :=
  live.filter fun component => decide (component.className = className)

namespace CallNode

/-- What is kept of a node. -/
def save (node : CallNode) : SavedState where
  kindTag := node.kind.tag
  returnText := node.returnType.text
  arguments := node.arguments
  tooltip := node.tooltip
  importModule := node.importModule
  calleeName := node.calleeName
  definitionId := node.definitionId
  componentName := node.componentName
  componentClass := node.componentClass
  componentId := node.selectedComponentId

/-- The node with everything that is saved replaced, but for the name of the chosen component. -/
def restore (node : CallNode) (kind : CallKind) (state : SavedState) (live : List Component) :
    CallNode :=
  { node with
    kind
    returnType := .ofText state.returnText
    arguments := state.arguments
    tooltip := state.tooltip
    importModule := state.importModule
    calleeName := state.calleeName
    definitionId := state.definitionId
    componentClass := state.componentClass
    componentId := state.componentId
    components := componentsOfClass state.componentClass live }

/-- Shows the bound component under its present name, or under the saved name if it is not known.
An empty name leaves the field as it was. -/
def showComponent (node : CallNode) (savedName : String) : CallNode :=
  let name :=
    match node.boundComponent with
    | some component => component.name
    | none => savedName
  if name = "" then node else node.setField .component name

/-- Brings a saved node back into a node that is there; an unknown kind changes nothing. -/
def load (node : CallNode) (state : SavedState) (live : List Component) : Except Fault CallNode :=
  match CallKind.ofTag? state.kindTag with
  | none => .error (.unknownCallKind state.kindTag)
  | some kind => .ok ((node.restore kind state live).showComponent state.componentName)

/-- Brings a saved node back as a new node. -/
def ofSaved (id : NodeId) (state : SavedState) (live : List Component) : Except Fault CallNode :=
  match CallKind.ofTag? state.kindTag with
  | none => .error (.unknownCallKind state.kindTag)
  | some kind => load { id, kind } state live

end CallNode

end RobotBlocks
