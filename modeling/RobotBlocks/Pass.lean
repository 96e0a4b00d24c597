import RobotBlocks.Graph.Workspace
import RobotBlocks.Pass.Repair
import RobotBlocks.Pass.Report

/-!
# Passes over the graph

A pass visits call nodes in order and repairs each of them. An edit of a definition or of the
components triggers a pass over the nodes that it concerns; a graph that was just loaded gets a
pass over all of its nodes. A visit that changes what is saved of a node reports this change
once, without recording it for undo: it follows from another edit and goes back with it.

The editor may list a node that is gone, which is passed over, and may list one twice, which is
then visited twice.
-/

set_option autoImplicit false

namespace RobotBlocks

/-- What sets a pass off. -/
inductive Trigger
  /-- A definition was renamed or got another signature. -/
  | definitionEdited (definition : Definition)
  /-- A definition was taken out of the graph. -/
  | definitionDeleted (id : NodeId)
  /-- Components were attached, renamed or taken off. -/
  | componentsEdited
  /-- The graph was loaded. -/
  | graphLoaded
deriving DecidableEq, Repr

/-- Whether a node calls the definition with an identifier. -/
def CallNode.calls (node : CallNode) (id : NodeId) : Bool :=
  node.kind.callsDefinition && decide (node.definitionId = some id)

/-- The one of the given definitions that a node calls. -/
def CallNode.definitionAmong (node : CallNode) (definitions : List Definition) :
    Option Definition :=
  node.definitionId.bind fun id => Keyed.find? Definition.id id definitions

namespace Trigger

/-- Whether a trigger concerns a node. -/
def concerns (trigger : Trigger) (node : CallNode) : Bool :=
  match trigger with
  | .definitionEdited definition => node.calls definition.id
  | .definitionDeleted id => node.calls id
  | .componentsEdited => decide (node.kind = .componentMethod)
  | .graphLoaded => true

/-- The repair of a full pass: each node follows what its kind refers to. -/
def fullRepair (live : List Component) (definitions : List Definition) : Repair := fun node =>
  if node.kind = .componentMethod then node.followComponents live
  else if node.kind.callsDefinition then
    node.followDefinition (node.definitionAmong definitions)
  else (node, [])

/-- The repair that a trigger calls for, given the components and definitions at its time. -/
def repair (trigger : Trigger) (live : List Component) (definitions : List Definition) : Repair :=
  match trigger with
  | .definitionEdited definition => fun node => node.followDefinition (some definition)
  | .definitionDeleted _ => fun node => node.followDefinition none
  | .componentsEdited => fun node => node.followComponents live
  | .graphLoaded => fullRepair live definitions

end Trigger

/-- The labels that a block shows: the function and the component. -/
def CallNode.labels (node : CallNode) : String × String :=
  (node.functionName, node.componentName)

/-- What a repair did to a node. -/
def Repair.outcome (repair : Repair) (node : CallNode) : NodeOutcome :=
  let repaired := repair.run node
  { node := node.id
    changed := decide (node.save ≠ repaired.save)
    relabelled := decide (repaired.labels ≠ node.labels)
    warning := repaired.warning }

namespace Workspace

/-- Repairs one node, and reports the change if something else is saved of it now. -/
def visitNode (workspace : Workspace) (repair : Repair) (node : CallNode) : Workspace :=
  let repaired := repair.run node
  let workspace := workspace.modifyNode node.id fun _ => repaired
  if node.save ≠ repaired.save then
    workspace.suspendingUndo fun workspace =>
      workspace.report ⟨node.id, node.save, repaired.save⟩
  else workspace

/-- Visits one node of a pass. A node that is gone leaves no trace. -/
def visit (repair : Repair) (progress : Workspace × PassReport) (id : NodeId) :
    Workspace × PassReport :=
  match progress.1.node? id with
  | none => progress
  | some node => (progress.1.visitNode repair node, progress.2 ++ [repair.outcome node])

/-- The listed nodes that a trigger concerns; a node that is gone concerns no trigger. -/
def targets (workspace : Workspace) (listed : List NodeId) (trigger : Trigger) : List NodeId :=
  listed.filter fun id =>
    match workspace.node? id with
    | none => false
    | some node => trigger.concerns node

/-- Runs the pass that a trigger sets off over the nodes that the editor lists. -/
def runPassOver (workspace : Workspace) (listed : List NodeId) (trigger : Trigger) :
    Workspace × PassReport :=
  let repair := trigger.repair workspace.components workspace.definitions
  (workspace.targets listed trigger).foldl (visit repair) (workspace, [])

/-- Runs the pass that a trigger sets off. -/
def runPass (workspace : Workspace) (trigger : Trigger) : Workspace × PassReport :=
  workspace.runPassOver workspace.nodeIds trigger

end Workspace

end RobotBlocks
