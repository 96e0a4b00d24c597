import RobotBlocks.Graph.CallNode
import RobotBlocks.SavedState

/-!
# The workspace

The block graph of one module in memory: its call nodes, the definitions and components that they
refer to, and the changes reported to the editor so far. Nodes and definitions are kept in the
order in which they first arrived, one for each identifier.

Each reported change carries whether it was recorded for undo. `suspendingUndo` runs an edit
without recording and then returns to the mode before it.
-/

set_option autoImplicit false

namespace RobotBlocks

/-- A change to what is saved of a node. -/
structure StateChange where
  /-- The node. -/
  node : NodeId
  /-- What was saved before. -/
  before : SavedState
  /-- What is saved after. -/
  after : SavedState
deriving DecidableEq, Repr

/-- A change as it was reported. -/
structure ReportedChange where
  /-- The change. -/
  change : StateChange
  /-- Whether it was recorded for undo. -/
  undoable : Bool
deriving DecidableEq, Repr

/-- The block graph of one module. -/
structure Workspace where
  /-- The call nodes, in the order of their arrival. -/
  nodes : List CallNode := []
  /-- The components attached at present. -/
  components : List Component := []
  /-- The definitions, in the order of their arrival. -/
  definitions : List Definition := []
  /-- The changes reported so far, oldest first. -/
  reported : List ReportedChange := []
  /-- Whether changes are recorded for undo. -/
  recordsUndo : Bool := true
deriving DecidableEq, Repr

namespace Workspace

/-- The type under which the editor keeps call nodes. -/
def callBlockType : String := "mrc_call_python_function"

/-- The identifiers of the call nodes, in order. -/
def nodeIds (workspace : Workspace) : List NodeId :=
  workspace.nodes.map CallNode.id

/-- The identifiers of the blocks of a type, in order; every block here is a call node. -/
def blocksOfType (workspace : Workspace) (type : String) : List NodeId :=
  if type = callBlockType then workspace.nodeIds else []

/-- The call node with an identifier. -/
def node? (workspace : Workspace) (id : NodeId) : Option CallNode :=
  Keyed.find? CallNode.id id workspace.nodes

/-- Adds a call node, in the place of the one with its identifier if there is one. -/
def addNode (workspace : Workspace) (node : CallNode) : Workspace :=
  { workspace with nodes := Keyed.upsert CallNode.id node workspace.nodes }

/-- Takes a call node out. -/
def removeNode (workspace : Workspace) (id : NodeId) : Workspace :=
  { workspace with nodes := Keyed.erase CallNode.id id workspace.nodes }

/-- Changes a call node in place. -/
def modifyNode (workspace : Workspace) (id : NodeId) (change : CallNode → CallNode) : Workspace :=
  { workspace with nodes := Keyed.modify CallNode.id id change workspace.nodes }

/-- Replaces the list of components. -/
def setComponents (workspace : Workspace) (components : List Component) : Workspace :=
  { workspace with components }

/-- The definition with an identifier. -/
def definition? (workspace : Workspace) (id : NodeId) : Option Definition :=
  Keyed.find? Definition.id id workspace.definitions

/-- Adds a definition, in the place of the one with its identifier if there is one. -/
def define (workspace : Workspace) (definition : Definition) : Workspace :=
  { workspace with definitions := Keyed.upsert Definition.id definition workspace.definitions }

/-- Takes a definition out. -/
def undefine (workspace : Workspace) (id : NodeId) : Workspace :=
  { workspace with definitions := Keyed.erase Definition.id id workspace.definitions }

/-- Reports a change. -/
def report (workspace : Workspace) (change : StateChange) : Workspace :=
  { workspace with reported := workspace.reported ++ [⟨change, workspace.recordsUndo⟩] }

/-- Forgets the changes reported so far. -/
def forgetReported (workspace : Workspace) : Workspace :=
  { workspace with reported := [] }

/-- Switches the recording for undo. -/
def setRecordsUndo (workspace : Workspace) (recordsUndo : Bool) : Workspace :=
  { workspace with recordsUndo }

/-- Runs an edit without recording for undo, and returns to the mode before it. -/
def suspendingUndo (edit : Workspace → Workspace) (workspace : Workspace) : Workspace :=
  (edit (workspace.setRecordsUndo false)).setRecordsUndo workspace.recordsUndo

end Workspace

end RobotBlocks
