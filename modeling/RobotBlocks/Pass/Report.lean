import RobotBlocks.Graph.Definition

/-!
# Reports of a pass

What a pass did, node by node, in the order of the visits.
-/

set_option autoImplicit false

namespace RobotBlocks

/-- What a pass did to one node. -/
structure NodeOutcome where
  /-- The node. -/
  node : NodeId
  /-- Whether what is saved of the node changed. -/
  changed : Bool
  /-- Whether a label that the block shows changed. -/
  relabelled : Bool
  /-- The warning after the pass. -/
  warning : Option String
deriving DecidableEq, Repr

/-- What a pass did, in the order of its visits. -/
abbrev PassReport : Type := List NodeOutcome

namespace PassReport

/-- The nodes of which something else is saved now. -/
def changed (report : PassReport) : List NodeId :=
  (report.filter NodeOutcome.changed).map NodeOutcome.node

/-- The nodes that show another label now. -/
def relabelled (report : PassReport) : List NodeId :=
  (report.filter NodeOutcome.relabelled).map NodeOutcome.node

/-- The nodes with a warning. -/
def warned (report : PassReport) : List NodeId :=
  (report.filter fun outcome => outcome.warning.isSome).map NodeOutcome.node

/-- Whether no node has a warning. -/
def isClean (report : PassReport) : Bool :=
  report.warned.isEmpty

/-- What the pass did to a node, at its first visit. -/
def outcome? (report : PassReport) (id : NodeId) : Option NodeOutcome :=
  report.find? fun outcome => decide (outcome.node = id)

end PassReport

end RobotBlocks
