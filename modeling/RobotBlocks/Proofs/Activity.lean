import RobotBlocks.Proofs.PassEffect

/-!
# Runs of passes and edits

Between two edits of its call nodes a workspace goes through activities: passes, edits of the
definitions and new lists of components, in any order and any number. Only the passes reach the
call nodes (`Activity.node?_perform`), and none of them touches the identity of a node
(`Activity.untouched_effect`) or the list of nodes (`Activity.nodeIds_run`).
-/

set_option autoImplicit false

namespace RobotBlocks

/-- What happens to a workspace apart from edits of its call nodes. -/
inductive Activity
  /-- A pass; it need not fit the edit before it. -/
  | pass (trigger : Trigger)
  /-- A definition is added or replaced. -/
  | define (definition : Definition)
  /-- A definition is taken out. -/
  | undefine (id : NodeId)
  /-- The list of components is replaced. -/
  | attach (components : List Component)

namespace Activity

/-- The workspace after an activity. -/
def perform (workspace : Workspace) : Activity → Workspace
  | .pass trigger => (workspace.runPass trigger).1
  | .define definition => workspace.define definition
  | .undefine id => workspace.undefine id
  | .attach components => workspace.setComponents components

/-- The workspace after activities one after the other. -/
def run (workspace : Workspace) (activities : List Activity) : Workspace :=
  activities.foldl perform workspace

/-- What an activity makes of a call node. -/
def effect (workspace : Workspace) : Activity → CallNode → CallNode
  | .pass trigger, node => workspace.afterPass trigger node
  | .define _, node => node
  | .undefine _, node => node
  | .attach _, node => node

variable (workspace : Workspace)

/-- What is found under an identifier after an activity. -/
theorem node?_perform (activity : Activity) (id : NodeId) :
    (perform workspace activity).node? id =
      (workspace.node? id).map (effect workspace activity) := by
  cases activity with
  | pass trigger => exact workspace.node?_runPass trigger id
  | define definition => exact Option.map_id'.symm
  | undefine id => exact Option.map_id'.symm
  | attach components => exact Option.map_id'.symm

/-- Activities leave alone what no repair touches. -/
theorem untouched_effect (activity : Activity) (node : CallNode) :
    (effect workspace activity node).untouched = node.untouched := by
  cases activity with
  | pass trigger => exact workspace.untouched_afterPass trigger node
  | define definition => rfl
  | undefine id => rfl
  | attach components => rfl

/-- An activity adds no call node, takes none out and moves none. -/
theorem nodeIds_perform (activity : Activity) :
    (perform workspace activity).nodeIds = workspace.nodeIds := by
  cases activity with
  | pass trigger => exact workspace.nodeIds_runPass trigger
  | define definition => rfl
  | undefine id => rfl
  | attach components => rfl

/-- Activities leave the list of identifiers as it was. -/
theorem nodeIds_run (activities : List Activity) :
    (run workspace activities).nodeIds = workspace.nodeIds := by
  induction activities generalizing workspace with
  | nil => rfl
  | cons activity rest ih =>
    exact (ih (perform workspace activity)).trans (nodeIds_perform workspace activity)

end Activity

end RobotBlocks
