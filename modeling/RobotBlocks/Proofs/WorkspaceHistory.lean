import RobotBlocks.Proofs.Activity
import RobotBlocks.Proofs.KeyedHistory
import RobotBlocks.Proofs.PassFrame

/-!
# Workspaces as the outcome of steps

What a workspace goes through are steps: its call nodes are added, taken out and edited, and between
these edits come activities. To the list of call nodes each step is an edit of a list with keys
(`nodes_perform`), and so it is to the list of definitions. A pass revises the call nodes in place.
So both lists are told by the history of their edits (`nodes_run`, `definitions_run`), and the main
statement `workspace_is_ordered_store` reads off what this means for identifiers and look-ups.
-/

set_option autoImplicit false

namespace RobotBlocks

/-- What happens to a workspace. -/
inductive WorkspaceStep
  /-- A call node is added, in the place of the one with its identifier if there is one. -/
  | add (node : CallNode)
  /-- A call node is taken out. -/
  | remove (id : NodeId)
  /-- A call node is changed in place, and keeps its identifier. -/
  | edit (id : NodeId) (change : CallNode → CallNode)
    (keepsId : ∀ node, (change node).id = node.id)
  /-- A pass, or an edit of the definitions or of the components. -/
  | act (activity : Activity)

namespace WorkspaceStep

/-- The workspace after a step. -/
def perform (workspace : Workspace) : WorkspaceStep → Workspace
  | .add node => workspace.addNode node
  | .remove id => workspace.removeNode id
  | .edit id change _ => workspace.modifyNode id change
  | .act activity => activity.perform workspace

/-- The workspace after steps one after the other. -/
def run (workspace : Workspace) (steps : List WorkspaceStep) : Workspace :=
  steps.foldl perform workspace

/-- What a step is to the call nodes. -/
def nodeEdit (workspace : Workspace) : WorkspaceStep → Keyed.Edit CallNode.id
  | .add node => .put node
  | .remove id => .take id
  | .edit id change keepsId =>
    .revise (fun node => if node.id = id then change node else node) fun node => by
      split
      · exact keepsId node
      · rfl
  | .act activity =>
    .revise (activity.effect workspace) fun node =>
      CallNode.id_of_untouched (activity.untouched_effect workspace node)

/-- What steps are to the call nodes, one after the other. What a pass does depends on the
workspace that it meets. -/
def nodeHistory (workspace : Workspace) : List WorkspaceStep → List (Keyed.Edit CallNode.id)
  | [] => []
  | step :: rest => step.nodeEdit workspace :: nodeHistory (step.perform workspace) rest

/-- What a step is to the definitions. -/
def definitionEdit : WorkspaceStep → Keyed.Edit Definition.id
  | .act (.define definition) => .put definition
  | .act (.undefine id) => .take id
  | _ => .revise id fun _ => rfl

/-- What steps are to the definitions, one after the other. -/
def definitionHistory (steps : List WorkspaceStep) : List (Keyed.Edit Definition.id) :=
  steps.map definitionEdit

/-! ## One step -/

section Perform

variable {workspace : Workspace} (step : WorkspaceStep)

/-- An activity changes the nodes in place, each as the activity affects it. -/
theorem nodes_perform_activity (distinct : workspace.nodeIds.Nodup) (activity : Activity) :
    (activity.perform workspace).nodes = workspace.nodes.map (activity.effect workspace) := by
  cases activity with
  | pass trigger => exact workspace.nodes_runPass trigger distinct
  | define definition => exact (List.map_id' _).symm
  | undefine id => exact (List.map_id' _).symm
  | attach components => exact (List.map_id' _).symm

/-- A step makes of the call nodes what its edit makes of the list. -/
theorem nodes_perform (distinct : workspace.nodeIds.Nodup) :
    (step.perform workspace).nodes = (step.nodeEdit workspace).apply workspace.nodes := by
  cases step with
  | add node => rfl
  | remove id => rfl
  | edit id change keepsId => exact Keyed.modify_eq_map CallNode.id id change distinct
  | act activity => exact nodes_perform_activity distinct activity

/-- No identifier comes twice after a step if none did before. -/
theorem nodup_nodeIds_perform (distinct : workspace.nodeIds.Nodup) :
    (step.perform workspace).nodeIds.Nodup := by
  rw [Workspace.nodeIds, nodes_perform step distinct]
  exact Keyed.Edit.nodup_keys_apply distinct _

/-- A pass leaves the definitions as they are. -/
theorem definitions_runPass (trigger : Trigger) :
    (workspace.runPass trigger).1.definitions = workspace.definitions := by
  obtain ⟨nodes, reported, after⟩ := workspace.surroundings_runPass trigger
  rw [after]

/-- A pass leaves the components as they are. -/
theorem components_runPass (trigger : Trigger) :
    (workspace.runPass trigger).1.components = workspace.components := by
  obtain ⟨nodes, reported, after⟩ := workspace.surroundings_runPass trigger
  rw [after]

/-- A step makes of the definitions what its edit makes of the list. -/
theorem definitions_perform :
    (step.perform workspace).definitions = step.definitionEdit.apply workspace.definitions := by
  cases step with
  | add node => exact (List.map_id _).symm
  | remove id => exact (List.map_id _).symm
  | edit id change keepsId => exact (List.map_id _).symm
  | act activity =>
    cases activity with
    | pass trigger => exact (definitions_runPass trigger).trans (List.map_id _).symm
    | define definition => rfl
    | undefine id => rfl
    | attach components => exact (List.map_id _).symm

end Perform

/-! ## Many steps -/

/-- Steps make of the call nodes of any workspace what the history of the steps makes of the list.
-/
theorem nodes_run_from {workspace : Workspace} (distinct : workspace.nodeIds.Nodup)
    (steps : List WorkspaceStep) :
    (run workspace steps).nodes =
      (nodeHistory workspace steps).foldl Keyed.Edit.apply workspace.nodes := by
  induction steps generalizing workspace with
  | nil => rfl
  | cons step rest ih =>
    show (run (step.perform workspace) rest).nodes =
      (nodeHistory (step.perform workspace) rest).foldl Keyed.Edit.apply
        ((step.nodeEdit workspace).apply workspace.nodes)
    rw [ih (nodup_nodeIds_perform step distinct), nodes_perform step distinct]

/-- The call nodes after steps are what the history of the steps makes of the empty list. -/
theorem nodes_run (steps : List WorkspaceStep) :
    (run {} steps).nodes = Keyed.Edit.run (nodeHistory {} steps) := by
  have none : (Workspace.nodeIds {}).Nodup := List.nodup_nil
  exact nodes_run_from none steps

/-- The definitions after steps are what the history of the steps makes of the empty list. -/
theorem definitions_run (steps : List WorkspaceStep) :
    (run {} steps).definitions = Keyed.Edit.run (definitionHistory steps) := by
  rw [Keyed.Edit.run, definitionHistory, List.foldl_map]
  exact (List.foldl_hom Workspace.definitions fun workspace step =>
    (definitions_perform step).symm).symm

end WorkspaceStep

open Keyed.Edit WorkspaceStep in
/-- A workspace is a store that keeps the order of arrival. After any run of steps no identifier of
a call node comes twice; the identifiers are those that have arrived, and they stand in the order of
their arrival, where replacing a node is no arrival. The same holds of the definitions. What an
identifier finds is the node that was added last under it, if it was not taken out since, with the
changes that edits and passes made to it since.

Taking a node out leaves the other nodes as they are and where they are, and so with definitions. A
pass changes nodes in place: none comes, none goes and none moves, and the definitions and the
components stay. -/
theorem workspace_is_ordered_store (steps : List WorkspaceStep) :
    let workspace := run {} steps
    let nodeEdits := nodeHistory {} steps
    let definitionIds := workspace.definitions.map Definition.id
    let definitionEdits := definitionHistory steps
    (workspace.nodeIds.Nodup ∧
      (∀ id, id ∈ workspace.nodeIds ↔ ∃! position, Arrives nodeEdits id position) ∧
      workspace.nodeIds.Pairwise (ArrivesBefore nodeEdits)) ∧
    (definitionIds.Nodup ∧
      (∀ id, id ∈ definitionIds ↔ ∃! position, Arrives definitionEdits id position) ∧
      definitionIds.Pairwise (ArrivesBefore definitionEdits)) ∧
    (∀ id node, workspace.node? id = some node ↔ LastPut nodeEdits id node) ∧
    (∀ id definition,
      workspace.definition? id = some definition ↔ LastPut definitionEdits id definition) ∧
    (∀ id,
      (workspace.removeNode id).nodes =
        workspace.nodes.filter (fun node => decide (node.id ≠ id)) ∧
      (workspace.undefine id).definitions =
        workspace.definitions.filter fun definition => decide (definition.id ≠ id)) ∧
    ∀ trigger,
      let after := (workspace.runPass trigger).1
      after.nodes = workspace.nodes.map (workspace.afterPass trigger) ∧
      after.nodeIds = workspace.nodeIds ∧ after.definitions = workspace.definitions ∧
      after.components = workspace.components := by
  intro workspace nodeEdits definitionIds definitionEdits
  -- Both stores are what their edits alone come to, whatever stands between these.
  have nodes : workspace.nodes = Keyed.Edit.run nodeEdits := nodes_run steps
  have definitions : workspace.definitions = Keyed.Edit.run definitionEdits :=
    definitions_run steps
  have nodeIds : workspace.nodeIds = (Keyed.Edit.run nodeEdits).map CallNode.id := by
    rw [Workspace.nodeIds, nodes]
  have namedBy : definitionIds = (Keyed.Edit.run definitionEdits).map Definition.id := by
    rw [← definitions]
  have distinct : workspace.nodeIds.Nodup := nodeIds ▸ nodup_keys_run nodeEdits
  have distinctDefinitions : definitionIds.Nodup := namedBy ▸ nodup_keys_run definitionEdits
  refine ⟨⟨distinct, ?_, ?_⟩, ⟨distinctDefinitions, ?_, ?_⟩, ?_, ?_, ?_, ?_⟩
  · rw [nodeIds]
    exact fun id => mem_keys_run_iff_unique
  · rw [nodeIds]
    exact pairwise_keys_run nodeEdits
  · rw [namedBy]
    exact fun id => mem_keys_run_iff_unique
  · rw [namedBy]
    exact pairwise_keys_run definitionEdits
  · intro id node
    rw [Workspace.node?, nodes]
    exact find?_run_eq_some_iff nodeEdits id node
  · intro id definition
    rw [Workspace.definition?, definitions]
    exact find?_run_eq_some_iff definitionEdits id definition
  · exact fun id => ⟨Keyed.erase_eq_filter CallNode.id id distinct,
      Keyed.erase_eq_filter Definition.id id distinctDefinitions⟩
  · intro trigger after
    exact ⟨workspace.nodes_runPass trigger distinct, workspace.nodeIds_runPass trigger,
      definitions_runPass trigger, components_runPass trigger⟩

open Keyed.Edit WorkspaceStep in
/-- A caller that is taken out and added anew arrives after the node that was added in between. What
its identifier finds then is the caller as it was added last, after the pass. -/
theorem workspace_is_ordered_store_of_return :
    let shoot : Definition := ⟨⟨"def"⟩, "shoot", "shoot", .nothing, none, []⟩
    let caller : CallNode := { id := ⟨"n1"⟩, kind := .robotMethod, definitionId := some shoot.id }
    let remark : CallNode := { id := ⟨"n2"⟩, kind := .builtIn }
    let edits : List WorkspaceStep :=
      [.act (.define shoot), .add caller, .add remark, .remove caller.id, .add caller]
    let steps := edits ++ [.act (.pass .graphLoaded)]
    (run {} steps).nodeIds = [remark.id, caller.id] ∧
      ArrivesBefore (nodeHistory {} steps) remark.id caller.id ∧
      (run {} steps).node? caller.id = some ((run {} edits).afterPass .graphLoaded caller) := by
  intro shoot caller remark edits steps
  obtain ⟨⟨-, -, ordered⟩, -, finds, -⟩ := workspace_is_ordered_store steps
  have nodeIds : (run {} steps).nodeIds = [remark.id, caller.id] := by decide
  rw [nodeIds, List.pairwise_pair] at ordered
  refine ⟨nodeIds, ordered, (finds _ _).mpr ?_⟩
  refine ⟨(nodeHistory {} steps).take 4, caller, (nodeHistory {} steps).drop 5, rfl, rfl, ?_, rfl⟩
  -- the pass is the only step after the caller came back
  rintro edit member (⟨node, rfl, -⟩ | rfl)
  · cases List.mem_singleton.mp member
  · cases List.mem_singleton.mp member

end RobotBlocks
