import Mathlib.Data.List.Basic
import RobotBlocks.Proofs.RepairEffect

/-!
# What a pass does to a workspace

One visit repairs one node in place and appends at most one change to the log
(`Workspace.visitNode_eq`). A pass is a fold of visits. Whatever identifiers the workspace holds,
each of them finds the node that it found before, repaired if the trigger concerns it
(`Workspace.node?_runPass`): a second visit of one node adds nothing, since repairs are settling.

Where no identifier comes twice, `Workspace.runPass_eq` gives the pass in one equation: the nodes
are mapped in place, the log grows by the changes of the nodes that are concerned, in order, and
the report lists their outcomes. Components, definitions and the mode of recording stay.
-/

set_option autoImplicit false

namespace RobotBlocks

/-- The change that a repair makes to what is saved of a node, if it makes one. -/
def Repair.change? (repair : Repair) (node : CallNode) : Option StateChange :=
  if node.save ≠ (repair.run node).save then
    some ⟨node.id, node.save, (repair.run node).save⟩
  else none

/-- Repairs that agree on a node make the same of it. -/
theorem Repair.run_congr {repair other : Repair} {node : CallNode}
    (same : repair node = other node) : repair.run node = other.run node := by
  rw [Repair.run, same, Repair.run]

/-- Repairs that make the same of a node make the same change to it. -/
theorem Repair.change?_congr {repair other : Repair} {node : CallNode}
    (same : repair node = other node) : repair.change? node = other.change? node := by
  rw [Repair.change?, Repair.run_congr same, Repair.change?]

/-- A change as a pass reports it, which is never recorded for undo. -/
def StateChange.unrecorded (change : StateChange) : ReportedChange :=
  ⟨change, false⟩

namespace Workspace

/-! ## One visit -/

/-- A visit puts the repaired node in the place of the node and appends its change to the log. -/
theorem visitNode_eq (workspace : Workspace) (repair : Repair) (node : CallNode) :
    workspace.visitNode repair node =
      { workspace with
        nodes := Keyed.modify CallNode.id node.id (fun _ => repair.run node) workspace.nodes
        reported :=
          workspace.reported ++ (repair.change? node).toList.map StateChange.unrecorded } := by
  by_cases same : node.save = (repair.run node).save
  · simp [visitNode, Repair.change?, modifyNode, same]
  · simp [visitNode, Repair.change?, modifyNode, same, suspendingUndo, report, setRecordsUndo,
      StateChange.unrecorded]

/-- A visit repairs the node that it finds and adds the outcome to the report. -/
theorem visit_of_found {repair : Repair} {progress : Workspace × PassReport} {id : NodeId}
    {node : CallNode} (found : progress.1.node? id = some node) :
    visit repair progress id =
      (progress.1.visitNode repair node, progress.2 ++ [repair.outcome node]) := by
  simp [visit, found]

/-- A visit passes over a node that is gone. -/
theorem visit_of_gone {repair : Repair} {progress : Workspace × PassReport} {id : NodeId}
    (gone : progress.1.node? id = none) : visit repair progress id = progress := by
  simp [visit, gone]

/-- What is found under an identifier carries it. -/
theorem id_of_node? {workspace : Workspace} {id : NodeId} {node : CallNode}
    (found : workspace.node? id = some node) : node.id = id :=
  Keyed.key_of_find? found

section Visits

variable {repair : Repair} (keepsId : ∀ node, (repair.run node).id = node.id)
include keepsId

/-- A visit is seen at the node that it repairs. -/
theorem node?_visit_self (progress : Workspace × PassReport) (id : NodeId) :
    (visit repair progress id).1.node? id = (progress.1.node? id).map repair.run := by
  cases found : progress.1.node? id with
  | none => rw [visit_of_gone found, found, Option.map_none]
  | some node =>
    have at_id := id_of_node? found
    have keeps : ∀ entry : CallNode, entry.id = id → (repair.run node).id = id :=
      fun _ _ => (keepsId node).trans at_id
    rw [visit_of_found found, visitNode_eq, node?, at_id,
      Keyed.find?_modify_self CallNode.id keeps, ← node?, found]
    rfl

/-- A visit is seen at no other node. -/
theorem node?_visit_of_ne (progress : Workspace × PassReport) {id other : NodeId}
    (different : other ≠ id) :
    (visit repair progress id).1.node? other = progress.1.node? other := by
  cases found : progress.1.node? id with
  | none => rw [visit_of_gone found]
  | some node =>
    have at_id := id_of_node? found
    have keeps : ∀ entry : CallNode, entry.id = id → (repair.run node).id = id :=
      fun _ _ => (keepsId node).trans at_id
    rw [visit_of_found found, visitNode_eq, node?, at_id,
      Keyed.find?_modify_of_ne CallNode.id keeps _ different, ← node?]

/-- A visit adds no node, takes none out and moves none. -/
theorem nodeIds_visit (progress : Workspace × PassReport) (id : NodeId) :
    (visit repair progress id).1.nodeIds = progress.1.nodeIds := by
  cases found : progress.1.node? id with
  | none => rw [visit_of_gone found]
  | some node =>
    have keeps : ∀ entry : CallNode, entry.id = node.id → (repair.run node).id = node.id :=
      fun _ _ => keepsId node
    rw [visit_of_found found, visitNode_eq]
    exact Keyed.keys_modify CallNode.id keeps progress.1.nodes

/-! ## Many visits -/

/-- Visits add no node, take none out and move none. -/
theorem nodeIds_visits (ids : List NodeId) (progress : Workspace × PassReport) :
    (ids.foldl (visit repair) progress).1.nodeIds = progress.1.nodeIds := by
  induction ids generalizing progress with
  | nil => rfl
  | cons id rest ih => rw [List.foldl_cons, ih, nodeIds_visit keepsId]

/-- After visits by a settling repair each listed node is repaired, once or several times over,
and no other node is touched. -/
theorem node?_visits (settling : repair.Settling) (ids : List NodeId)
    (progress : Workspace × PassReport) (id : NodeId) :
    (ids.foldl (visit repair) progress).1.node? id =
      if id ∈ ids then (progress.1.node? id).map repair.run else progress.1.node? id := by
  induction ids generalizing progress with
  | nil => simp
  | cons first rest ih =>
    rw [List.foldl_cons, ih]
    by_cases here : id = first
    · subst here
      -- listed again or not: repairing twice is repairing once
      rw [node?_visit_self keepsId, Option.map_map]
      have again : repair.run ∘ repair.run = repair.run := funext settling.run_run
      simp [again]
    · rw [node?_visit_of_ne keepsId progress here]
      simp [here]

/-- What is read off nodes that are visited later does not depend on an earlier visit. -/
theorem filterMap_node?_visit {β : Type} (read : Option CallNode → Option β)
    {first : NodeId} {rest : List NodeId} (absent : first ∉ rest)
    (progress : Workspace × PassReport) :
    rest.filterMap (fun id => read ((visit repair progress first).1.node? id)) =
      rest.filterMap fun id => read (progress.1.node? id) := by
  refine List.filterMap_congr fun id member => ?_
  have different : id ≠ first := fun same => absent (same ▸ member)
  rw [node?_visit_of_ne keepsId progress different]

/-- Visits of different nodes append the changes of these nodes to the log, in order. -/
theorem reported_visits (ids : List NodeId) (distinct : ids.Nodup)
    (progress : Workspace × PassReport) :
    (ids.foldl (visit repair) progress).1.reported =
      progress.1.reported ++
        (ids.filterMap fun id => (progress.1.node? id).bind repair.change?).map
          StateChange.unrecorded := by
  induction ids generalizing progress with
  | nil => simp
  | cons first rest ih =>
    rw [List.nodup_cons] at distinct
    have later := filterMap_node?_visit keepsId (fun node => node.bind repair.change?)
      distinct.1 progress
    rw [List.foldl_cons, ih distinct.2, later]
    cases found : progress.1.node? first with
    | none => simp [visit_of_gone found, found]
    | some node =>
      rw [visit_of_found found, visitNode_eq]
      cases changed : repair.change? node with
      | none => simp [found, changed]
      | some change => simp [found, changed]

/-- Visits of different nodes append the outcomes of these nodes to the report, in order. -/
theorem report_visits (ids : List NodeId) (distinct : ids.Nodup)
    (progress : Workspace × PassReport) :
    (ids.foldl (visit repair) progress).2 =
      progress.2 ++ ids.filterMap fun id => (progress.1.node? id).map repair.outcome := by
  induction ids generalizing progress with
  | nil => simp
  | cons first rest ih =>
    rw [List.nodup_cons] at distinct
    have later := filterMap_node?_visit keepsId (fun node => node.map repair.outcome)
      distinct.1 progress
    rw [List.foldl_cons, ih distinct.2, later]
    cases found : progress.1.node? first with
    | none => simp [visit_of_gone found, found]
    | some node => simp [visit_of_found found, found]

end Visits

/-- Visits change nothing of a workspace but its nodes and its log. -/
theorem surroundings_visits (repair : Repair) (ids : List NodeId)
    (progress : Workspace × PassReport) :
    ∃ nodes reported,
      (ids.foldl (visit repair) progress).1 = { progress.1 with nodes, reported } := by
  induction ids generalizing progress with
  | nil => exact ⟨_, _, rfl⟩
  | cons id rest ih =>
    obtain ⟨nodes, reported, later⟩ := ih (visit repair progress id)
    refine ⟨nodes, reported, ?_⟩
    rw [List.foldl_cons, later]
    cases found : progress.1.node? id with
    | none => rw [visit_of_gone found]
    | some node => rw [visit_of_found found, visitNode_eq]

/-! ## A pass -/

/-- The repair that a trigger calls for in a workspace. -/
def repairFor (workspace : Workspace) (trigger : Trigger) : Repair :=
  trigger.repair workspace.components workspace.definitions

/-- What a pass makes of a node: it is repaired if the trigger concerns it. -/
def afterPass (workspace : Workspace) (trigger : Trigger) (node : CallNode) : CallNode :=
  if trigger.concerns node then (workspace.repairFor trigger).run node else node

/-- A full pass concerns every node. -/
@[simp]
theorem concerns_graphLoaded (node : CallNode) : Trigger.graphLoaded.concerns node = true := rfl

/-- A pass repairs the nodes that it concerns. -/
theorem afterPass_of_concerned {workspace : Workspace} {trigger : Trigger} {node : CallNode}
    (concerned : trigger.concerns node = true) :
    workspace.afterPass trigger node = (workspace.repairFor trigger).run node :=
  if_pos concerned

/-- A pass leaves a node that it does not concern as it is. -/
theorem afterPass_of_unconcerned {workspace : Workspace} {trigger : Trigger} {node : CallNode}
    (unconcerned : trigger.concerns node = false) : workspace.afterPass trigger node = node :=
  if_neg (by simp [unconcerned])

/-- After an edit of its definition a caller is what it is after the repair alone. -/
theorem afterPass_definitionEdited (workspace : Workspace) {definition : Definition}
    {node : CallNode} (calls : node.calls definition.id = true) :
    workspace.afterPass (.definitionEdited definition) node =
      (node.followDefinition (some definition)).1.setWarnings [] := by
  have concerned : (Trigger.definitionEdited definition).concerns node = true := calls
  rw [afterPass_of_concerned concerned]
  show (node.followDefinition (some definition)).1.setWarnings
    ((node.followDefinition (some definition)).2.map PassWarning.message) = _
  rw [CallNode.followDefinition_some]
  rfl

section Pass

variable (workspace : Workspace) (trigger : Trigger)

/-- The identifiers that a pass visits. -/
def targetIds : List NodeId := workspace.targets workspace.nodeIds trigger

/-- A pass is a fold of visits. -/
theorem runPass_eq_visits :
    workspace.runPass trigger =
      (workspace.targetIds trigger).foldl (visit (workspace.repairFor trigger))
        (workspace, []) := rfl

/-- A repair keeps the identifier of the node. -/
theorem id_repairFor (node : CallNode) :
    ((workspace.repairFor trigger).run node).id = node.id :=
  CallNode.id_of_untouched (trigger.untouched_run workspace.components workspace.definitions node)

/-- A pass leaves alone what no repair touches. -/
theorem untouched_afterPass (node : CallNode) :
    (workspace.afterPass trigger node).untouched = node.untouched := by
  unfold afterPass
  split
  · exact trigger.untouched_run workspace.components workspace.definitions node
  · rfl

/-- A node that is found is visited if the trigger concerns it. -/
theorem mem_targetIds_iff {id : NodeId} {node : CallNode}
    (found : workspace.node? id = some node) :
    id ∈ workspace.targetIds trigger ↔ trigger.concerns node = true := by
  have listed : id ∈ workspace.nodeIds :=
    List.mem_map.mpr ⟨node, Keyed.mem_of_find? found, id_of_node? found⟩
  simp [targetIds, targets, listed, found]

/-- What a pass does to the node under an identifier, whatever the identifiers are. -/
theorem node?_runPass (id : NodeId) :
    (workspace.runPass trigger).1.node? id =
      (workspace.node? id).map (workspace.afterPass trigger) := by
  have settling : (workspace.repairFor trigger).Settling :=
    trigger.settling_repair workspace.components workspace.definitions
  rw [runPass_eq_visits, node?_visits (workspace.id_repairFor trigger) settling]
  cases found : workspace.node? id with
  | none => simp
  | some node =>
    rw [if_congr (workspace.mem_targetIds_iff trigger found) rfl rfl]
    simp only [Option.map_some, afterPass]
    split <;> rfl

/-- A pass repairs the node under an identifier if it concerns this node. -/
theorem node?_runPass_of_concerned {id : NodeId} {node : CallNode}
    (found : workspace.node? id = some node) (concerned : trigger.concerns node = true) :
    (workspace.runPass trigger).1.node? id = some ((workspace.repairFor trigger).run node) := by
  rw [node?_runPass, found, Option.map_some, afterPass_of_concerned concerned]

/-- A pass adds no node, takes none out and moves none. -/
theorem nodeIds_runPass : (workspace.runPass trigger).1.nodeIds = workspace.nodeIds := by
  rw [runPass_eq_visits, nodeIds_visits (workspace.id_repairFor trigger)]

variable (distinct : workspace.nodeIds.Nodup)
include distinct

/-- No identifier comes twice after a pass if none did before. -/
theorem nodup_nodeIds_runPass : (workspace.runPass trigger).1.nodeIds.Nodup := by
  rw [nodeIds_runPass]
  exact distinct

/-- After a pass the identifier of a node finds what the pass makes of it. -/
theorem node?_runPass_of_mem {node : CallNode} (member : node ∈ workspace.nodes) :
    (workspace.runPass trigger).1.node? node.id = some (workspace.afterPass trigger node) := by
  rw [node?_runPass, node?, Keyed.find?_of_mem CallNode.id distinct member, Option.map_some]

/-- Where no identifier comes twice, a pass visits the nodes that are concerned. -/
theorem targetIds_eq :
    workspace.targetIds trigger =
      (workspace.nodes.filter trigger.concerns).map CallNode.id := by
  unfold targetIds targets nodeIds
  rw [List.filter_map]
  congr 1
  refine List.filter_congr fun node member => ?_
  simp [node?, Keyed.find?_of_mem CallNode.id distinct member]

/-- Where no identifier comes twice, a pass maps the nodes in place. -/
theorem nodes_runPass :
    (workspace.runPass trigger).1.nodes = workspace.nodes.map (workspace.afterPass trigger) := by
  have keepsId : ∀ node, (workspace.afterPass trigger node).id = node.id := fun node =>
    CallNode.id_of_untouched (workspace.untouched_afterPass trigger node)
  -- the order is told by the identifiers, and what stands in each place by the look-ups
  have ids := workspace.nodeIds_runPass trigger
  have distinctAfter := workspace.nodup_nodeIds_runPass trigger distinct
  refine Keyed.ext CallNode.id ?_ distinctAfter fun id => ?_
  · rw [List.map_map, Function.comp_def, funext keepsId]
    exact ids
  · rw [Keyed.find?_map CallNode.id keepsId]
    exact workspace.node?_runPass trigger id

/-- What is read of the nodes that a pass visits is what is read of the nodes that it concerns, in
their order. -/
theorem filterMap_targetIds {β : Type} (read : CallNode → Option β) :
    ((workspace.targetIds trigger).filterMap fun id => (workspace.node? id).bind read) =
      (workspace.nodes.filter trigger.concerns).filterMap read := by
  rw [workspace.targetIds_eq trigger distinct, List.filterMap_map]
  refine List.filterMap_congr fun node member => ?_
  have found := Keyed.find?_of_mem CallNode.id distinct (List.mem_filter.mp member).1
  rw [Function.comp_apply, node?, found, Option.bind_some]

/-- Where no identifier comes twice, a pass repairs the nodes that are concerned, reports the
changes of these nodes in order, and lists their outcomes. -/
theorem runPass_eq :
    workspace.runPass trigger =
      ({ workspace with
          nodes := workspace.nodes.map (workspace.afterPass trigger)
          reported :=
            workspace.reported ++
              ((workspace.nodes.filter trigger.concerns).filterMap
                (workspace.repairFor trigger).change?).map StateChange.unrecorded },
        (workspace.nodes.filter trigger.concerns).map
          (workspace.repairFor trigger).outcome) := by
  have keepsId := workspace.id_repairFor trigger
  have ids : (workspace.targetIds trigger).Nodup := distinct.filter _
  have nodes := workspace.nodes_runPass trigger distinct
  have reported : (workspace.runPass trigger).1.reported = workspace.reported ++
      ((workspace.nodes.filter trigger.concerns).filterMap
        (workspace.repairFor trigger).change?).map StateChange.unrecorded := by
    rw [runPass_eq_visits, reported_visits keepsId _ ids,
      workspace.filterMap_targetIds trigger distinct]
  have report : (workspace.runPass trigger).2 =
      (workspace.nodes.filter trigger.concerns).map (workspace.repairFor trigger).outcome := by
    rw [runPass_eq_visits, report_visits keepsId _ ids, List.nil_append]
    simp only [Option.map_eq_bind]
    rw [workspace.filterMap_targetIds trigger distinct, ← List.filterMap_eq_map]
  -- Visits write nowhere but to the nodes and the reported changes, so that these two settle the
  -- workspace.
  obtain ⟨newNodes, newReported, shape⟩ :=
    surroundings_visits (workspace.repairFor trigger) (workspace.targetIds trigger) (workspace, [])
  rw [← runPass_eq_visits] at shape
  rw [shape] at nodes reported
  refine Prod.ext ?_ report
  rw [shape]
  simp only at nodes reported
  rw [nodes, reported]

end Pass

end Workspace

end RobotBlocks
