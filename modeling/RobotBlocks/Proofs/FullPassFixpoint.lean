import RobotBlocks.Proofs.PassEffect

/-!
# Full passes and the edits between them

A full pass settles a workspace: another one finds nothing to do. An edit of the graph sets off a
pass over the nodes that it concerns, and this is enough. The nodes that are concerned get the
repair that a full pass would give them (`GraphEdit.repair_concerned`), and the others refer to
nothing that was edited, so that they are as settled as before (`GraphEdit.settled_unconcerned`).

`GraphEdit.step_eq_fullPass` puts the two together for one edit, and
`GraphEdit.synchronized_run` carries the invariant over any number of them. The main statement
is `fullPass_idle_after_edits`.
-/

set_option autoImplicit false

namespace RobotBlocks

/-! ## Settled workspaces -/

namespace Repair

/-- A node that its repair does not change is reported as neither changed nor relabelled. -/
theorem outcome_of_fixed {repair : Repair} {node : CallNode} (fixed : repair.run node = node) :
    repair.outcome node = ⟨node.id, false, false, node.warning⟩ := by
  simp [outcome, fixed]

/-- A repair that leaves a node as it is makes no change. -/
theorem change?_of_fixed {repair : Repair} {node : CallNode} (fixed : repair.run node = node) :
    repair.change? node = none := by
  simp [change?, fixed]

end Repair

namespace Workspace

/-- A workspace in which a full pass finds nothing to repair. -/
def Settled (workspace : Workspace) : Prop :=
  ∀ node ∈ workspace.nodes, (workspace.repairFor .graphLoaded).run node = node

/-- The report of a pass that finds nothing to do: every node with the warning that it has. -/
def idleReport (workspace : Workspace) : PassReport :=
  workspace.nodes.map fun node => ⟨node.id, false, false, node.warning⟩

/-- A full pass leaves a settled workspace. -/
theorem settled_fullPass (workspace : Workspace) (distinct : workspace.nodeIds.Nodup) :
    (workspace.runPass .graphLoaded).1.Settled := by
  rw [workspace.runPass_eq .graphLoaded distinct]
  intro node member
  obtain ⟨before, -, rfl⟩ := List.mem_map.mp member
  exact (Trigger.graphLoaded.settling_repair workspace.components
    workspace.definitions).run_run before

/-- A full pass over a settled workspace changes nothing at all. -/
theorem Settled.fullPass {workspace : Workspace} (settled : workspace.Settled)
    (distinct : workspace.nodeIds.Nodup) :
    workspace.runPass .graphLoaded = (workspace, workspace.idleReport) := by
  have everyNode : workspace.nodes.filter Trigger.graphLoaded.concerns = workspace.nodes :=
    List.filter_eq_self.mpr fun _ _ => rfl
  have nodes : workspace.nodes.map (workspace.afterPass .graphLoaded) = workspace.nodes :=
    (List.map_congr_left settled).trans (List.map_id' workspace.nodes)
  have changes : workspace.nodes.filterMap (workspace.repairFor .graphLoaded).change? = [] :=
    List.filterMap_eq_nil_iff.mpr fun node member =>
      Repair.change?_of_fixed (settled node member)
  have report : workspace.nodes.map (workspace.repairFor .graphLoaded).outcome =
      workspace.idleReport :=
    List.map_congr_left fun node member => Repair.outcome_of_fixed (settled node member)
  rw [workspace.runPass_eq .graphLoaded distinct, everyNode, nodes, changes, report]
  simp

/-- A pass does the work of a full pass if it gives the nodes that it concerns the repair of a
full pass and there is nothing to repair in the others. -/
theorem runPass_eq_fullPass (workspace : Workspace) (distinct : workspace.nodeIds.Nodup)
    (trigger : Trigger)
    (concerned : ∀ node ∈ workspace.nodes, trigger.concerns node = true →
      workspace.repairFor trigger node = workspace.repairFor .graphLoaded node)
    (others : ∀ node ∈ workspace.nodes, trigger.concerns node = false →
      (workspace.repairFor .graphLoaded).run node = node) :
    (workspace.runPass trigger).1 = (workspace.runPass .graphLoaded).1 := by
  have nodes : workspace.nodes.map (workspace.afterPass trigger) =
      workspace.nodes.map (workspace.afterPass .graphLoaded) := by
    refine List.map_congr_left fun node member => ?_
    rw [afterPass_of_concerned (concerns_graphLoaded node)]
    cases concerns : trigger.concerns node with
    | true =>
      rw [afterPass_of_concerned concerns, Repair.run_congr (concerned node member concerns)]
    | false => rw [afterPass_of_unconcerned concerns, others node member concerns]
  have changes : (workspace.nodes.filter trigger.concerns).filterMap
        (workspace.repairFor trigger).change? =
      (workspace.nodes.filter Trigger.graphLoaded.concerns).filterMap
        (workspace.repairFor .graphLoaded).change? := by
    rw [List.filterMap_filter, List.filterMap_filter]
    refine List.filterMap_congr fun node member => ?_
    rw [if_pos (concerns_graphLoaded node)]
    cases concerns : trigger.concerns node with
    | true => exact Repair.change?_congr (concerned node member concerns)
    | false => exact (Repair.change?_of_fixed (others node member concerns)).symm
  rw [workspace.runPass_eq trigger distinct, workspace.runPass_eq .graphLoaded distinct, nodes,
    changes]

end Workspace

/-! ## What the repair of a full pass depends on -/

namespace Trigger

/-- A full repair makes a node that calls a definition follow this definition. -/
theorem fullRepair_of_callsDefinition {node : CallNode}
    (calls : node.kind.callsDefinition = true)
    (live : List Component) (definitions : List Definition) :
    fullRepair live definitions node =
      node.followDefinition (node.definitionAmong definitions) := by
  have other : node.kind ≠ .componentMethod := by
    intro component
    rw [component] at calls
    exact Bool.false_ne_true calls
  rw [fullRepair, if_neg other, if_pos calls]

/-- A node that calls a definition follows what a full pass finds under its identifier. -/
theorem fullRepair_of_calls {node : CallNode} {id : NodeId} (calls : node.calls id = true)
    (live : List Component) (definitions : List Definition) :
    fullRepair live definitions node =
      node.followDefinition (Keyed.find? Definition.id id definitions) := by
  simp only [CallNode.calls, Bool.and_eq_true, decide_eq_true_eq] at calls
  obtain ⟨kind, refers⟩ := calls
  rw [fullRepair_of_callsDefinition kind, CallNode.definitionAmong, refers]
  rfl

/-- A full repair leaves a node alone that refers to nothing. -/
theorem fullRepair_of_other {node : CallNode} (other : node.kind ≠ .componentMethod)
    (callsNone : node.kind.callsDefinition = false)
    (live : List Component) (definitions : List Definition) :
    fullRepair live definitions node = (node, []) := by
  rw [fullRepair, if_neg other, callsNone]
  rfl

/-- A full repair makes a call of a component method follow the live components. -/
theorem fullRepair_of_componentMethod {node : CallNode} (kind : node.kind = .componentMethod)
    (live : List Component) (definitions : List Definition) :
    fullRepair live definitions node = node.followComponents live := by
  simp [fullRepair, kind]

/-- The repair of a full pass depends on the components only for nodes that call one, and on the
definitions only through the one that the node calls. -/
theorem fullRepair_congr {node : CallNode} {live live' : List Component}
    {definitions definitions' : List Definition}
    (components : node.kind = .componentMethod → live = live')
    (called : ∀ id, node.calls id = true →
      Keyed.find? Definition.id id definitions = Keyed.find? Definition.id id definitions') :
    fullRepair live definitions node = fullRepair live' definitions' node := by
  by_cases component : node.kind = .componentMethod
  · rw [components component, fullRepair_of_componentMethod component,
      fullRepair_of_componentMethod component]
  · by_cases kind : node.kind.callsDefinition = true
    · cases refers : node.definitionId with
      | none => simp [fullRepair, component, kind, CallNode.definitionAmong, refers]
      | some id =>
        have calls : node.calls id = true := by simp [CallNode.calls, kind, refers]
        rw [fullRepair_of_calls calls, fullRepair_of_calls calls, called id calls]
    · have callsNone : node.kind.callsDefinition = false := by simpa using kind
      rw [fullRepair_of_other component callsNone, fullRepair_of_other component callsNone]

end Trigger

/-- A node stays settled where its components and the definition that it calls stay the same. -/
theorem Workspace.Settled.of_agreeing {workspace edited : Workspace} (settled : workspace.Settled)
    {node : CallNode} (member : node ∈ workspace.nodes)
    (components : node.kind = .componentMethod → edited.components = workspace.components)
    (called : ∀ id, node.calls id = true → edited.definition? id = workspace.definition? id) :
    (edited.repairFor .graphLoaded).run node = node := by
  have same : edited.repairFor .graphLoaded node = workspace.repairFor .graphLoaded node :=
    Trigger.fullRepair_congr components called
  rw [Repair.run_congr same]
  exact settled node member

/-! ## Edits of the graph -/

namespace Workspace

/-- Chooses an entry of the drop-down list of a node that has one. -/
def chooseComponent (workspace : Workspace) (choice : NodeId × String) : Workspace :=
  workspace.modifyNode choice.1 fun node =>
    if node.kind = .componentMethod then node.setField .component choice.2 else node

/-- Chooses entries of drop-down lists, one after the other. -/
def chooseComponents (workspace : Workspace) (choices : List (NodeId × String)) : Workspace :=
  choices.foldl chooseComponent workspace

/-- A choice changes the nodes only. -/
theorem chooseComponents_eq (workspace : Workspace) (choices : List (NodeId × String)) :
    ∃ nodes, workspace.chooseComponents choices = { workspace with nodes } := by
  induction choices generalizing workspace with
  | nil => exact ⟨_, rfl⟩
  | cons choice rest ih => exact ih (workspace.chooseComponent choice)

/-- Choosing components adds no node, takes none out and moves none. -/
theorem nodeIds_chooseComponents (workspace : Workspace) (choices : List (NodeId × String)) :
    (workspace.chooseComponents choices).nodeIds = workspace.nodeIds := by
  induction choices generalizing workspace with
  | nil => rfl
  | cons choice rest ih =>
    refine (ih (workspace.chooseComponent choice)).trans ?_
    refine Keyed.keys_modify CallNode.id (fun node same => ?_) workspace.nodes
    rw [← same]
    split <;> rfl

/-- A choice leaves nodes alone that have no drop-down list. -/
theorem mem_of_mem_chooseComponents {workspace : Workspace} {choices : List (NodeId × String)}
    {node : CallNode} (member : node ∈ (workspace.chooseComponents choices).nodes)
    (kind : node.kind ≠ .componentMethod) : node ∈ workspace.nodes := by
  induction choices generalizing workspace with
  | nil => exact member
  | cons choice rest ih =>
    rcases Keyed.mem_of_mem_modify (ih member) with there | ⟨before, there, -, changed⟩
    · exact there
    · split at changed
      · rename_i component
        exact absurd (changed ▸ component) kind
      · exact changed ▸ there

end Workspace

/-- An edit of the graph, after which the pass runs that belongs to it. -/
inductive GraphEdit
  /-- A definition is added, renamed or given another signature. -/
  | define (definition : Definition)
  /-- A definition is taken out. -/
  | undefine (id : NodeId)
  /-- Entries of drop-down lists are chosen, and the robot gets another list of components. -/
  | attach (choices : List (NodeId × String)) (components : List Component)
  /-- A call node is taken out. -/
  | removeNode (id : NodeId)

namespace GraphEdit

/-- The edit itself. -/
def apply (workspace : Workspace) : GraphEdit → Workspace
  | .define definition => workspace.define definition
  | .undefine id => workspace.undefine id
  | .attach choices components => (workspace.chooseComponents choices).setComponents components
  | .removeNode id => workspace.removeNode id

/-- The pass that the edit sets off. -/
def trigger? : GraphEdit → Option Trigger
  | .define definition => some (.definitionEdited definition)
  | .undefine id => some (.definitionDeleted id)
  | .attach _ _ => some .componentsEdited
  | .removeNode _ => none

/-- The edit, and after it the pass that it sets off. -/
def step (workspace : Workspace) (edit : GraphEdit) : Workspace :=
  match edit.trigger? with
  | none => apply workspace edit
  | some trigger => ((apply workspace edit).runPass trigger).1

/-- Edits one after the other, each with its pass. -/
def run (workspace : Workspace) (edits : List GraphEdit) : Workspace :=
  edits.foldl step workspace

/-- No edit makes the identifier of a node appear twice. -/
theorem nodup_nodeIds_apply {workspace : Workspace} (distinct : workspace.nodeIds.Nodup)
    (edit : GraphEdit) : (apply workspace edit).nodeIds.Nodup := by
  cases edit with
  | define definition => exact distinct
  | undefine id => exact distinct
  | attach choices components =>
    have ids := workspace.nodeIds_chooseComponents choices
    exact (congrArg List.Nodup ids).mpr distinct
  | removeNode id => exact Keyed.nodup_keys_erase CallNode.id id workspace.nodes distinct

/-- No identifier of a definition comes twice after an edit if none did before. -/
theorem nodup_definitionIds_apply {workspace : Workspace}
    (distinct : (workspace.definitions.map Definition.id).Nodup) (edit : GraphEdit) :
    ((apply workspace edit).definitions.map Definition.id).Nodup := by
  cases edit with
  | define definition =>
    exact Keyed.nodup_keys_upsert Definition.id definition workspace.definitions distinct
  | undefine id => exact Keyed.nodup_keys_erase Definition.id id workspace.definitions distinct
  | attach choices components =>
    obtain ⟨nodes, chosen⟩ := workspace.chooseComponents_eq choices
    rw [apply, chosen]
    exact distinct
  | removeNode id => exact distinct

/-- The pass after an edit gives the nodes that it concerns the repair of a full pass. -/
theorem repair_concerned {workspace : Workspace}
    (distinct : (workspace.definitions.map Definition.id).Nodup) {edit : GraphEdit}
    {trigger : Trigger} (sets : edit.trigger? = some trigger) {node : CallNode}
    (concerned : trigger.concerns node = true) :
    (apply workspace edit).repairFor trigger node =
      (apply workspace edit).repairFor .graphLoaded node := by
  cases edit with
  | define definition =>
    obtain rfl : _ = trigger := Option.some.inj sets
    have found := Keyed.find?_upsert_self Definition.id definition workspace.definitions
    refine Eq.trans ?_ (Trigger.fullRepair_of_calls concerned _ _).symm
    exact congrArg node.followDefinition found.symm
  | undefine id =>
    obtain rfl : _ = trigger := Option.some.inj sets
    have found := Keyed.find?_erase_self Definition.id id distinct
    refine Eq.trans ?_ (Trigger.fullRepair_of_calls concerned _ _).symm
    exact congrArg node.followDefinition found.symm
  | attach choices components =>
    obtain rfl : _ = trigger := Option.some.inj sets
    exact (Trigger.fullRepair_of_componentMethod (of_decide_eq_true concerned) _ _).symm
  | removeNode id => exact absurd sets (Option.some_ne_none trigger).symm

/-- A node that the pass after an edit does not concern is settled after the edit, if it was
settled before. -/
theorem settled_unconcerned {workspace : Workspace} (settled : workspace.Settled)
    {edit : GraphEdit} {node : CallNode} (member : node ∈ (apply workspace edit).nodes)
    (unconcerned : ∀ trigger, edit.trigger? = some trigger → trigger.concerns node = false) :
    ((apply workspace edit).repairFor .graphLoaded).run node = node := by
  cases edit with
  | define definition =>
    have uncalled : node.calls definition.id = false := unconcerned _ rfl
    refine settled.of_agreeing member (fun _ => rfl) fun id calls => ?_
    have other : id ≠ definition.id := fun same => by simp [← same, calls] at uncalled
    exact Keyed.find?_upsert_of_ne Definition.id definition workspace.definitions other
  | undefine id =>
    have uncalled : node.calls id = false := unconcerned _ rfl
    refine settled.of_agreeing member (fun _ => rfl) fun called calls => ?_
    have other : called ≠ id := fun same => by simp [← same, calls] at uncalled
    exact Keyed.find?_erase_of_ne Definition.id workspace.definitions other
  | attach choices components =>
    have kind : node.kind ≠ .componentMethod := of_decide_eq_false (unconcerned _ rfl)
    have before := Workspace.mem_of_mem_chooseComponents member kind
    obtain ⟨nodes, chosen⟩ := workspace.chooseComponents_eq choices
    refine settled.of_agreeing before (fun component => absurd component kind) fun id _ => ?_
    rw [apply, chosen]
    rfl
  | removeNode id => exact settled node (Keyed.mem_of_mem_erase member)

end GraphEdit

/-! ## Runs of edits -/

/-- A workspace without doubles in which a full pass finds nothing to repair. -/
structure Workspace.Synchronized (workspace : Workspace) : Prop where
  nodes : workspace.nodeIds.Nodup
  definitions : (workspace.definitions.map Definition.id).Nodup
  settled : workspace.Settled

/-- A full pass synchronizes a workspace without doubles. -/
theorem Workspace.synchronized_fullPass (workspace : Workspace)
    (nodes : workspace.nodeIds.Nodup)
    (definitions : (workspace.definitions.map Definition.id).Nodup) :
    (workspace.runPass .graphLoaded).1.Synchronized where
  nodes := by
    rw [workspace.nodeIds_runPass]
    exact nodes
  definitions := by
    rw [workspace.runPass_eq .graphLoaded nodes]
    exact definitions
  settled := workspace.settled_fullPass nodes

namespace GraphEdit

variable {workspace : Workspace} (synchronized : workspace.Synchronized)
include synchronized

/-- In a synchronized workspace, an edit with its own pass ends where the edit with a full pass
ends. -/
theorem step_eq_fullPass (edit : GraphEdit) :
    step workspace edit = ((apply workspace edit).runPass .graphLoaded).1 := by
  have distinct := nodup_nodeIds_apply synchronized.nodes edit
  unfold step
  cases sets : edit.trigger? with
  | none =>
    -- an edit without a pass leaves nothing to do, so that a full pass may stand in for no pass
    have settled : (apply workspace edit).Settled := fun node member =>
      settled_unconcerned synchronized.settled member fun trigger some => by simp [sets] at some
    rw [settled.fullPass distinct]
  | some trigger =>
    refine Workspace.runPass_eq_fullPass _ distinct trigger ?_ ?_
    · exact fun node _ concerned =>
        repair_concerned synchronized.definitions sets concerned
    · intro node member unconcerned
      refine settled_unconcerned synchronized.settled member fun other setsOther => ?_
      rw [sets, Option.some.injEq] at setsOther
      exact setsOther ▸ unconcerned

/-- An edit with its pass keeps a workspace synchronized. -/
theorem synchronized_step (edit : GraphEdit) : (step workspace edit).Synchronized := by
  rw [step_eq_fullPass synchronized]
  exact (apply workspace edit).synchronized_fullPass (nodup_nodeIds_apply synchronized.nodes edit)
    (nodup_definitionIds_apply synchronized.definitions edit)

/-- Any number of edits, each with its pass, keep a workspace synchronized. -/
theorem synchronized_run (edits : List GraphEdit) : (run workspace edits).Synchronized := by
  induction edits generalizing workspace with
  | nil => exact synchronized
  | cons edit rest ih => exact ih (synchronized_step synchronized edit)

end GraphEdit

/-- After a full pass and any edits of the graph, each with the pass that it sets off, another
full pass changes nothing: no node, no field of a node, no entry of the log. It reports every
node as neither changed nor relabelled. Moreover the pass that the next edit sets off ends where a
full pass after this edit ends. -/
theorem fullPass_idle_after_edits (workspace : Workspace)
    (nodesDistinct : workspace.nodeIds.Nodup)
    (definitionsDistinct : (workspace.definitions.map Definition.id).Nodup)
    (edits : List GraphEdit) :
    let edited := GraphEdit.run (workspace.runPass .graphLoaded).1 edits
    edited.runPass .graphLoaded =
        (edited, edited.nodes.map fun node => ⟨node.id, false, false, node.warning⟩) ∧
      ∀ next : GraphEdit,
        GraphEdit.step edited next = ((GraphEdit.apply edited next).runPass .graphLoaded).1 := by
  intro edited
  have synchronized : edited.Synchronized :=
    GraphEdit.synchronized_run
      (workspace.synchronized_fullPass nodesDistinct definitionsDistinct) edits
  exact ⟨synchronized.settled.fullPass synchronized.nodes,
    GraphEdit.step_eq_fullPass synchronized⟩

/-- A caller is renamed, a component gets another name, the definition goes and so does its caller:
a full pass after all this has nothing to do. -/
theorem fullPass_idle_after_rename_and_removal :
    let shoot : Definition := ⟨⟨"def"⟩, "shoot", "shoot", .nothing, none, []⟩
    let motor : Component := ⟨⟨"m1"⟩, "left", "Motor"⟩
    let caller : CallNode :=
      { id := ⟨"n1"⟩, kind := .robotMethod, definitionId := some shoot.id }
    let mover : CallNode :=
      { id := ⟨"n2"⟩, kind := .componentMethod, componentId := some motor.id,
        componentClass := "Motor" }
    let workspace : Workspace :=
      { nodes := [caller, mover], components := [motor], definitions := [shoot] }
    let edits : List GraphEdit :=
      [.define { shoot with displayName := "fire", params := [⟨"speed", "float"⟩] },
        .attach [(mover.id, "right")] [{ motor with name := "front" }, ⟨⟨"m2"⟩, "right", "Motor"⟩],
        .undefine shoot.id, .removeNode caller.id]
    let edited := GraphEdit.run (workspace.runPass .graphLoaded).1 edits
    workspace.nodeIds.Nodup ∧ (workspace.definitions.map Definition.id).Nodup ∧
      edited.runPass .graphLoaded =
        (edited, edited.nodes.map fun node => ⟨node.id, false, false, node.warning⟩) := by
  intro shoot motor caller mover workspace edits edited
  have nodes : workspace.nodeIds.Nodup := by decide
  have definitions : (workspace.definitions.map Definition.id).Nodup := by decide
  exact ⟨nodes, definitions, (fullPass_idle_after_edits workspace nodes definitions edits).1⟩

end RobotBlocks
