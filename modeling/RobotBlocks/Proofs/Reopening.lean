import RobotBlocks.Proofs.PassFindings
import RobotBlocks.Proofs.SavedNode

/-!
# Opening a saved graph again

The editor keeps two labels of a block itself, the one of the function and the one before it. The
rest is built anew from what was saved of the node (`CallNode.reopen`), and the latched warnings are
gone. Where a full pass left the graph that was saved, the full pass after the opening finds nothing
else to be different.

It meets two kinds of nodes. A node that calls a component is bound to the same component and shown
under the name that the first pass gave it (`CallNode.save_reopened_of_settled`). Any other node is
left as it is (`Trigger.fullRepair_reopened`): it matches its definition, if it finds one, since the
node that was saved did. What is lost was lost before (`CallNode.lostAmong_reopened`). The main
statement is `reopened_graph_is_undisturbed`.
-/

set_option autoImplicit false

namespace RobotBlocks

/-- Without an identifier no live component is found. -/
theorem firstLive_none (live : List Component) (className : String) :
    firstLive live none className = none := by
  refine firstLive_eq_none_iff.mpr fun component _ => ?_
  simp

/-! ## One node -/

namespace CallNode

/-- A node with the labels of another one that the editor keeps itself. -/
def withLabelsOf (built node : CallNode) : CallNode :=
  { built with
    fields := { built.fields with function := node.fields.function, owner := node.fields.owner } }

/-- The node that is built anew from what was saved, with the labels that the editor keeps. -/
def reopen (node : CallNode) (live : List Component) : Except Fault CallNode := do
  let built ← ofSaved node.id node.save live
  return built.withLabelsOf node

/-- The node that opening gives, without a look at the saved state. -/
def reopened (node : CallNode) (live : List Component) : CallNode :=
  (node.rebuilt node.id live).withLabelsOf node

section Reopened

variable (node : CallNode) (live : List Component)

/-- Opening a node again succeeds. -/
theorem reopen_eq : node.reopen live = .ok (node.reopened live) := by
  rw [reopen, ofSaved_save_eq]
  rfl

/-- A node that is opened again has the component selected that it had before. -/
theorem selected_reopened :
    (node.reopened live).selectedComponentId = node.selectedComponentId :=
  node.selected_rebuilt node.id live

/-- A node that is opened again shows the same name for its component once it has looked for it. -/
theorem liveName_reopened : (node.reopened live).liveName live = node.liveName live := by
  have selected := node.selected_reopened live
  have shown : (node.reopened live).componentName = node.liveName live :=
    node.componentName_rebuilt node.id live
  have sameClass : (node.reopened live).componentClass = node.componentClass := rfl
  rw [liveName, selected, sameClass, shown, liveName]
  cases firstLive live node.selectedComponentId node.componentClass with
  | none => rfl
  | some component => rfl

/-- A node that is opened again has lost what it had lost before. -/
theorem lostAmong_reopened (definitions : List Definition) :
    (node.reopened live).lostAmong live definitions = node.lostAmong live definitions := by
  have selected := node.selected_reopened live
  unfold lostAmong
  rw [selected]
  rfl

end Reopened

variable {node : CallNode} {live : List Component} {definitions : List Definition}

/-- A node that matches a definition does so when it is opened again, unless the return type of the
definition is lost in saving. -/
theorem MatchesDefinition.reopened {definition : Definition}
    (fits : node.MatchesDefinition definition)
    (roundTrip : ReturnType.ofText definition.returnType.text = definition.returnType) :
    (node.reopened live).MatchesDefinition definition where
  label := fits.label
  calleeName := fits.calleeName
  returnType := by
    show ReturnType.ofText node.returnType.text = definition.returnType
    rw [fits.returnType, roundTrip]
  arguments := fits.arguments

section Settled

variable (settled : (Trigger.fullRepair live definitions).run node = node)
include settled

/-- A settled node fits the definition that it calls. -/
theorem matchesDefinition_of_settled (calls : node.kind.callsDefinition = true)
    {definition : Definition} (found : node.definitionAmong definitions = some definition) :
    node.MatchesDefinition definition := by
  have fits := (node.matchesDefinition_follow definition).setWarnings
    ((node.followDefinition (some definition)).2.map PassWarning.message)
  rw [Repair.run, Trigger.fullRepair_of_callsDefinition calls, found] at settled
  rwa [settled] at fits

/-- A settled node shows the name that it shows once it has looked for its component. -/
theorem liveName_of_settled (bound : node.kind ≠ .componentMethod → node.componentId = none) :
    node.liveName live = node.componentName := by
  by_cases component : node.kind = .componentMethod
  · have followed : ((Trigger.fullRepair live definitions).run node).componentName =
        (node.followComponents live).1.componentName := by
      rw [Repair.run, Trigger.fullRepair_of_componentMethod component]
      rfl
    rw [settled, componentName_followComponents] at followed
    exact followed.symm
  · have unbound : node.boundComponent = none := by
      rw [boundComponent, bound component]
    have unselected : node.selectedComponentId = none := by
      rw [selectedComponentId, unbound]
      exact bound component
    rw [liveName, unselected, firstLive_none]

/-- What was saved of a settled node is saved of it when it is opened again. -/
theorem save_reopened_of_settled
    (bound : node.kind ≠ .componentMethod → node.componentId = none) :
    (node.reopened live).save = node.save := by
  have saved : (node.reopened live).save = { node.save with componentName := node.liveName live } :=
    node.save_rebuilt node.id live
  rw [saved, liveName_of_settled settled bound]
  rfl

/-- A settled node tells what it has lost. -/
theorem setWarnings_of_settled :
    node.setWarnings ((node.lostAmong live definitions).toList.map LostReference.message) =
      node := by
  have told := Trigger.messages_fullRepair live definitions node
  have again : ((Trigger.fullRepair live definitions).run node).setWarnings
      ((Trigger.fullRepair live definitions node).2.map PassWarning.message) =
        (Trigger.fullRepair live definitions).run node := rfl
  rw [settled, told] at again
  exact again

end Settled

/-! ## Its repair -/

/-- Following the components keeps the name of the function. -/
theorem functionName_followComponents (node : CallNode) (live : List Component) :
    (node.followComponents live).1.functionName = node.functionName := by
  rw [followComponents_eq]
  dsimp only
  split <;> rfl

/-- Two states of a node of which the same is saved and shown, with the same warnings latched. -/
structure Alike (before after : CallNode) : Prop where
  saved : after.save = before.save
  functionName : after.functionName = before.functionName
  latched : after.latched = before.latched

/-- States that are alike have the same labels. -/
theorem Alike.labels {before after : CallNode} (alike : before.Alike after) :
    after.labels = before.labels := by
  have componentName : after.componentName = before.componentName :=
    congrArg SavedState.componentName alike.saved
  unfold CallNode.labels
  rw [alike.functionName, componentName]

/-- A node without latched warnings tells its lost reference, if there is one. -/
theorem warning_setWarnings_of_unlatched {node : CallNode} (unlatched : node.latched = [])
    (lost : Option LostReference) :
    (node.setWarnings (lost.toList.map LostReference.message)).warning =
      lost.map LostReference.message := by
  unfold setWarnings allWarnings
  rw [unlatched]
  cases lost with
  | none => rfl
  | some reference => rfl

end CallNode

namespace Trigger

variable {live : List Component} {definitions : List Definition} {node : CallNode}
  (settled : (fullRepair live definitions).run node = node)
  (roundTrips : ∀ definition ∈ definitions,
    ReturnType.ofText definition.returnType.text = definition.returnType)
  (bound : node.kind ≠ .componentMethod → node.componentId = none)

include settled roundTrips in
/-- A full repair leaves a node alone that was settled before it was opened again and calls no
component. -/
theorem fullRepair_reopened (other : node.kind ≠ .componentMethod) :
    (fullRepair live definitions (node.reopened live)).1 = node.reopened live := by
  have sameKind : (node.reopened live).kind = node.kind := rfl
  have sameDefinition : (node.reopened live).definitionAmong definitions =
      node.definitionAmong definitions := rfl
  rw [fullRepair, sameKind, if_neg other, sameDefinition]
  by_cases calls : node.kind.callsDefinition = true
  · rw [if_pos calls]
    cases found : node.definitionAmong definitions with
    | none => rfl
    | some definition =>
      have known : definition ∈ definitions := by
        obtain ⟨id, -, there⟩ := Option.bind_eq_some_iff.mp found
        exact Keyed.mem_of_find? there
      have fits := node.matchesDefinition_of_settled settled calls found
      rw [(fits.reopened (roundTrips definition known)).follow]
  · rw [if_neg calls]

include settled roundTrips bound

/-- A full repair makes no difference to a node that was settled before it was opened again. -/
theorem alike_run_reopened :
    (node.reopened live).Alike ((fullRepair live definitions).run (node.reopened live)) := by
  suffices kept : (node.reopened live).Alike (fullRepair live definitions (node.reopened live)).1 by
    exact ⟨kept.saved, kept.functionName, kept.latched⟩
  by_cases component : node.kind = .componentMethod
  · -- the field of a component without a name is unset until the pass sets it to the empty name,
    -- but the two are saved and shown alike
    have sameKind : (node.reopened live).kind = .componentMethod := component
    rw [fullRepair_of_componentMethod sameKind]
    refine ⟨?_, ?_, ?_⟩
    · have saved := CallNode.save_reopened_of_settled settled bound
      have shown : node.liveName live = (node.reopened live).save.componentName := by
        rw [saved, CallNode.liveName_of_settled settled bound]
        rfl
      rw [CallNode.save_followComponents, CallNode.liveName_reopened, shown]
    · exact (node.reopened live).functionName_followComponents live
    · exact (node.reopened live).latched_followComponents live
  · rw [fullRepair_reopened settled roundTrips component]
    exact ⟨rfl, rfl, rfl⟩

/-- After the repair a node that was opened again tells what it has lost and nothing else. -/
theorem warning_run_reopened :
    ((fullRepair live definitions).run (node.reopened live)).warning =
      (node.lostAmong live definitions).map LostReference.message := by
  have alike := alike_run_reopened settled roundTrips bound
  rw [Repair.run, messages_fullRepair, node.lostAmong_reopened]
  exact CallNode.warning_setWarnings_of_unlatched alike.latched _

/-- The full repair makes no change to a node that was opened again. -/
theorem change?_reopened : (fullRepair live definitions).change? (node.reopened live) = none := by
  have alike := alike_run_reopened settled roundTrips bound
  rw [Repair.change?, alike.saved]
  simp

/-- The outcome for a node that was opened again has no change and tells what the node has lost. -/
theorem outcome_reopened :
    (fullRepair live definitions).outcome (node.reopened live) =
      ⟨node.id, false, false, (node.lostAmong live definitions).map LostReference.message⟩ := by
  have alike := alike_run_reopened settled roundTrips bound
  have warning := warning_run_reopened settled roundTrips bound
  rw [Repair.outcome, alike.saved, alike.labels, warning]
  simp [CallNode.reopened, CallNode.withLabelsOf, CallNode.rebuilt]

end Trigger

/-! ## A graph -/

namespace Workspace

/-- The workspace with every node opened again. -/
def reopen (workspace : Workspace) : Except Fault Workspace := do
  let nodes ← workspace.nodes.mapM fun node => node.reopen workspace.components
  return { workspace with nodes }

/-- The workspace that opening gives. -/
def reopened (workspace : Workspace) : Workspace :=
  { workspace with nodes := workspace.nodes.map fun node => node.reopened workspace.components }

variable (workspace : Workspace)

/-- Opening a workspace again succeeds. -/
theorem reopen_eq : workspace.reopen = .ok workspace.reopened := by
  have each : (fun node : CallNode => node.reopen workspace.components) = fun node =>
      pure (node.reopened workspace.components) :=
    funext fun node => node.reopen_eq workspace.components
  rw [reopen, each, List.mapM_pure]
  rfl

/-- Opening again adds no node, takes none out and moves none. -/
theorem nodeIds_reopened : workspace.reopened.nodeIds = workspace.nodeIds := by
  unfold nodeIds reopened
  rw [List.map_map]
  rfl

/-- In a workspace that was opened again an identifier finds the node of before, opened again. -/
theorem node?_reopened (id : NodeId) :
    workspace.reopened.node? id =
      (workspace.node? id).map fun node => node.reopened workspace.components := by
  have keeps : ∀ node : CallNode, (node.reopened workspace.components).id = node.id := fun _ => rfl
  exact Keyed.find?_map CallNode.id keeps id workspace.nodes

section Settled

variable {workspace} (distinct : workspace.nodeIds.Nodup) (settled : workspace.Settled)
  (bound : ∀ node ∈ workspace.nodes, node.kind ≠ .componentMethod → node.componentId = none)
  (roundTrips : ∀ definition ∈ workspace.definitions,
    ReturnType.ofText definition.returnType.text = definition.returnType)
include distinct settled bound roundTrips

/-- The full pass after the opening reports no change, and for each node the reference that it has
lost. -/
theorem Settled.pass_reopened :
    let lost (node : CallNode) := node.lostAmong workspace.components workspace.definitions
    (workspace.reopened.runPass .graphLoaded).1.reported = workspace.reported ∧
      (workspace.reopened.runPass .graphLoaded).2 = workspace.nodes.map fun node =>
        ⟨node.id, false, false, (lost node).map LostReference.message⟩ := by
  intro lost
  have distinctAfter : workspace.reopened.nodeIds.Nodup := by
    rw [workspace.nodeIds_reopened]
    exact distinct
  have everyNode : workspace.reopened.nodes.filter Trigger.graphLoaded.concerns =
      workspace.reopened.nodes := List.filter_eq_self.mpr fun _ _ => rfl
  have changes : workspace.reopened.nodes.filterMap
      (workspace.reopened.repairFor .graphLoaded).change? = [] := by
    refine List.filterMap_eq_nil_iff.mpr fun opened member => ?_
    obtain ⟨node, there, rfl⟩ := List.mem_map.mp member
    exact Trigger.change?_reopened (settled node there) roundTrips (bound node there)
  have outcomes : workspace.reopened.nodes.map
      (workspace.reopened.repairFor .graphLoaded).outcome = workspace.nodes.map fun node =>
        ⟨node.id, false, false, (lost node).map LostReference.message⟩ := by
    show (workspace.nodes.map _).map _ = _
    rw [List.map_map]
    exact List.map_congr_left fun node there =>
      Trigger.outcome_reopened (settled node there) roundTrips (bound node there)
  rw [workspace.reopened.runPass_eq .graphLoaded distinctAfter, everyNode, changes, outcomes]
  exact ⟨List.append_nil _, rfl⟩

end Settled

end Workspace

/-- A graph that a full pass left, saved and opened again, is undisturbed by the full pass that
follows. Every node can be built anew. The pass reports no change and relabels no node, and of
every node as much is saved as before, with nothing latched. The node shows the reference that it
has lost, if it has lost one, and this is what it showed before the graph was closed, next to the
warnings that were latched then. -/
theorem reopened_graph_is_undisturbed (before saved : Workspace)
    (left : saved = (before.runPass .graphLoaded).1) (distinct : saved.nodeIds.Nodup)
    (bound : ∀ node ∈ saved.nodes, node.kind ≠ .componentMethod → node.componentId = none)
    (roundTrips : ∀ definition ∈ saved.definitions,
      ReturnType.ofText definition.returnType.text = definition.returnType) :
    ∃ reopened, saved.reopen = .ok reopened ∧
      let pass := reopened.runPass .graphLoaded
      let lost (node : CallNode) := node.lostAmong saved.components saved.definitions
      pass.1.reported = saved.reported ∧
      pass.1.nodeIds = saved.nodeIds ∧
      (pass.2 = saved.nodes.map fun node =>
        ⟨node.id, false, false, (lost node).map LostReference.message⟩) ∧
      ∀ node ∈ saved.nodes, ∃ after, pass.1.node? node.id = some after ∧
        after.save = node.save ∧ after.latched = [] ∧
        after.warning = (lost node).map LostReference.message ∧
        node.warning =
          (node.setWarnings ((lost node).toList.map LostReference.message)).warning := by
  -- The pass before saving left no node that the full repair changes.
  have settled : saved.Settled := by
    rw [left]
    refine before.settled_fullPass ?_
    rwa [left, before.nodeIds_runPass] at distinct
  refine ⟨saved.reopened, saved.reopen_eq, ?_⟩
  intro pass lost
  obtain ⟨reported, report⟩ := settled.pass_reopened distinct bound roundTrips
  refine ⟨reported, ?_, report, fun node there => ?_⟩
  · exact (saved.reopened.nodeIds_runPass .graphLoaded).trans saved.nodeIds_reopened
  have settledNode : (Trigger.fullRepair saved.components saved.definitions).run node = node :=
    settled node there
  have alike := Trigger.alike_run_reopened settledNode roundTrips (bound node there)
  have found : saved.node? node.id = some node := Keyed.find?_of_mem CallNode.id distinct there
  refine ⟨(saved.reopened.repairFor .graphLoaded).run (node.reopened saved.components),
    ?_, ?_, alike.latched, ?_, ?_⟩
  · refine saved.reopened.node?_runPass_of_concerned .graphLoaded ?_ rfl
    rw [saved.node?_reopened, found, Option.map_some]
  · exact alike.saved.trans (CallNode.save_reopened_of_settled settledNode (bound node there))
  · exact Trigger.warning_run_reopened settledNode roundTrips (bound node there)
  · rw [CallNode.setWarnings_of_settled settledNode]

/-- A motor got another name and a gripper has none, a camera was taken off, a method was deleted
and another one got arguments: when the graph is opened again only what is lost is told. -/
theorem reopened_graph_of_lost_references :
    let aim : Definition := ⟨⟨"def"⟩, "Aim", "aim", .untyped, none, [⟨"angle", "float"⟩]⟩
    let call (id component className : String) : CallNode :=
      { id := ⟨id⟩, kind := .componentMethod, componentId := some ⟨component⟩
        componentClass := className, fields := { component := some "left" } }
    let before : Workspace :=
      { nodes :=
          [{ id := ⟨"aim"⟩, kind := .robotMethod, definitionId := some aim.id },
            { id := ⟨"shoot"⟩, kind := .event, definitionId := some ⟨"gone"⟩ },
            call "turn" "m1" "Motor", call "grip" "m2" "Gripper", call "look" "m3" "Camera"]
        components := [⟨⟨"m1"⟩, "front", "Motor"⟩, ⟨⟨"m2"⟩, "", "Gripper"⟩]
        definitions := [aim] }
    let saved := (before.runPass .graphLoaded).1
    saved.nodeIds.Nodup ∧
      (∀ node ∈ saved.nodes, node.kind ≠ .componentMethod → node.componentId = none) ∧
      (∀ definition ∈ saved.definitions,
        ReturnType.ofText definition.returnType.text = definition.returnType) ∧
      (saved.nodes.head?.map CallNode.latched =
        some [PassWarning.returnTypeChanged.message, PassWarning.argumentsChanged.message]) ∧
      ∃ reopened, saved.reopen = .ok reopened ∧
        (reopened.runPass .graphLoaded).1.reported = saved.reported ∧
        (reopened.runPass .graphLoaded).2.map NodeOutcome.warning =
          [none, some PassWarning.methodMissing.message, none, none,
            some PassWarning.componentMissing.message] := by
  intro aim call before saved
  have distinct : saved.nodeIds.Nodup := by decide
  have bound : ∀ node ∈ saved.nodes, node.kind ≠ .componentMethod → node.componentId = none := by
    decide
  have roundTrips : ∀ definition ∈ saved.definitions,
      ReturnType.ofText definition.returnType.text = definition.returnType := by decide
  obtain ⟨reopened, opened, reported, -, report, -⟩ :=
    reopened_graph_is_undisturbed before saved rfl distinct bound roundTrips
  refine ⟨distinct, bound, roundTrips, by decide, reopened, opened, reported, ?_⟩
  rw [report, List.map_map]
  decide

end RobotBlocks
