import RobotBlocks.Proofs.ChangeHistory
import RobotBlocks.Proofs.PassFindings
import RobotBlocks.Proofs.SavedNode

/-!
# What a pass leaves alone

A pass reaches the nodes that its trigger concerns, and of these nodes it writes a few fields only.
Which ones depends on the kind of the call. The rest of a node is told by leaving these fields out:
`CallNode.exceptSignature` for a call of a definition, `CallNode.exceptComponent` for a call of a
component and `CallNode.exceptWarning` for any other call, which gets a new warning at most. A pass
keeps the rest (`Workspace.exceptSignature_afterPass` and its companions). A call whose definition
is lost keeps everything but its warning, through any number of passes
(`Workspace.exceptWarning_runPasses`).

The changes that a pass reports are as narrow. The identifier of the component is the delicate part:
a pass over the components binds the node to the component that is selected, but a saved state tells
the selection and not the binding, and the selection is the same before and after.
-/

set_option autoImplicit false

namespace RobotBlocks

/-! ## The rest of a node -/

namespace CallNode

/-- A node but for the warning that it shows. -/
def exceptWarning (node : CallNode) : CallNode :=
  { node with warning := none }

/-- A node but for what its definition determines, and for its warnings. -/
def exceptSignature (node : CallNode) : CallNode :=
  { node with
    fields := { node.fields with function := none }
    calleeName := ""
    returnType := .nothing
    arguments := []
    latched := []
    warning := none }

/-- A node but for the component that it is bound to, the components that it knows, the name that it
shows for its component, and the warning that it shows. -/
def exceptComponent (node : CallNode) : CallNode :=
  { node with
    fields := { node.fields with component := none }
    componentId := none
    components := []
    warning := none }

/-- Following a definition changes the signature of a node and its warnings only. -/
theorem exceptSignature_followDefinition (node : CallNode) (definition? : Option Definition) :
    (node.followDefinition definition?).1.exceptSignature = node.exceptSignature := by
  cases definition? with
  | none => rfl
  | some definition =>
    rw [followDefinition_some]
    rfl

/-- Following the components changes what a node knows and shows of its component, and its warning,
only. -/
theorem exceptComponent_followComponents (node : CallNode) (live : List Component) :
    (node.followComponents live).1.exceptComponent = node.exceptComponent := by
  rw [followComponents_eq]
  dsimp only
  split
  · rfl
  · rfl

end CallNode

namespace SavedState

/-- A saved state but for what a definition determines. -/
def exceptSignature (state : SavedState) : SavedState :=
  { state with returnText := "", arguments := [], calleeName := "" }

/-- A saved state but for the name of the component. -/
def exceptComponentName (state : SavedState) : SavedState :=
  { state with componentName := "" }

end SavedState

/-! ## What one pass keeps -/

namespace Trigger

/-- Whether a pass concerns a node depends on what no repair touches. -/
theorem concerns_congr (trigger : Trigger) {left right : CallNode}
    (same : left.untouched = right.untouched) :
    trigger.concerns left = trigger.concerns right := by
  have kind := CallNode.kind_of_untouched same
  have definitionId := CallNode.definitionId_of_untouched same
  cases trigger with
  | definitionEdited definition => simp only [concerns, CallNode.calls, kind, definitionId]
  | definitionDeleted id => simp only [concerns, CallNode.calls, kind, definitionId]
  | componentsEdited => simp only [concerns, kind]
  | graphLoaded => rfl

end Trigger

namespace Workspace

section Frame

variable (workspace : Workspace) (trigger : Trigger) {node : CallNode}

/-- A pass keeps a part of a node if the repair of a full pass that knows as much keeps it. -/
theorem afterPass_keeps {α : Type} (part : CallNode → α)
    (kept : trigger.concerns node = true →
      part ((Trigger.fullRepair workspace.components (workspace.knownDefinitions trigger)).run
        node) = part node) :
    part (workspace.afterPass trigger node) = part node := by
  cases concerned : trigger.concerns node with
  | true =>
    have full := workspace.repairFor_eq_fullRepair concerned
    rw [afterPass_of_concerned concerned, Repair.run_congr full]
    exact kept concerned
  | false => rw [afterPass_of_unconcerned concerned]

/-- Of a node that calls a definition a pass changes the signature and the warnings only. -/
theorem exceptSignature_afterPass (calls : node.kind.callsDefinition = true) :
    (workspace.afterPass trigger node).exceptSignature = node.exceptSignature := by
  apply workspace.afterPass_keeps trigger
  intro _
  rw [Repair.run, Trigger.fullRepair_of_callsDefinition calls]
  exact node.exceptSignature_followDefinition _

/-- Of a call of a component method a pass changes what it knows and shows of its component, and its
warning, only. -/
theorem exceptComponent_afterPass (kind : node.kind = .componentMethod) :
    (workspace.afterPass trigger node).exceptComponent = node.exceptComponent := by
  apply workspace.afterPass_keeps trigger
  intro _
  rw [Repair.run, Trigger.fullRepair_of_componentMethod kind]
  exact node.exceptComponent_followComponents workspace.components

/-- Of a node that refers to nothing a pass changes at most the warning. -/
theorem exceptWarning_afterPass_of_other (other : node.kind ≠ .componentMethod)
    (callsNone : node.kind.callsDefinition = false) :
    (workspace.afterPass trigger node).exceptWarning = node.exceptWarning := by
  apply workspace.afterPass_keeps trigger
  intro _
  rw [Repair.run, Trigger.fullRepair_of_other other callsNone]
  rfl

/-- A call whose definition the pass does not know keeps everything but its warning. -/
theorem exceptWarning_afterPass_of_lost (calls : node.kind.callsDefinition = true)
    (lost : trigger.concerns node = true →
      node.definitionAmong (workspace.knownDefinitions trigger) = none) :
    (workspace.afterPass trigger node).exceptWarning = node.exceptWarning := by
  apply workspace.afterPass_keeps trigger
  intro concerned
  rw [Repair.run, Trigger.fullRepair_of_callsDefinition calls, lost concerned]
  rfl

/-! ## What many passes keep -/

/-- The workspace after passes one after the other. -/
def runPasses (workspace : Workspace) (passes : List Trigger) : Workspace :=
  passes.foldl (fun reached trigger => (reached.runPass trigger).1) workspace

/-- A pass changes nothing of a workspace but its nodes and its log. -/
theorem surroundings_runPass :
    ∃ nodes reported, (workspace.runPass trigger).1 = { workspace with nodes, reported } :=
  surroundings_visits (workspace.repairFor trigger) (workspace.targetIds trigger) (workspace, [])

/-- A pass does not change the definitions that another one knows. -/
theorem knownDefinitions_runPass (next : Trigger) :
    (workspace.runPass trigger).1.knownDefinitions next = workspace.knownDefinitions next := by
  obtain ⟨nodes, reported, after⟩ := workspace.surroundings_runPass trigger
  rw [after]
  cases next with
  | definitionEdited definition => rfl
  | definitionDeleted id => rfl
  | componentsEdited => rfl
  | graphLoaded => rfl

end Frame

/-- Passes that do not know the definition of a call keep everything of it but its warning. -/
theorem exceptWarning_runPasses {workspace : Workspace} {id : NodeId} {node : CallNode}
    (found : workspace.node? id = some node) (calls : node.kind.callsDefinition = true)
    (passes : List Trigger)
    (lost : ∀ trigger ∈ passes, trigger.concerns node = true →
      node.definitionAmong (workspace.knownDefinitions trigger) = none) :
    ∃ now, (workspace.runPasses passes).node? id = some now ∧
      now.exceptWarning = node.exceptWarning := by
  induction passes generalizing workspace node with
  | nil => exact ⟨node, found, rfl⟩
  | cons trigger rest ih =>
    let next := workspace.afterPass trigger node
    have untouched : next.untouched = node.untouched := workspace.untouched_afterPass trigger node
    have foundNext : (workspace.runPass trigger).1.node? id = some next := by
      rw [workspace.node?_runPass, found]
      rfl
    have callsNext : next.kind.callsDefinition = true := by
      rw [CallNode.kind_of_untouched untouched]
      exact calls
    -- what the later passes know of the node is what they knew before this pass
    have lostNext : ∀ later ∈ rest, later.concerns next = true →
        next.definitionAmong ((workspace.runPass trigger).1.knownDefinitions later) = none := by
      intro later member concerned
      rw [later.concerns_congr untouched] at concerned
      have unknown := lost later (List.mem_cons_of_mem trigger member) concerned
      rw [workspace.knownDefinitions_runPass, CallNode.definitionAmong,
        CallNode.definitionId_of_untouched untouched]
      exact unknown
    obtain ⟨now, foundNow, kept⟩ := ih foundNext callsNext lostNext
    have first : next.exceptWarning = node.exceptWarning :=
      workspace.exceptWarning_afterPass_of_lost trigger calls (lost trigger List.mem_cons_self)
    exact ⟨now, foundNow, kept.trans first⟩

/-! ## What a reported change keeps -/

section Reported

variable {workspace : Workspace} {trigger : Trigger} {node : CallNode}

/-- An entry that a pass appends to the log tells what became of a node of the workspace. -/
theorem mem_firedBy {entry : ReportedChange} (fired : entry ∈ workspace.firedBy trigger) :
    ∃ node ∈ workspace.nodes,
      entry = ⟨⟨node.id, node.save, (workspace.afterPass trigger node).save⟩, false⟩ ∧
      node.save ≠ (workspace.afterPass trigger node).save := by
  obtain ⟨change, changed, rfl⟩ := List.mem_map.mp fired
  obtain ⟨node, member, made⟩ := List.mem_filterMap.mp changed
  rw [changeBy_eq] at made
  split at made
  · rename_i differs
    obtain rfl := Option.some.inj made
    exact ⟨node, member, rfl, differs⟩
  · exact absurd made (Option.some_ne_none change).symm

/-- In the saved state of a node that calls a definition a pass changes the signature only. -/
theorem exceptSignature_save_afterPass (calls : node.kind.callsDefinition = true) :
    (workspace.afterPass trigger node).save.exceptSignature = node.save.exceptSignature := by
  -- the selection is read from fields that a definition does not determine
  have reads : ∀ state : CallNode,
      state.save.exceptSignature = state.exceptSignature.save.exceptSignature := fun _ => rfl
  rw [reads, workspace.exceptSignature_afterPass trigger calls, ← reads]

/-- In the saved state of a call of a component method a pass changes the name of the component
only. -/
theorem exceptComponentName_save_afterPass (kind : node.kind = .componentMethod) :
    (workspace.afterPass trigger node).save.exceptComponentName =
      node.save.exceptComponentName := by
  apply workspace.afterPass_keeps trigger fun state => state.save.exceptComponentName
  intro _
  have followed : ((Trigger.fullRepair workspace.components
      (workspace.knownDefinitions trigger)).run node).save =
        (node.followComponents workspace.components).1.save := by
    rw [Repair.run, Trigger.fullRepair_of_componentMethod kind]
    rfl
  rw [followed, node.save_followComponents]
  rfl

/-- The saved state of a node that refers to nothing is not changed by a pass. -/
theorem save_afterPass_of_other (other : node.kind ≠ .componentMethod)
    (callsNone : node.kind.callsDefinition = false) :
    (workspace.afterPass trigger node).save = node.save := by
  have reads : ∀ state : CallNode, state.save = state.exceptWarning.save := fun _ => rfl
  rw [reads, workspace.exceptWarning_afterPass_of_other trigger other callsNone, ← reads]

end Reported

end Workspace

/-- A pass changes only what it may. It keeps the list of nodes, with their identifiers, their kinds
and their order, and it leaves alone the nodes that its trigger does not concern. A call of a
definition keeps everything but its label, the name to call, the return type, the arguments and its
warnings. A call of a component keeps everything but the component that it is bound to, the
components that it knows, the name that it shows and the warning. Any other call keeps everything
but the warning. A reported change is a change of a call of a definition, in the return type, the
arguments and the name to call only, or of a call of a component, in its name only.

A call whose definition is lost keeps everything but its warning through any number of passes. -/
theorem pass_changes_only_what_it_may (workspace : Workspace)
    (distinct : workspace.nodeIds.Nodup) :
    (∀ trigger : Trigger,
      let after := (workspace.runPass trigger).1
      after.nodeIds = workspace.nodeIds ∧
      (∀ node ∈ workspace.nodes, ∃ now, after.node? node.id = some now ∧
        now.id = node.id ∧ now.kind = node.kind ∧
        (trigger.concerns node = false → now = node) ∧
        (node.kind.callsDefinition = true → now.exceptSignature = node.exceptSignature) ∧
        (node.kind = .componentMethod → now.exceptComponent = node.exceptComponent) ∧
        (node.kind ≠ .componentMethod → node.kind.callsDefinition = false →
          now.exceptWarning = node.exceptWarning)) ∧
      ∃ fired, after.reported = workspace.reported ++ fired ∧
        ∀ entry ∈ fired, ∃ node ∈ workspace.nodes, entry.change.node = node.id ∧
          (node.kind.callsDefinition = true ∧
              entry.change.after.exceptSignature = entry.change.before.exceptSignature ∨
            node.kind = .componentMethod ∧
              entry.change.after.exceptComponentName = entry.change.before.exceptComponentName)) ∧
    ∀ (passes : List Trigger), ∀ node ∈ workspace.nodes, node.kind.callsDefinition = true →
      (∀ trigger ∈ passes, trigger.concerns node = true →
        node.definitionAmong (workspace.knownDefinitions trigger) = none) →
      ∃ now, (workspace.runPasses passes).node? node.id = some now ∧
        now.exceptWarning = node.exceptWarning := by
  constructor
  · intro trigger after
    refine ⟨workspace.nodeIds_runPass trigger, ?_, workspace.firedBy trigger,
      (Workspace.reported_runPass distinct).1, ?_⟩
    · intro node member
      have untouched := workspace.untouched_afterPass trigger node
      refine ⟨_, workspace.node?_runPass_of_mem trigger distinct member,
        CallNode.id_of_untouched untouched, CallNode.kind_of_untouched untouched,
        Workspace.afterPass_of_unconcerned,
        workspace.exceptSignature_afterPass trigger, workspace.exceptComponent_afterPass trigger,
        workspace.exceptWarning_afterPass_of_other trigger⟩
    · intro entry fired
      obtain ⟨node, member, rfl, differs⟩ := Workspace.mem_firedBy fired
      refine ⟨node, member, rfl, ?_⟩
      by_cases calls : node.kind.callsDefinition = true
      · exact Or.inl ⟨calls, Workspace.exceptSignature_save_afterPass calls⟩
      · by_cases component : node.kind = .componentMethod
        · exact Or.inr ⟨component, Workspace.exceptComponentName_save_afterPass component⟩
        -- What calls neither is saved as before, so that no change of it is reported.
        · have callsNone : node.kind.callsDefinition = false := by simpa using calls
          exact absurd (Workspace.save_afterPass_of_other component callsNone).symm differs
  · intro passes node member calls lost
    have found := Keyed.find?_of_mem CallNode.id distinct member
    exact Workspace.exceptWarning_runPasses found calls passes lost

/-- A full pass meets a call of a motor that was renamed and an event that was deleted. The motor
call gets another name and keeps its tooltip, and the event keeps its arguments, also when it is
told once more that it was deleted. -/
theorem pass_changes_only_what_it_may_of_rename_and_loss :
    let left : Component := ⟨⟨"m1"⟩, "left", "Motor"⟩
    let mover : CallNode :=
      { id := ⟨"n1"⟩, kind := .componentMethod, tooltip := "Stops the motor.",
        componentId := some left.id, componentClass := "Motor", components := [left],
        fields := { component := some "left" } }
    let shout : CallNode :=
      { id := ⟨"n2"⟩, kind := .event, arguments := [⟨"word", "str"⟩],
        definitionId := some ⟨"def"⟩ }
    let workspace : Workspace :=
      { nodes := [mover, shout], components := [{ left with name := "front" }] }
    let passes : List Trigger := [.graphLoaded, .definitionDeleted ⟨"def"⟩]
    let after := (workspace.runPass .graphLoaded).1
    workspace.nodeIds.Nodup ∧
      (∃ now, after.node? mover.id = some now ∧ now.exceptComponent = mover.exceptComponent) ∧
      (∃ fired, after.reported = workspace.reported ++ fired ∧ fired ≠ [] ∧
        ∀ entry ∈ fired, ∃ node ∈ workspace.nodes, entry.change.node = node.id) ∧
      ∃ now, (workspace.runPasses passes).node? shout.id = some now ∧
        now.exceptWarning = shout.exceptWarning := by
  intro left mover shout workspace passes after
  have distinct : workspace.nodeIds.Nodup := by decide
  obtain ⟨onePass, manyPasses⟩ := pass_changes_only_what_it_may workspace distinct
  obtain ⟨-, nodes, fired, reported, entries⟩ := onePass .graphLoaded
  obtain ⟨now, found, -, -, -, -, component, -⟩ := nodes mover List.mem_cons_self
  have someFired : fired ≠ [] := by
    rintro rfl
    have grown : after.reported ≠ workspace.reported ++ [] := by decide
    exact grown reported
  have unknown : ∀ trigger ∈ passes, trigger.concerns shout = true →
      shout.definitionAmong (workspace.knownDefinitions trigger) = none := by decide
  have member : shout ∈ workspace.nodes := List.mem_cons_of_mem mover List.mem_cons_self
  refine ⟨distinct, ⟨now, found, component rfl⟩, ⟨fired, reported, someFired, ?_⟩,
    manyPasses passes shout member rfl unknown⟩
  intro entry there
  obtain ⟨node, known, named, -⟩ := entries entry there
  exact ⟨node, known, named⟩

end RobotBlocks
