import RobotBlocks.Proofs.Activity

/-!
# The component that a node means

A node means a component by its identifier, not by its name. Names may be exchanged, taken over by
another component or given to one that comes back: `CallNode.selectedComponentId`, which reads the
name against the list of the last look at the robot, stays what it was as long as nobody chooses
from the drop-down list. Each repair keeps it (`Trigger.selected_run`), since the name is read
before the list is replaced and rewritten afterwards, and so does saving a node and building it
anew (`CallNode.ofSaved_save`). The main statement is `selection_survives_quiet_run`.
-/

set_option autoImplicit false

namespace RobotBlocks

/-! ## What a component pass finds -/

/-- The first of the live components with an identifier and a class. -/
def firstLive (live : List Component) (id? : Option NodeId) (className : String) :
    Option Component :=
  live.find? fun component => decide (some component.id = id? ∧ component.className = className)

/-- There is no first live component exactly when no live component has both the identifier and the
class. -/
theorem firstLive_eq_none_iff {live : List Component} {id? : Option NodeId} {className : String} :
    firstLive live id? className = none ↔
      ∀ component ∈ live, ¬(some component.id = id? ∧ component.className = className) := by
  rw [firstLive, List.find?_eq_none]
  simp only [decide_eq_true_eq]

/-- The first live component is a live component with the identifier and the class. -/
theorem mem_of_firstLive {live : List Component} {id? : Option NodeId} {className : String}
    {component : Component} (first : firstLive live id? className = some component) :
    component ∈ live ∧ some component.id = id? ∧ component.className = className := by
  have both := List.find?_some first
  exact ⟨List.mem_of_find?_eq_some first, of_decide_eq_true both⟩

namespace CallNode

/-- A node that knows the live components of its class is bound to the first one with the
identifier that it holds. -/
theorem boundComponent_of_known {node : CallNode} {live : List Component}
    (known : node.components = componentsOfClass node.componentClass live) :
    node.boundComponent = firstLive live node.componentId node.componentClass := by
  unfold boundComponent firstLive
  cases node.componentId with
  | none =>
    refine (List.find?_eq_none.mpr fun component _ => ?_).symm
    simp
  | some bound =>
    simp only [known, Keyed.find?, componentsOfClass, List.find?_filter]
    congr 1
    funext component
    simp [and_comm]

/-- A node that is bound to its selection finds the first live component with the identifier that
is selected and the class that it needs. -/
theorem boundComponent_rebind (node : CallNode) (live : List Component) :
    (node.rebind live).boundComponent =
      firstLive live node.selectedComponentId node.componentClass :=
  boundComponent_of_known rfl

/-- A node is told that its component is missing exactly when no live component has both the
identifier that is selected and the class that it needs. -/
theorem missing_mem_followComponents_iff (node : CallNode) (live : List Component) :
    PassWarning.componentMissing ∈ (node.followComponents live).2 ↔
      ∀ component ∈ live, ¬(some component.id = node.selectedComponentId ∧
        component.className = node.componentClass) := by
  have lost : PassWarning.componentMissing ∈ (node.followComponents live).2 ↔
      firstLive live node.selectedComponentId node.componentClass = none := by
    rw [followComponents_eq, lossOf, boundComponent_rebind]
    cases firstLive live node.selectedComponentId node.componentClass with
    | none => simp
    | some component => simp
  exact lost.trans firstLive_eq_none_iff

/-- A node that finds its component shows the name that this component has now. -/
theorem component_followComponents {node : CallNode} {live : List Component}
    {component : Component}
    (found : firstLive live node.selectedComponentId node.componentClass = some component) :
    (node.followComponents live).1.fields.component = some component.name := by
  rw [followComponents_eq, boundComponent_rebind, found]
  rfl

/-- Following the components latches no warning. -/
theorem latched_followComponents (node : CallNode) (live : List Component) :
    (node.followComponents live).1.latched = node.latched := by
  rw [followComponents_eq]
  dsimp only
  split <;> rfl

/-- Following a definition does not change the selected component. -/
theorem selected_followDefinition (node : CallNode) (definition? : Option Definition) :
    (node.followDefinition definition?).1.selectedComponentId = node.selectedComponentId := by
  cases definition? with
  | none => rfl
  | some definition =>
    rw [followDefinition_some]
    rfl

end CallNode

/-! ## What is selected survives repairs -/

namespace Trigger

/-- The repair of every trigger keeps the selection. -/
theorem selected_run (trigger : Trigger) (live : List Component) (definitions : List Definition)
    (node : CallNode) :
    ((trigger.repair live definitions).run node).selectedComponentId =
      node.selectedComponentId := by
  rw [Repair.run, CallNode.selectedComponentId_setWarnings]
  cases trigger with
  | definitionEdited definition => exact node.selected_followDefinition (some definition)
  | definitionDeleted id => exact node.selected_followDefinition none
  | componentsEdited => exact node.selected_followComponents live
  | graphLoaded =>
    rw [repair, fullRepair_eq, repairOfKind]
    split
    · exact node.selected_followComponents live
    · split
      · exact node.selected_followDefinition _
      · rfl

end Trigger

/-- Activities keep the selection. -/
theorem Activity.selected_effect (workspace : Workspace) (activity : Activity) (node : CallNode) :
    (Activity.effect workspace activity node).selectedComponentId = node.selectedComponentId := by
  cases activity with
  | pass trigger =>
    show (workspace.afterPass trigger node).selectedComponentId = node.selectedComponentId
    unfold Workspace.afterPass
    split
    · exact trigger.selected_run workspace.components workspace.definitions node
    · rfl
  | define definition => rfl
  | undefine id => rfl
  | attach components => rfl

/-! ## What is selected survives saving -/

/-- The name under which a loaded node shows its component: the present name of the bound component,
or the saved name if it is not found. -/
def SavedState.shownName (state : SavedState) (live : List Component) : String :=
  match firstLive live state.componentId state.componentClass with
  | some component => component.name
  | none => state.componentName

namespace CallNode

section OfSaved

variable (node : CallNode) (kind : CallKind) (state : SavedState) (live : List Component)

/-- A restored node shows the name that its record has against the live components, and keeps the
one that it showed where that name is empty. -/
theorem showComponent_restore :
    (node.restore kind state live).showComponent state.componentName =
      { node.restore kind state live with
        fields :=
          { node.fields with
            component :=
              if state.shownName live = "" then node.fields.component
              else some (state.shownName live) } } := by
  have bound : (node.restore kind state live).boundComponent =
      firstLive live state.componentId state.componentClass := boundComponent_of_known rfl
  have shown : (node.restore kind state live).showComponent state.componentName =
      if state.shownName live = "" then node.restore kind state live
      else (node.restore kind state live).setField .component (state.shownName live) := by
    simp only [showComponent, bound, SavedState.shownName]
    rfl
  rw [shown]
  by_cases unnamed : state.shownName live = ""
  · rw [if_pos unnamed, if_pos unnamed]
    rfl
  · rw [if_neg unnamed, if_neg unnamed]
    rfl

/-- The new node that loading gives, without a look at the fields that a node has to begin with. -/
def built (id : NodeId) : CallNode where
  id
  kind
  returnType := .ofText state.returnText
  arguments := state.arguments
  tooltip := state.tooltip
  importModule := state.importModule
  calleeName := state.calleeName
  definitionId := state.definitionId
  componentId := state.componentId
  componentClass := state.componentClass
  components := componentsOfClass state.componentClass live
  fields :=
    { component := if state.shownName live = "" then none else some (state.shownName live) }

/-- Loading a record of a known kind builds the node from it. -/
theorem ofSaved_eq_built {kind : CallKind} {state : SavedState} (live : List Component)
    (known : CallKind.ofTag? state.kindTag = some kind) (id : NodeId) :
    ofSaved id state live = .ok (built kind state live id) := by
  rw [ofSaved, known]
  show load { id, kind } state live = _
  rw [load, known]
  show Except.ok _ = _
  rw [showComponent_restore]
  rfl

end OfSaved

/-- The name under which a node shows its component once it has looked for it: the name that the
component has now, or the name that was shown if the component is not found. -/
def liveName (node : CallNode) (live : List Component) : String :=
  match firstLive live node.selectedComponentId node.componentClass with
  | some component => component.name
  | none => node.componentName

/-- The node that is built anew from what was saved of a node. -/
def rebuilt (node : CallNode) (id : NodeId) (live : List Component) : CallNode where
  id
  kind := node.kind
  returnType := .ofText node.returnType.text
  arguments := node.arguments
  tooltip := node.tooltip
  importModule := node.importModule
  calleeName := node.calleeName
  definitionId := node.definitionId
  componentId := node.selectedComponentId
  componentClass := node.componentClass
  components := componentsOfClass node.componentClass live
  fields := { component := if node.liveName live = "" then none else some (node.liveName live) }

section Rebuilt

variable (node : CallNode) (id : NodeId) (live : List Component)

/-- Loading what was saved of a node rebuilds it. -/
theorem ofSaved_save_eq : ofSaved id node.save live = .ok (node.rebuilt id live) :=
  ofSaved_eq_built live (CallKind.ofTag?_tag node.kind) id

/-- A rebuilt node is bound to the first live component that has the identifier selected before and
the class of the node. -/
theorem boundComponent_rebuilt :
    (node.rebuilt id live).boundComponent =
      firstLive live node.selectedComponentId node.componentClass :=
  boundComponent_of_known rfl

/-- A node that was built anew shows its bound component, unless this has no name. -/
theorem showsBound_rebuilt : (node.rebuilt id live).ShowsBound := by
  intro component bound
  rw [boundComponent_rebuilt] at bound
  have name : node.liveName live = component.name := by rw [liveName, bound]
  unfold rebuilt
  dsimp only
  rw [name]
  split
  · exact Or.inl rfl
  · exact Or.inr rfl

/-- A rebuilt node has the component selected that was selected before. -/
theorem selected_rebuilt :
    (node.rebuilt id live).selectedComponentId = node.selectedComponentId :=
  (node.showsBound_rebuilt id live).selected

end Rebuilt

/-- Building a node anew from what is saved of it succeeds, and gives a node of the same kind and
class with the same component selected, whatever its identifier and the live components are. -/
theorem ofSaved_save (node : CallNode) (id : NodeId) (live : List Component) :
    ∃ rebuilt, ofSaved id node.save live = .ok rebuilt ∧ rebuilt.id = id ∧
      rebuilt.kind = node.kind ∧ rebuilt.componentClass = node.componentClass ∧
      rebuilt.selectedComponentId = node.selectedComponentId :=
  ⟨node.rebuilt id live, node.ofSaved_save_eq id live, rfl, rfl, rfl, node.selected_rebuilt id live⟩

end CallNode

/-! ## Runs in which nobody chooses a component -/

/-- Saves a node and puts it back, built anew from what was saved and the components attached at
present. -/
def Workspace.reloadNode (workspace : Workspace) (id : NodeId) : Workspace :=
  match workspace.node? id with
  | none => workspace
  | some node =>
    match CallNode.ofSaved id node.save workspace.components with
    | .error _ => workspace
    | .ok rebuilt => workspace.addNode rebuilt

/-- What happens while nobody chooses from the drop-down list of a node. -/
inductive QuietStep
  /-- A pass, or an edit of the definitions or of the components. -/
  | act (activity : Activity)
  /-- A node is saved and built anew. -/
  | reload (id : NodeId)

namespace QuietStep

/-- The workspace after a step. -/
def perform (workspace : Workspace) : QuietStep → Workspace
  | .act activity => activity.perform workspace
  | .reload id => workspace.reloadNode id

/-- The workspace after steps one after the other. -/
def run (workspace : Workspace) (steps : List QuietStep) : Workspace :=
  steps.foldl perform workspace

end QuietStep

/-- Two states of a node in which it calls the same way, and needs the same component. -/
structure CallNode.SameTarget (before after : CallNode) : Prop where
  kind : after.kind = before.kind
  componentClass : after.componentClass = before.componentClass
  selected : after.selectedComponentId = before.selectedComponentId

/-- A node that is built anew is found under its identifier, with the same component selected, and
no other node is touched. -/
theorem Workspace.node?_reloadNode {workspace : Workspace} {id : NodeId} {node : CallNode}
    (found : workspace.node? id = some node) (reloaded : NodeId) :
    ∃ next, (workspace.reloadNode reloaded).node? id = some next ∧ node.SameTarget next := by
  unfold reloadNode
  cases there : workspace.node? reloaded with
  | none => exact ⟨node, found, rfl, rfl, rfl⟩
  | some other =>
    obtain ⟨rebuilt, built, at_id, kind, componentClass, selected⟩ :=
      other.ofSaved_save reloaded workspace.components
    simp only [built]
    by_cases here : id = reloaded
    · subst here
      obtain rfl : other = node := Option.some.inj (there.symm.trans found)
      refine ⟨rebuilt, ?_, kind, componentClass, selected⟩
      have added := Keyed.find?_upsert_self CallNode.id rebuilt workspace.nodes
      rwa [at_id] at added
    · refine ⟨node, ?_, rfl, rfl, rfl⟩
      have elsewhere : id ≠ rebuilt.id := at_id ▸ here
      exact (Keyed.find?_upsert_of_ne CallNode.id rebuilt workspace.nodes elsewhere).trans found

namespace QuietStep

/-- A node is still there after a step, and needs the same component. -/
theorem sameTarget_perform {workspace : Workspace} {id : NodeId} {node : CallNode}
    (found : workspace.node? id = some node) (step : QuietStep) :
    ∃ next, (perform workspace step).node? id = some next ∧ node.SameTarget next := by
  cases step with
  | act activity =>
    have untouched := activity.untouched_effect workspace node
    refine ⟨activity.effect workspace node, ?_, ?_, ?_, ?_⟩
    · have after := activity.node?_perform workspace id
      rw [found] at after
      exact after
    · exact CallNode.kind_of_untouched untouched
    · exact CallNode.componentClass_of_untouched untouched
    · exact activity.selected_effect workspace node
  | reload reloaded => exact Workspace.node?_reloadNode found reloaded

/-- A node is still there after any steps, and needs the same component. -/
theorem sameTarget_run {workspace : Workspace} {id : NodeId} {node : CallNode}
    (found : workspace.node? id = some node) (steps : List QuietStep) :
    ∃ now, (run workspace steps).node? id = some now ∧ node.SameTarget now := by
  induction steps generalizing workspace node with
  | nil => exact ⟨node, found, rfl, rfl, rfl⟩
  | cons step rest ih =>
    obtain ⟨next, foundNext, first⟩ := sameTarget_perform found step
    obtain ⟨now, foundNow, later⟩ := ih foundNext
    refine ⟨now, foundNow, ?_, ?_, ?_⟩
    · exact later.kind.trans first.kind
    · exact later.componentClass.trans first.componentClass
    · exact later.selected.trans first.selected

end QuietStep

/-! ## What a component pass leaves -/

namespace Trigger

/-- The triggers whose passes bring nodes in line with the components. -/
def LooksAtComponents (trigger : Trigger) : Prop :=
  trigger = .componentsEdited ∨ trigger = .graphLoaded

/-- A trigger that looks at the components has a node that calls one follow them. -/
theorem LooksAtComponents.follow {trigger : Trigger} (looks : trigger.LooksAtComponents)
    {node : CallNode} (calls : node.kind = .componentMethod) (live : List Component)
    (definitions : List Definition) :
    trigger.concerns node = true ∧
      trigger.repair live definitions node = node.followComponents live := by
  rcases looks with rfl | rfl
  · exact ⟨decide_eq_true calls, rfl⟩
  · exact ⟨rfl, if_pos calls⟩

end Trigger

/-- What a pass over the live components owes to a node that needs the component `id?` of a class.
The node is bound to this component and has it selected. The pass gives it the warning exactly when
no live component is the one it needs; otherwise the node shows the name that the first such
component has now. -/
structure Rebound (live : List Component) (id? : Option NodeId) (className : String)
    (repaired : CallNode) (given : List PassWarning) : Prop where
  bound : repaired.componentId = id?
  selected : repaired.selectedComponentId = id?
  missing : PassWarning.componentMissing ∈ given ↔
    ∀ component ∈ live, ¬(some component.id = id? ∧ component.className = className)
  shown : PassWarning.componentMissing ∉ given →
    ∃ component, firstLive live id? className = some component ∧
      repaired.fields.component = some component.name

/-- Following the components does what a pass owes to a node. -/
theorem CallNode.rebound_followComponents (node : CallNode) (live : List Component) :
    Rebound live node.selectedComponentId node.componentClass (node.followComponents live).1
      (node.followComponents live).2 where
  bound := node.componentId_followComponents live
  selected := node.selected_followComponents live
  missing := node.missing_mem_followComponents_iff live
  shown := by
    intro present
    rw [node.missing_mem_followComponents_iff live, ← firstLive_eq_none_iff] at present
    obtain ⟨component, first⟩ := Option.ne_none_iff_exists'.mp present
    exact ⟨component, first, component_followComponents first⟩

/-- The identity of a component is never lost to a namesake. Whatever a node is bound to, whatever
name it shows and whatever components it knows, the component that is selected stays selected
through any run of passes, edits of the definitions, new lists of components and rebuilding of
saved nodes. A pass over the components then binds it, misses it exactly when no live component
has its identifier and the class that is needed, and otherwise shows the name that the first such
component has now. -/
theorem selection_survives_quiet_run (workspace : Workspace) {id : NodeId} {node : CallNode}
    (found : workspace.node? id = some node) (steps : List QuietStep) :
    let reached := QuietStep.run workspace steps
    ∃ now, reached.node? id = some now ∧
      now.selectedComponentId = node.selectedComponentId ∧
      (∃ rebuilt, CallNode.ofSaved id now.save reached.components = .ok rebuilt ∧
        rebuilt.selectedComponentId = node.selectedComponentId) ∧
      ∀ trigger : Trigger, trigger.LooksAtComponents → node.kind = .componentMethod →
        let given := (reached.repairFor trigger now).2
        ∃ repaired, (reached.runPass trigger).1.node? id = some repaired ∧
          repaired.warning = (now.setWarnings (given.map PassWarning.message)).warning ∧
          Rebound reached.components node.selectedComponentId node.componentClass repaired
            given := by
  intro reached
  obtain ⟨now, foundNow, kind, componentClass, selected⟩ := QuietStep.sameTarget_run found steps
  obtain ⟨rebuilt, built, -, -, -, same⟩ := now.ofSaved_save id reached.components
  refine ⟨now, foundNow, selected, ⟨rebuilt, built, same.trans selected⟩, ?_⟩
  intro trigger looks calls given
  obtain ⟨concerned, follows⟩ :=
    looks.follow (kind.trans calls) reached.components reached.definitions
  have passing : given = (now.followComponents reached.components).2 := congrArg Prod.snd follows
  have repaired : (reached.repairFor trigger).run now =
      (now.followComponents reached.components).1.setWarnings (given.map PassWarning.message) := by
    rw [Repair.run, Workspace.repairFor, follows, ← passing]
  have owed := now.rebound_followComponents reached.components
  rw [selected, componentClass, ← passing] at owed
  refine ⟨(reached.repairFor trigger).run now, ?_, ?_, ?_⟩
  · rw [Workspace.node?_runPass, foundNow, Option.map_some,
      Workspace.afterPass_of_concerned concerned]
  · rw [repaired]
    unfold CallNode.setWarnings CallNode.allWarnings
    rw [now.latched_followComponents]
  · rw [repaired]
    exact ⟨owed.bound, owed.selected, owed.missing, owed.shown⟩

/-- Two motors exchange their names and the call of one of them is saved and built anew. The call
is bound to the same motor as before, and shows the name that this motor has now. -/
theorem selection_survives_exchanged_names :
    let left : Component := ⟨⟨"m1"⟩, "left", "Motor"⟩
    let right : Component := ⟨⟨"m2"⟩, "right", "Motor"⟩
    let call : CallNode :=
      { id := ⟨"call"⟩, kind := .componentMethod, componentId := some left.id,
        componentClass := "Motor", components := [left, right],
        fields := { component := some "left" } }
    let workspace : Workspace := { nodes := [call], components := [left, right] }
    let steps : List QuietStep :=
      [.act (.attach [{ left with name := "right" }, { right with name := "left" }]),
        .act (.pass .componentsEdited), .reload ⟨"call"⟩]
    let reached := QuietStep.run workspace steps
    workspace.node? ⟨"call"⟩ = some call ∧
      Trigger.graphLoaded.LooksAtComponents ∧ call.kind = .componentMethod ∧
      ∃ repaired, (reached.runPass .graphLoaded).1.node? ⟨"call"⟩ = some repaired ∧
        repaired.componentId = some left.id ∧ repaired.fields.component = some "right" := by
  intro left right call workspace steps reached
  have found : workspace.node? ⟨"call"⟩ = some call := by decide
  have looks : Trigger.graphLoaded.LooksAtComponents := Or.inr rfl
  obtain ⟨now, foundNow, -, -, after⟩ := selection_survives_quiet_run workspace found steps
  obtain ⟨repaired, foundAfter, -, owed⟩ := after .graphLoaded looks rfl
  refine ⟨found, looks, rfl, repaired, foundAfter, owed.bound, ?_⟩
  have live : ¬∀ component ∈ reached.components,
      ¬(some component.id = call.selectedComponentId ∧ component.className = "Motor") := by
    decide
  obtain ⟨component, first, named⟩ := owed.shown (owed.missing.not.mpr live)
  have first_eq : firstLive reached.components call.selectedComponentId "Motor" =
      some ⟨⟨"m1"⟩, "right", "Motor"⟩ := by decide
  rw [named]
  obtain rfl := Option.some.inj (first.symm.trans first_eq)
  rfl

end RobotBlocks
