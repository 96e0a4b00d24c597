import RobotBlocks.Proofs.SavedNode

/-!
# Loading into a node that is there

A saved state is loaded as a new node (`CallNode.ofSaved`) or into a node that is there
(`CallNode.load`). What is saved of a node comes out the same in both, except for the name of the
component. A new node shows no name if neither the live components nor the saved state give one. A
node that is there keeps the name that it showed before, as it keeps the labels and the warnings
that are no part of a saved state: `CallNode.load_eq_replacing` tells all that it keeps.

A kept name belongs to another component than the one that was loaded. It is saved as the name of
this one, and while the component that was loaded is known and has no name, it selects the other
one. `load_agrees_with_new_iff` says when the two ways of loading agree, and
`load_keeps_stale_name` shows a state for which they do not.
-/

set_option autoImplicit false

namespace RobotBlocks

namespace CallNode

/-- A new node in the place of another one, of which the labels and the warnings stay. The name of
the component stays only where the new node shows none. -/
def replacing (built node : CallNode) : CallNode :=
  { built with
    fields := { node.fields with component := built.fields.component.or node.fields.component }
    latched := node.latched
    warning := node.warning }

/-- Loading into a node that is there gives the new node, with what stays of the other one. -/
theorem load_eq_replacing (node : CallNode) {kind : CallKind} {state : SavedState}
    (live : List Component) (known : CallKind.ofTag? state.kindTag = some kind) :
    node.load state live = .ok ((built kind state live node.id).replacing node) := by
  rw [load, known]
  show Except.ok _ = _
  rw [showComponent_restore]
  congr 1
  unfold replacing built restore
  by_cases unnamed : state.shownName live = ""
  · simp [unnamed]
  · simp [unnamed]

/-! ## What is saved after loading -/

section Saved

variable {node : CallNode} {kind : CallKind} {state : SavedState} {live : List Component}
  (id : NodeId)

/-- A new node is what loading makes of a node that shows nothing. -/
theorem replacing_blank :
    (built kind state live id).replacing { id, kind } = built kind state live id := by
  unfold replacing built
  simp

/-- A node loaded in place shows the name of its record, or the one that it showed before if that
name is empty. -/
theorem componentName_replacing :
    ((built kind state live id).replacing node).componentName =
      if state.shownName live = "" then node.componentName else state.shownName live := by
  unfold componentName replacing built
  by_cases unnamed : state.shownName live = ""
  · simp [unnamed]
  · simp [unnamed]

/-- A node built from a record shows the name of the record. -/
theorem componentName_built :
    (built kind state live id).componentName = state.shownName live := by
  rw [← replacing_blank, componentName_replacing]
  split
  · rename_i unnamed
    exact unnamed.symm
  · rfl

/-- Loading in place shows the same name as building anew unless the record has no name and the node
showed one. -/
theorem component_replacing_iff :
    ((built kind state live id).replacing node).fields.component =
        (built kind state live id).fields.component ↔
      node.fields.component = none ∨ state.shownName live ≠ "" := by
  unfold replacing built
  by_cases unnamed : state.shownName live = ""
  · simp [unnamed]
  · simp [unnamed]

/-- Where no name stays, a loaded node selects the component that it was loaded with. -/
theorem selected_replacing (nothingStays : node.componentName = "" ∨ state.shownName live ≠ "") :
    ((built kind state live id).replacing node).selectedComponentId = state.componentId := by
  have shows : ((built kind state live id).replacing node).ShowsBound := by
    intro component bound
    have found : ((built kind state live id).replacing node).boundComponent =
        firstLive live state.componentId state.componentClass := boundComponent_of_known rfl
    have first : firstLive live state.componentId state.componentClass = some component :=
      found.symm.trans bound
    have name : state.shownName live = component.name := by rw [SavedState.shownName, first]
    unfold replacing built
    dsimp only
    by_cases unnamed : state.shownName live = ""
    · have unset : node.componentName = "" :=
        nothingStays.resolve_right fun named => named unnamed
      rw [if_pos unnamed, ← name, unnamed]
      unfold componentName at unset
      cases shown : node.fields.component with
      | none => exact Or.inl rfl
      | some text =>
        rw [shown] at unset
        exact Or.inr (congrArg some unset)
    · rw [if_neg unnamed, ← name]
      exact Or.inr rfl
  exact shows.selected

/-- A node built from a record has the component of the record selected. -/
theorem selected_built : (built kind state live id).selectedComponentId = state.componentId := by
  rw [← replacing_blank]
  exact selected_replacing id (Or.inl rfl)

/-- What is saved of a loaded node is what is saved of the new node, unless a name stays. -/
theorem save_replacing_iff :
    ((built kind state live id).replacing node).save = (built kind state live id).save ↔
      node.componentName = "" ∨ state.shownName live ≠ "" := by
  constructor
  · intro same
    by_cases unnamed : state.shownName live = ""
    · have names : ((built kind state live id).replacing node).componentName =
          (built kind state live id).componentName := congrArg SavedState.componentName same
      rw [componentName_replacing, componentName_built, if_pos unnamed, unnamed] at names
      exact Or.inl names
    · exact Or.inr unnamed
  · intro nothingStays
    have names : ((built kind state live id).replacing node).componentName =
        (built kind state live id).componentName := by
      rw [componentName_replacing, componentName_built]
      split
      · rename_i unnamed
        rw [unnamed]
        exact nothingStays.resolve_right fun named => named unnamed
      · rfl
    unfold save
    rw [names, selected_replacing id nothingStays, selected_built]
    rfl

end Saved

end CallNode

/-- Loading a saved state into a node that is there succeeds exactly like loading it as a new node.
It gives the new node, with the labels and the warnings of the node that was there, and with the
name of its component if the new node shows none. The two show the same component exactly if the
node that was there showed none, or the new node shows one under the name that the live components
or the saved state give it. In this case, and where the name that stays is empty, the same is saved
of both; in all other cases the name that stays is saved with the loaded state. -/
theorem load_agrees_with_new_iff (node : CallNode) (state : SavedState) (live : List Component)
    (known : state.kindTag ∈ CallKind.all.map CallKind.tag) :
    ∃ built loaded, CallNode.ofSaved node.id state live = .ok built ∧
      node.load state live = .ok loaded ∧ loaded = built.replacing node ∧
      (loaded.fields.component = built.fields.component ↔
        node.fields.component = none ∨ state.shownName live ≠ "") ∧
      (loaded.save = built.save ↔ node.componentName = "" ∨ state.shownName live ≠ "") ∧
      (loaded.save ≠ built.save →
        built.save.componentName = "" ∧ loaded.save.componentName = node.componentName) := by
  obtain ⟨kind, -, tag⟩ := List.mem_map.mp known
  have found : CallKind.ofTag? state.kindTag = some kind := by
    rw [← tag]
    exact CallKind.ofTag?_tag kind
  refine ⟨CallNode.built kind state live node.id, _, CallNode.ofSaved_eq_built live found node.id,
    CallNode.load_eq_replacing node live found, rfl, CallNode.component_replacing_iff node.id,
    CallNode.save_replacing_iff node.id, ?_⟩
  intro differs
  rw [ne_eq, CallNode.save_replacing_iff, not_or, ne_eq, not_not] at differs
  have unnamed := differs.2
  constructor
  · show (CallNode.built kind state live node.id).componentName = ""
    rw [CallNode.componentName_built, unnamed]
  · show ((CallNode.built kind state live node.id).replacing node).componentName =
      node.componentName
    rw [CallNode.componentName_replacing, if_pos unnamed]

/-- The call of a motor is loaded with the state of another call, whose motor is attached under
another name than the saved one. Nothing of the old motor is left. -/
theorem load_of_renamed_component_agrees :
    let lift : Component := ⟨⟨"c2"⟩, "lift", "Motor"⟩
    let front : Component := ⟨⟨"c1"⟩, "front", "Motor"⟩
    let call : CallNode :=
      { id := ⟨"n1"⟩, kind := .componentMethod, tooltip := "Stops the lift.",
        componentId := some lift.id, componentClass := "Motor", components := [lift],
        fields := { function := some "stop", component := some "lift" } }
    let state : SavedState :=
      { kindTag := "instance_component", returnText := "None", componentName := "arm",
        componentClass := "Motor", componentId := some front.id }
    state.kindTag ∈ CallKind.all.map CallKind.tag ∧
      ∃ built loaded, CallNode.ofSaved call.id state [lift, front] = .ok built ∧
        call.load state [lift, front] = .ok loaded ∧
        loaded.fields.component = built.fields.component ∧ loaded.save = built.save := by
  intro lift front call state
  have known : state.kindTag ∈ CallKind.all.map CallKind.tag := by decide
  obtain ⟨built, loaded, isBuilt, isLoaded, -, shown, saved, -⟩ :=
    load_agrees_with_new_iff call state [lift, front] known
  have named : state.shownName [lift, front] ≠ "" := by decide
  exact ⟨known, built, loaded, isBuilt, isLoaded, shown.mpr (Or.inr named),
    saved.mpr (Or.inr named)⟩

/-- The call of a motor is loaded with a state that gives no name. If the motor of this state is not
attached, the call is bound to it and yet shows the old motor, and is saved with its name. If it is
attached without a name, the old motor is even saved in its place. -/
theorem load_keeps_stale_name :
    let lift : Component := ⟨⟨"c2"⟩, "lift", "Motor"⟩
    let unnamed : Component := ⟨⟨"c1"⟩, "", "Motor"⟩
    let call : CallNode :=
      { id := ⟨"n1"⟩, kind := .componentMethod, componentId := some lift.id,
        componentClass := "Motor", components := [lift],
        fields := { function := some "stop", component := some "lift" } }
    let state : SavedState :=
      { kindTag := "instance_component", returnText := "None", componentClass := "Motor",
        componentId := some unnamed.id }
    state.kindTag ∈ CallKind.all.map CallKind.tag ∧
      (∃ built loaded, CallNode.ofSaved call.id state [lift] = .ok built ∧
        call.load state [lift] = .ok loaded ∧ loaded.componentId = some unnamed.id ∧
        built.fields.component = none ∧ loaded.fields.component = some "lift" ∧
        built.save.componentName = "" ∧ loaded.save.componentName = "lift") ∧
      ∃ built loaded, CallNode.ofSaved call.id state [unnamed, lift] = .ok built ∧
        call.load state [unnamed, lift] = .ok loaded ∧
        built.save.componentId = some unnamed.id ∧ loaded.save.componentId = some lift.id := by
  intro lift unnamed call state
  have known : state.kindTag ∈ CallKind.all.map CallKind.tag := by decide
  have kind : CallKind.ofTag? state.kindTag = some .componentMethod := by decide
  refine ⟨known, ⟨_, _, CallNode.ofSaved_eq_built [lift] kind call.id,
    CallNode.load_eq_replacing call [lift] kind, ?_⟩, _, _,
    CallNode.ofSaved_eq_built [unnamed, lift] kind call.id,
    CallNode.load_eq_replacing call [unnamed, lift] kind, ?_⟩
  · decide
  · decide

end RobotBlocks
