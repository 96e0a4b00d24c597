import RobotBlocks.Proofs.ComponentIdentity

/-!
# Saving a node and building it anew

A node that is built anew from what was saved of it is given in full by `CallNode.rebuilt`, which
does not mention the saved state. Two things may differ from the node that was saved. A return type
whose text stands for another one comes back as the other one, and the bound component is shown
under the name that it has now, `CallNode.liveName`.

What is saved of the node that was built anew is what was saved before, but for this name
(`CallNode.save_rebuilt`). Following the components changes what is saved in the same way
(`CallNode.save_followComponents`), so that loading a graph and looking at the robot agree.

An editor loads into a node in place, field after field. `CallNode.loadInPlace` writes this out, and
`CallNode.loadInPlace_run` says that a fault comes before the first field is written. The main
statement is `saved_state_is_stable`.
-/

set_option autoImplicit false

namespace RobotBlocks

namespace CallNode

variable (node : CallNode) (id : NodeId) (live : List Component)

/-- A rebuilt node shows the name of its component once it has looked for it. -/
theorem componentName_rebuilt : (node.rebuilt id live).componentName = node.liveName live := by
  unfold componentName rebuilt
  dsimp only
  split
  · rename_i unnamed
    exact unnamed.symm
  · rfl

/-! ## What is saved of it -/

/-- What is saved of a rebuilt node differs from what was saved before in the name of the component
only. -/
theorem save_rebuilt :
    (node.rebuilt id live).save = { node.save with componentName := node.liveName live } := by
  have name := node.componentName_rebuilt id live
  have selected := node.selected_rebuilt id live
  unfold save
  rw [name, selected]
  simp [rebuilt]

/-- A node that followed the components shows the name of its component once it has looked for it.
-/
theorem componentName_followComponents :
    (node.followComponents live).1.componentName = node.liveName live := by
  rw [followComponents_eq, boundComponent_rebind]
  unfold liveName
  cases firstLive live node.selectedComponentId node.componentClass with
  | none => rfl
  | some component => rfl

/-- What is saved of a node that followed the components differs from what was saved before in the
name of the component only. -/
theorem save_followComponents :
    (node.followComponents live).1.save =
      { node.save with componentName := node.liveName live } := by
  have name := node.componentName_followComponents live
  have selected := node.selected_followComponents live
  unfold save
  rw [name, selected, followComponents_eq]
  dsimp only
  split
  · rfl
  · rfl

/-! ## Loading in place -/

/-- Loads a saved state into a node in place. What was written before a fault stays written. -/
def loadInPlace (state : SavedState) (live : List Component) :
    ExceptT Fault (StateM CallNode) Unit := do
  match CallKind.ofTag? state.kindTag with
  | none => throw (.unknownCallKind state.kindTag)
  | some kind =>
    modify fun node => { node with kind }
    modify fun node => { node with returnType := .ofText state.returnText }
    modify fun node => { node with arguments := state.arguments }
    modify fun node => { node with tooltip := state.tooltip }
    modify fun node => { node with importModule := state.importModule }
    modify fun node => { node with calleeName := state.calleeName }
    modify fun node => { node with definitionId := state.definitionId }
    modify fun node => { node with componentClass := state.componentClass }
    modify fun node => { node with componentId := state.componentId }
    modify fun node => { node with components := componentsOfClass node.componentClass live }
    modify fun node => node.showComponent state.componentName

/-- Loading in place ends in the node that loading gives, or leaves the node as it was. -/
theorem loadInPlace_run (state : SavedState) :
    (loadInPlace state live).run.run node =
      match node.load state live with
      | .ok loaded => (.ok (), loaded)
      | .error fault => (.error fault, node) := by
  unfold loadInPlace load
  cases CallKind.ofTag? state.kindTag with
  | none => rfl
  | some kind => rfl

/-- A return type comes back from its text unless it is a named type whose name stands for one of
the other two. -/
theorem returnType_rebuilt :
    (node.rebuilt id live).returnType =
      if node.returnType = .typed "None" then .nothing
      else if node.returnType = .typed "" then .untyped
      else node.returnType := by
  show ReturnType.ofText node.returnType.text = _
  by_cases nothing : node.returnType = .typed "None"
  · rw [if_pos nothing, nothing]
    rfl
  · rw [if_neg nothing]
    by_cases untyped : node.returnType = .typed ""
    · rw [if_pos untyped, untyped]
      rfl
    · rw [if_neg untyped]
      exact (ReturnType.ofText_text_iff node.returnType).mpr ⟨nothing, untyped⟩

/-- What a node carries over to the node that is built anew from what was saved of it. -/
structure CarriedOver (loaded : CallNode) : Prop where
  kind : loaded.kind = node.kind
  arguments : loaded.arguments = node.arguments
  tooltip : loaded.tooltip = node.tooltip
  importModule : loaded.importModule = node.importModule
  calleeName : loaded.calleeName = node.calleeName
  definitionId : loaded.definitionId = node.definitionId
  componentClass : loaded.componentClass = node.componentClass
  componentId : loaded.componentId = node.selectedComponentId

/-- A rebuilt node carries over what the saved state keeps. -/
theorem carriedOver_rebuilt : node.CarriedOver (node.rebuilt id live) :=
  ⟨rfl, rfl, rfl, rfl, rfl, rfl, rfl, rfl⟩

end CallNode

/-- Saving, loading and saving again is stable. Whatever the node, the identifier and the live
components are, loading what was saved of the node succeeds. It gives a node that carries over what
was saved, is bound to the component that was selected, knows the live components of its class in
their order and has the return type of the node, unless this is a named type whose name is the text
of no value or of an unknown type. What is saved of it is what was saved before, but for the name of
the component, which is that of the first live component with the identifier that was selected and
the class, if there is one.

A saved state with a tag that is no kind of call is not loaded, and leaves the node as it was. -/
theorem saved_state_is_stable (node : CallNode) (id : NodeId) (live : List Component) :
    (∃ loaded, CallNode.ofSaved id node.save live = .ok loaded ∧
      loaded.id = id ∧ node.CarriedOver loaded ∧
      loaded.components =
        live.filter (fun component => decide (component.className = node.componentClass)) ∧
      loaded.returnType =
        (if node.returnType = .typed "None" then .nothing
        else if node.returnType = .typed "" then .untyped
        else node.returnType) ∧
      loaded.save =
        { node.save with
          componentName :=
            match firstLive live node.selectedComponentId node.componentClass with
            | some component => component.name
            | none => node.save.componentName }) ∧
    ∀ state : SavedState, state.kindTag ∉ CallKind.all.map CallKind.tag →
      (CallNode.loadInPlace state live).run.run node =
        (.error (.unknownCallKind state.kindTag), node) := by
  constructor
  · refine ⟨node.rebuilt id live, node.ofSaved_save_eq id live, rfl,
      node.carriedOver_rebuilt id live, rfl, node.returnType_rebuilt id live, ?_⟩
    exact node.save_rebuilt id live
  · intro state unknown
    have noKind : CallKind.ofTag? state.kindTag = none := by
      refine CallKind.ofTag?_eq_none_iff.mpr fun kind same => unknown ?_
      rw [← same]
      exact List.mem_map_of_mem kind.mem_all
    have refused : node.load state live = .error (.unknownCallKind state.kindTag) := by
      rw [CallNode.load, noKind]
    rw [CallNode.loadInPlace_run, refused]

/-- The call of a motor that two others follow in name and in class is saved, and loaded when the
motor has got another name. A saved state of an unknown kind leaves it alone. -/
theorem saved_state_of_renamed_component :
    let left : Component := ⟨⟨"m1"⟩, "left", "Motor"⟩
    let call : CallNode :=
      { id := ⟨"call"⟩, kind := .componentMethod, returnType := .typed "None",
        componentId := some left.id, componentClass := "Motor", components := [left],
        fields := { component := some "left" } }
    let live : List Component :=
      [⟨⟨"m1"⟩, "camera", "Camera"⟩, ⟨⟨"m2"⟩, "left", "Motor"⟩, ⟨⟨"m1"⟩, "front", "Motor"⟩,
        ⟨⟨"m1"⟩, "rear", "Motor"⟩]
    let lambda : SavedState := { kindTag := "lambda", returnText := "" }
    lambda.kindTag ∉ CallKind.all.map CallKind.tag ∧
      (∃ loaded, CallNode.ofSaved ⟨"new"⟩ call.save live = .ok loaded ∧
        loaded.returnType = .nothing ∧ loaded.componentId = some left.id ∧
        loaded.save = { call.save with componentName := "front" }) ∧
      (CallNode.loadInPlace lambda live).run.run call =
        (.error (.unknownCallKind "lambda"), call) := by
  intro left call live lambda
  have unknown : lambda.kindTag ∉ CallKind.all.map CallKind.tag := by decide
  obtain ⟨⟨loaded, built, -, carried, -, returnType, saved⟩, refused⟩ :=
    saved_state_is_stable call ⟨"new"⟩ live
  exact ⟨unknown, ⟨loaded, built, returnType, carried.componentId, saved⟩, refused lambda unknown⟩

end RobotBlocks
