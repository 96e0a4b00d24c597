import RobotBlocks.Code.Fragment
import RobotBlocks.Drawing
import RobotBlocks.Proofs.PassFrame
import RobotBlocks.Proofs.WarningHistory

/-!
# One component in the graph, in the drawing and in the code

A call of a component tells which component it means in three places. The graph binds it by its
identifier, the drop-down list of its drawing shows a name among the names of the components that
the node knows, and the code is written with the name in the field. After a pass over the components
the three agree: a node that does not tell that its component is missing shows, offers and calls the
live component that it is bound to (`component_agrees_after_pass`).

A node that is built by an editor may tell anything; that a node tells a warning is therefore read
off the warning that it shows (`CallNode.Tells`), and a pass that has a warning for a node makes it
tell this warning (`CallNode.tells_run`).
-/

set_option autoImplicit false

namespace RobotBlocks

/-! ## The drop-down list -/

/-- The drop-down lists in a title: for each of them the field, the choices and the one chosen. -/
def Drawing.menus (drawing : Drawing) : List (FieldName × List String × String) :=
  drawing.title.filterMap fun element =>
    match element with
    | .menu name choices value => some (name, choices, value)
    | _ => none

namespace CallNode

variable {node : CallNode}

/-- A call of a component is drawn with one drop-down list, for its component. -/
theorem menus_of_componentMethod (kind : node.kind = .componentMethod) :
    ∃ drawing, node.draw .standard = .ok drawing ∧
      drawing.menus = [(.component, node.componentChoices, node.componentName)] := by
  unfold draw Layouts.standard
  rw [kind]
  exact ⟨_, rfl, rfl⟩

/-- The present name is on offer. -/
theorem componentName_mem_componentChoices (node : CallNode) :
    node.componentName ∈ node.componentChoices := by
  unfold componentChoices
  dsimp only
  split
  · rename_i known
    exact List.contains_iff_mem.mp known
  · exact List.mem_append_right _ List.mem_cons_self

/-- No name is on offer twice, if no two known components have the same name. -/
theorem nodup_componentChoices (distinct : (node.components.map Component.name).Nodup) :
    node.componentChoices.Nodup := by
  unfold componentChoices
  dsimp only
  split
  · exact distinct
  · rename_i unknown
    rw [List.nodup_append]
    refine ⟨distinct, by simp, ?_⟩
    intro name member single there same
    rw [List.mem_singleton] at there
    rw [same, there] at member
    exact unknown (List.contains_iff_mem.mpr member)

/-- The names of the known components are on offer and no other name, if the present name is one of
them. -/
theorem componentChoices_of_known
    (known : node.componentName ∈ node.components.map Component.name) :
    node.componentChoices = node.components.map Component.name :=
  if_pos (List.contains_iff_mem.mpr known)

/-! ## Telling a warning -/

/-- A node tells a warning if this is one of the messages that its warning is made of. -/
def Tells (node : CallNode) (warning : PassWarning) : Prop :=
  ∃ messages, node.warning = told messages ∧ warning.message ∈ messages

/-- A node tells the warnings that a repair has for it. -/
theorem tells_run {repair : Repair} {warning : PassWarning} (given : warning ∈ (repair node).2) :
    (repair.run node).Tells warning := by
  let messages := (repair node).2.map PassWarning.message
  refine ⟨(repair node).1.allWarnings messages, warning_setWarnings _ messages, ?_⟩
  have passing : warning.message ∈ messages := List.mem_map_of_mem given
  unfold allWarnings
  by_cases latched : warning.message ∈ (repair node).1.latched
  · exact List.mem_append_left _ latched
  · exact List.mem_append_right _ (List.mem_filter.mpr ⟨passing, by simpa using latched⟩)

end CallNode

/-! ## The code -/

namespace Code

variable {node : CallNode}

/-- A call of a component is written with the name of the component and the name to call. -/
theorem calleePath_componentMethod {name : String} (kind : node.kind = .componentMethod)
    (shown : node.fields.component = some name) (named : name ≠ "") (called : node.calledName ≠ "")
    (context : Context) :
    calleePath node context =
      .ok ⟨componentReceiver context.moduleKind ++ name ++ "." ++ node.calledName, 0⟩ := by
  have component : requiredField node .component = .ok name := requiredField_eq_ok shown named
  have callee : calledName node = .ok node.calledName := calledName_eq_ok called
  have code : calleeCode node context =
      .ok (componentReceiver context.moduleKind ++ name ++ "." ++ node.calledName) := by
    unfold calleeCode
    rw [kind]
    simp only [component, callee]
    rfl
  rw [calleePath_eq_ok code, kind]
  rfl

/-- Components are reached through the robot in an operation mode, and through the module itself
elsewhere. -/
theorem componentReceiver_eq (kind : ModuleKind) :
    componentReceiver kind = if kind = .opMode then "self.robot." else "self." := by
  cases kind with
  | robot => rfl
  | mechanism => rfl
  | opMode => rfl

end Code

/-! ## Agreement -/

section AfterPass

variable {workspace : Workspace} {trigger : Trigger} (looks : trigger.LooksAtComponents)
  {node : CallNode} (kind : node.kind = .componentMethod)
include looks kind

/-- A pass over the components makes a call of a component method follow the live components. -/
theorem Workspace.afterPass_componentMethod :
    workspace.afterPass trigger node =
      Repair.run (fun node => node.followComponents workspace.components) node := by
  obtain ⟨concerned, follows⟩ := looks.follow kind workspace.components workspace.definitions
  rw [afterPass_of_concerned concerned]
  exact Repair.run_congr follows

/-- A node that does not tell that its component is missing after a pass over the components is
bound to a live component. -/
theorem Workspace.bound_afterPass
    (present : ¬(workspace.afterPass trigger node).Tells .componentMissing) :
    ∃ component, (workspace.afterPass trigger node).boundComponent = some component := by
  rw [workspace.afterPass_componentMethod looks kind] at present ⊢
  cases bound : (node.followComponents workspace.components).1.boundComponent with
  | some component => exact ⟨component, bound⟩
  | none =>
    have lost : (node.followComponents workspace.components).2 = [.componentMissing] := by
      rw [← node.lossOf_followComponents, CallNode.lossOf, bound]
    refine absurd (CallNode.tells_run ?_) present
    rw [lost]
    exact List.mem_cons_self

/-- After a pass over the components a call of a component method fits the live components. -/
theorem Workspace.matchesComponents_afterPass :
    (workspace.afterPass trigger node).MatchesComponents workspace.components := by
  rw [workspace.afterPass_componentMethod looks kind]
  exact (node.matchesComponents_follow workspace.components).setWarnings _

end AfterPass

/-- A node that knows the live components and shows its bound one offers the names of the components
of its class, has the name of the bound one chosen, and is written with this name. -/
structure CallNode.AgreesOn (node : CallNode) (live : List Component) (component : Component) :
    Prop where
  member : component ∈ live
  id : node.componentId = some component.id
  className : component.className = node.componentClass
  name : node.fields.component = some component.name
  choices : node.componentChoices =
    (componentsOfClass node.componentClass live).map Component.name

/-- A node that fits the live components agrees with them on the component that it is bound to. -/
theorem CallNode.MatchesComponents.agreesOn {node : CallNode} {live : List Component}
    (fits : node.MatchesComponents live) {component : Component}
    (bound : node.boundComponent = some component) : node.AgreesOn live component := by
  have first := boundComponent_of_known fits.components
  rw [bound] at first
  obtain ⟨member, -, className⟩ := mem_of_firstLive first.symm
  have name := fits.shown component bound
  refine ⟨member, id_of_boundComponent bound, className, name, ?_⟩
  have ofClass : component ∈ node.components := by
    rw [fits.components]
    exact List.mem_filter.mpr ⟨member, decide_eq_true className⟩
  have known : node.componentName ∈ node.components.map Component.name := by
    rw [componentName, name]
    exact List.mem_map_of_mem ofClass
  rw [componentChoices_of_known known, fits.components]

/-- After a pass over the components the editor, the graph and the code agree on the component of a
call. A node that does not tell that its component is missing is bound to a live component of its
class: it shows the name of this component, its drawing has one drop-down list with this name chosen
among the names of the live components of the class, in their order and with no other name, and its
code begins with this name, reached through `self`, and the name to call, unless one of the two
names is empty. Whatever a node tells, the name that it shows is on offer, and no name is on offer
twice if no two components that it knows have the same name. -/
theorem component_agrees_after_pass (workspace : Workspace) (distinct : workspace.nodeIds.Nodup)
    {trigger : Trigger} (looks : trigger.LooksAtComponents) :
    let after := (workspace.runPass trigger).1
    ∀ node ∈ after.nodes, node.kind = .componentMethod →
      ∃ drawing choices, node.draw .standard = .ok drawing ∧
        drawing.menus = [(.component, choices, node.componentName)] ∧
        node.componentName ∈ choices ∧
        ((node.components.map Component.name).Nodup → choices.Nodup) ∧
        (¬node.Tells .componentMissing →
          ∃ component ∈ after.components,
            node.componentId = some component.id ∧
            component.className = node.componentClass ∧
            node.fields.component = some component.name ∧
            drawing.menus = [(.component,
              (after.components.filter fun other =>
                decide (other.className = node.componentClass)).map Component.name,
              component.name)] ∧
            (component.name ≠ "" → node.calledName ≠ "" → ∀ context : Code.Context,
              ∃ whole rest, (Code.emit node context).1 = .ok whole ∧
                whole.code =
                  (if context.moduleKind = .opMode then "self.robot." else "self.") ++
                    component.name ++ "." ++ node.calledName ++ "(" ++ rest)) := by
  intro after node member kind
  obtain ⟨nodes, reported, surroundings⟩ := workspace.surroundings_runPass trigger
  have live : after.components = workspace.components := by
    show (workspace.runPass trigger).1.components = _
    rw [surroundings]
  rw [live]
  -- the node is what the pass made of a node of the same kind, whatever that one knew and showed
  have there : node ∈ workspace.nodes.map (workspace.afterPass trigger) := by
    rw [← workspace.nodes_runPass trigger distinct]
    exact member
  obtain ⟨before, -, rfl⟩ := List.mem_map.mp there
  have kindBefore : before.kind = .componentMethod :=
    (CallNode.kind_of_untouched (workspace.untouched_afterPass trigger before)).symm.trans kind
  obtain ⟨drawing, drawn, menus⟩ := CallNode.menus_of_componentMethod kind
  refine ⟨drawing, _, drawn, menus, CallNode.componentName_mem_componentChoices _,
    CallNode.nodup_componentChoices, fun present => ?_⟩
  obtain ⟨component, bound⟩ := workspace.bound_afterPass looks kindBefore present
  have agrees := (workspace.matchesComponents_afterPass looks kindBefore).agreesOn bound
  refine ⟨component, agrees.member, agrees.id, agrees.className, agrees.name, ?_, ?_⟩
  · rw [menus, agrees.choices, CallNode.componentName, agrees.name]
    rfl
  · intro named called context
    have path := Code.calleePath_componentMethod kind agrees.name named called context
    obtain ⟨whole, rest, written, begins⟩ := Code.fragment_of_calleePath path
    refine ⟨whole, rest, (Code.emit_fst _ _).trans written, ?_⟩
    rw [begins, Code.componentReceiver_eq]

/-- The second of two motors gets another name. The call that shows the old one has the new name
chosen after the pass, and an op mode that calls the motor calls it by the new name. -/
theorem component_agrees_after_pass_of_renamed_motor :
    let lift : Component := ⟨⟨"m1"⟩, "lift", "Motor"⟩
    let arm : Component := ⟨⟨"m2"⟩, "arm", "Motor"⟩
    let wrist : Component := { arm with name := "wrist" }
    let call : CallNode :=
      { id := ⟨"call"⟩, kind := .componentMethod, componentId := some arm.id,
        componentClass := "Motor", components := [lift, arm],
        fields := { function := some "stop", component := some "arm" } }
    let workspace : Workspace := { nodes := [call], components := [lift, wrist] }
    let after := (workspace.runPass .componentsEdited).1
    workspace.nodeIds.Nodup ∧ Trigger.componentsEdited.LooksAtComponents ∧
      ∃ node ∈ after.nodes, node.kind = .componentMethod ∧ ¬node.Tells .componentMissing ∧
        (∃ drawing, node.draw .standard = .ok drawing ∧
          drawing.menus = [(.component, ["lift", "wrist"], "wrist")]) ∧
        ∃ whole rest, (Code.emit node { moduleKind := .opMode }).1 = .ok whole ∧
          whole.code = "self.robot.wrist.stop(" ++ rest := by
  intro lift arm wrist call workspace after
  have distinct : workspace.nodeIds.Nodup := by decide
  have looks : Trigger.componentsEdited.LooksAtComponents := Or.inl rfl
  let renamed : CallNode :=
    { call with components := [lift, wrist], fields := call.fields.set .component "wrist" }
  have member : renamed ∈ after.nodes := by decide
  have silent : ¬renamed.Tells .componentMissing := by
    rintro ⟨messages, shown, there⟩
    cases messages with
    | nil => exact List.not_mem_nil there
    | cons first rest => exact Option.some_ne_none _ shown.symm
  obtain ⟨drawing, choices, drawn, -, -, -, bound⟩ :=
    component_agrees_after_pass workspace distinct looks renamed member rfl
  obtain ⟨component, -, -, -, shown, menus, code⟩ := bound silent
  have named : component.name = "wrist" := (Option.some.inj shown).symm
  rw [named] at menus code
  refine ⟨distinct, looks, renamed, member, rfl, silent, ⟨drawing, drawn, menus⟩, ?_⟩
  exact code (by decide) (by decide) { moduleKind := .opMode }

end RobotBlocks
