import RobotBlocks.Drawing
import RobotBlocks.Proofs.PassFrame
import RobotBlocks.Proofs.WarningHistory

/-!
# Announcing a changed signature

A pass brings the return type and the arguments of a call in line with its definition. It compares
them with those of the definition, but what it announces is a change of what is saved of the call
(`Workspace.announces_iff`). The saved text of a return type does not tell all return types apart:
a named type may be called as the text of no value, or have an empty name. `ReturnType.Confused`
lists the pairs that are saved alike, and `ReturnType.text_eq_iff` says that there are no others.

So a changed signature is announced unless all that changed is a return type that is confused with
the new one. This is what `signature_change_is_announced_iff` states, also for what the editor draws
of the signature, and `signature_change_goes_unannounced` shows a statement that becomes an
expression unannounced.
-/

set_option autoImplicit false

namespace RobotBlocks

/-! ## What is saved of a signature -/

namespace ReturnType

/-- Different return types that are saved as the same text. One of them is a named type, whose name
is the text of no value at all or of a value of unknown type. -/
inductive Confused : ReturnType → ReturnType → Prop
  | nothing_typed : Confused .nothing (.typed "None")
  | typed_nothing : Confused (.typed "None") .nothing
  | untyped_typed : Confused .untyped (.typed "")
  | typed_untyped : Confused (.typed "") .untyped

/-- Return types are saved alike exactly if they are equal or confused. -/
theorem text_eq_iff {first second : ReturnType} :
    first.text = second.text ↔ first = second ∨ first.Confused second := by
  constructor
  · intro same
    cases first with
    | nothing =>
      cases second with
      | nothing => exact Or.inl rfl
      | untyped => exact absurd same (by decide)
      | typed name =>
        obtain rfl : "None" = name := same
        exact Or.inr .nothing_typed
    | untyped =>
      cases second with
      | nothing => exact absurd same (by decide)
      | untyped => exact Or.inl rfl
      | typed name =>
        obtain rfl : "" = name := same
        exact Or.inr .untyped_typed
    | typed name =>
      cases second with
      | nothing =>
        obtain rfl : name = "None" := same
        exact Or.inr .typed_nothing
      | untyped =>
        obtain rfl : name = "" := same
        exact Or.inr .typed_untyped
      | typed other => exact Or.inl (congrArg typed same)
  · rintro (rfl | confused)
    · rfl
    · cases confused <;> rfl

end ReturnType

/-- Saved states that agree but for what a definition determines are the same if they agree in this
too. -/
theorem SavedState.eq_iff_of_exceptSignature {first second : SavedState}
    (rest : first.exceptSignature = second.exceptSignature) :
    first = second ↔
      first.arguments = second.arguments ∧ first.calleeName = second.calleeName ∧
        first.returnText = second.returnText := by
  constructor
  · rintro rfl
    exact ⟨rfl, rfl, rfl⟩
  · rintro ⟨arguments, calleeName, returnText⟩
    calc first
        = { first.exceptSignature with
            arguments := first.arguments
            calleeName := first.calleeName
            returnText := first.returnText } := rfl
      _ = { second.exceptSignature with
            arguments := second.arguments
            calleeName := second.calleeName
            returnText := second.returnText } := by rw [rest, arguments, calleeName, returnText]
      _ = second := rfl

/-! ## What is drawn of it -/

namespace CallNode

section Drawn

variable {left right : CallNode}

/-- The connection of a node depends on its return type only. -/
theorem connection_eq_of_returnType (same : left.returnType = right.returnType) :
    left.connection = right.connection := by
  unfold connection hasValue
  rw [same]

/-- The sockets of a node depend on its arguments only. -/
theorem sockets_eq_of_arguments (same : left.arguments = right.arguments) :
    left.sockets = right.sockets := by
  unfold sockets
  rw [same]

end Drawn

/-! ## What a pass finds and what it changes -/

variable {node : CallNode} {definition : Definition}

/-- The return type is among the differences from a definition if the definition has another one. -/
theorem returnType_mem_differences_iff :
    .returnType ∈ node.differences definition ↔ definition.returnType ≠ node.returnType := by
  unfold differences
  by_cases same : node.returnType = definition.returnType
  · simp [same]
  · simp [same, Ne.symm same]

/-- The arguments are among the differences from a definition if the definition has others. -/
theorem arguments_mem_differences_iff :
    .arguments ∈ node.differences definition ↔ definition.params ≠ node.arguments := by
  unfold differences
  by_cases same : node.arguments = definition.params
  · simp [same]
  · simp [same, Ne.symm same]

end CallNode

namespace Workspace

variable (workspace : Workspace) (trigger : Trigger) {node : CallNode}

section Signature

variable (calls : node.kind.callsDefinition = true)
include calls

/-- A pass leaves the signature of a call as it is and finds no difference, or it takes the
signature of a definition over and finds the differences from this one. -/
theorem signature_afterPass :
    let now := workspace.afterPass trigger node
    let found := workspace.differencesFound trigger node
    (found = [] ∧ now.returnType = node.returnType ∧ now.arguments = node.arguments) ∨
      ∃ definition, found = node.differences definition ∧
        now.returnType = definition.returnType ∧ now.arguments = definition.params := by
  dsimp only
  cases concerned : trigger.concerns node with
  | true =>
    have full := workspace.repairFor_eq_fullRepair concerned
    rw [afterPass_of_concerned concerned, Repair.run_congr full, Repair.run,
      Trigger.fullRepair_of_callsDefinition calls, differencesFound, if_pos concerned,
      CallNode.differencesAmong, if_pos calls]
    cases node.definitionAmong (workspace.knownDefinitions trigger) with
    | none => exact Or.inl ⟨rfl, rfl, rfl⟩
    | some definition =>
      rw [CallNode.followDefinition_some]
      exact Or.inr ⟨definition, rfl, rfl, rfl⟩
  | false =>
    have nothing : workspace.differencesFound trigger node = [] := by
      rw [differencesFound, concerned]
      rfl
    rw [afterPass_of_unconcerned concerned]
    exact Or.inl ⟨nothing, rfl, rfl⟩

/-- A pass finds a difference in the return type exactly if it changes the return type. -/
theorem returnType_mem_differencesFound_iff :
    .returnType ∈ workspace.differencesFound trigger node ↔
      (workspace.afterPass trigger node).returnType ≠ node.returnType := by
  rcases workspace.signature_afterPass trigger calls with
    ⟨nothing, same, -⟩ | ⟨definition, found, taken, -⟩
  · simp [nothing, same]
  · rw [found, taken, CallNode.returnType_mem_differences_iff]

/-- A pass finds a difference in the arguments exactly if it changes the arguments. -/
theorem arguments_mem_differencesFound_iff :
    .arguments ∈ workspace.differencesFound trigger node ↔
      (workspace.afterPass trigger node).arguments ≠ node.arguments := by
  rcases workspace.signature_afterPass trigger calls with
    ⟨nothing, -, same⟩ | ⟨definition, found, -, taken⟩
  · simp [nothing, same]
  · rw [found, taken, CallNode.arguments_mem_differences_iff]

/-- The same is saved of a call after a pass unless its arguments, the name to call or the text of
its return type changed. -/
theorem save_afterPass_eq_iff :
    (workspace.afterPass trigger node).save = node.save ↔
      (workspace.afterPass trigger node).arguments = node.arguments ∧
        (workspace.afterPass trigger node).calleeName = node.calleeName ∧
        ((workspace.afterPass trigger node).returnType = node.returnType ∨
          (workspace.afterPass trigger node).returnType.Confused node.returnType) := by
  rw [SavedState.eq_iff_of_exceptSignature (exceptSignature_save_afterPass calls),
    ← ReturnType.text_eq_iff]
  rfl

end Signature

/-! ## What a pass announces -/

/-- A pass announces a change of a node: it reports the node as changed, and it appends this one
change of the node to the log. -/
structure Announces (change : StateChange) : Prop where
  marked : ∃ outcome, (workspace.runPass trigger).2.outcome? change.node = some outcome ∧
    outcome.changed = true
  fired : ∃ fired, (workspace.runPass trigger).1.reported = workspace.reported ++ fired ∧
    changesOf change.node fired = [change]

section Announced

variable {workspace} (distinct : workspace.nodeIds.Nodup) (member : node ∈ workspace.nodes)
include distinct member

/-- The report of a pass has the outcome of the repair of each node that the pass concerns. -/
theorem outcome?_runPass (concerned : trigger.concerns node = true) :
    (workspace.runPass trigger).2.outcome? node.id =
      some ((workspace.repairFor trigger).outcome node) := by
  have among : node ∈ workspace.nodes.filter trigger.concerns :=
    List.mem_filter.mpr ⟨member, concerned⟩
  have stillDistinct : ((workspace.nodes.filter trigger.concerns).map CallNode.id).Nodup :=
    distinct.sublist (List.filter_sublist.map CallNode.id)
  have found := Keyed.find?_of_mem CallNode.id stillDistinct among
  rw [workspace.runPass_eq trigger distinct, PassReport.outcome?, List.find?_map]
  exact congrArg (Option.map _) found

/-- A pass announces what it does to a node exactly if something else is saved of it now. -/
theorem announces_iff :
    workspace.Announces trigger ⟨node.id, node.save, (workspace.afterPass trigger node).save⟩ ↔
      (workspace.afterPass trigger node).save ≠ node.save := by
  have log : (workspace.runPass trigger).1.reported =
      workspace.reported ++ workspace.firedBy trigger := (reported_runPass distinct).1
  have own : changesOf node.id (workspace.firedBy trigger) =
      (workspace.changeBy trigger node).toList := changesOf_firedBy distinct member
  rw [changeBy_eq] at own
  constructor
  · rintro ⟨-, fired, reported, changes⟩ same
    obtain rfl : fired = workspace.firedBy trigger :=
      List.append_cancel_left (reported.symm.trans log)
    rw [changes, if_neg (not_not_intro same.symm)] at own
    exact List.cons_ne_nil _ _ own
  · intro differs
    rw [if_pos differs.symm] at own
    cases concerned : trigger.concerns node with
    | true =>
      have outcome := outcome?_runPass trigger distinct member concerned
      rw [afterPass_of_concerned concerned] at differs
      exact ⟨⟨_, outcome, decide_eq_true differs.symm⟩, workspace.firedBy trigger, log, own⟩
    | false =>
      rw [afterPass_of_unconcerned concerned] at differs
      exact absurd rfl differs

end Announced

end Workspace

/-- A pass finds the return type or the arguments of a call different from those of its definition
exactly if it changes them. It announces what it does to the call, with a mark in its report and
with exactly one change in the log, if and only if it changes the arguments or the name to call, or
changes the return type and not just to one that is confused with it. So a block that connects
differently now, or has other sockets, is announced unless its return type is confused with the
one that it had. -/
theorem signature_change_is_announced_iff (workspace : Workspace)
    (distinct : workspace.nodeIds.Nodup) (trigger : Trigger) {node : CallNode}
    (member : node ∈ workspace.nodes) (calls : node.kind.callsDefinition = true) :
    ∃ now, (workspace.runPass trigger).1.node? node.id = some now ∧
      (.returnType ∈ workspace.differencesFound trigger node ↔
        now.returnType ≠ node.returnType) ∧
      (.arguments ∈ workspace.differencesFound trigger node ↔ now.arguments ≠ node.arguments) ∧
      (workspace.Announces trigger ⟨node.id, node.save, now.save⟩ ↔
        now.arguments ≠ node.arguments ∨ now.calleeName ≠ node.calleeName ∨
          (now.returnType ≠ node.returnType ∧ ¬now.returnType.Confused node.returnType)) ∧
      (now.connection ≠ node.connection ∨ now.sockets ≠ node.sockets →
        workspace.Announces trigger ⟨node.id, node.save, now.save⟩ ∨
          now.returnType.Confused node.returnType) := by
  let now := workspace.afterPass trigger node
  have foundAfter : (workspace.runPass trigger).1.node? node.id = some now :=
    workspace.node?_runPass_of_mem trigger distinct member
  have announced : workspace.Announces trigger ⟨node.id, node.save, now.save⟩ ↔
      now.arguments ≠ node.arguments ∨ now.calleeName ≠ node.calleeName ∨
        (now.returnType ≠ node.returnType ∧ ¬now.returnType.Confused node.returnType) := by
    rw [Workspace.announces_iff trigger distinct member, ne_eq,
      workspace.save_afterPass_eq_iff trigger calls, not_and_or, not_and_or, not_or]
  refine ⟨now, foundAfter, workspace.returnType_mem_differencesFound_iff trigger calls,
    workspace.arguments_mem_differencesFound_iff trigger calls, announced, ?_⟩
  intro redrawn
  by_cases confused : now.returnType.Confused node.returnType
  · exact Or.inr confused
  · left
    rw [announced]
    rcases redrawn with connection | sockets
    · have returnType : now.returnType ≠ node.returnType := by
        intro same
        exact connection (CallNode.connection_eq_of_returnType same)
      exact Or.inr (Or.inr ⟨returnType, confused⟩)
    · have arguments : now.arguments ≠ node.arguments := by
        intro same
        exact sockets (CallNode.sockets_eq_of_arguments same)
      exact Or.inl arguments

/-- An event without a value gets a value of unknown type and an argument at once. Its caller
becomes an expression with a socket, and a full pass announces it. -/
theorem signature_change_is_announced_of_edit :
    let shout : Definition := ⟨⟨"def"⟩, "shout", "shout", .untyped, none, [⟨"word", "str"⟩]⟩
    let caller : CallNode := { id := ⟨"n1"⟩, kind := .event, definitionId := some shout.id }
    let workspace : Workspace := { nodes := [caller], definitions := [shout] }
    workspace.nodeIds.Nodup ∧ caller ∈ workspace.nodes ∧
      caller.kind.callsDefinition = true ∧
      ∃ now, (workspace.runPass .graphLoaded).1.node? caller.id = some now ∧
        now.returnType ≠ caller.returnType ∧ now.arguments ≠ caller.arguments ∧
        workspace.Announces .graphLoaded ⟨caller.id, caller.save, now.save⟩ := by
  intro shout caller workspace
  have distinct : workspace.nodeIds.Nodup := by decide
  have member : caller ∈ workspace.nodes := List.mem_cons_self
  obtain ⟨now, found, returnType, arguments, announced, -⟩ :=
    signature_change_is_announced_iff workspace distinct .graphLoaded member rfl
  have returnFound :
      SignaturePart.returnType ∈ workspace.differencesFound .graphLoaded caller := by decide
  have argumentsFound :
      SignaturePart.arguments ∈ workspace.differencesFound .graphLoaded caller := by decide
  have changed := arguments.mp argumentsFound
  exact ⟨distinct, member, rfl, now, found, returnType.mp returnFound, changed,
    announced.mpr (Or.inl changed)⟩

/-- The definition of a robot method without a value gets a value, of a type that is called `None`.
Its caller becomes an expression, and gets a warning of it, but the pass marks nothing and fires
nothing. -/
theorem signature_change_goes_unannounced :
    let drive : Definition := ⟨⟨"def"⟩, "Drive", "drive", .typed "None", none, []⟩
    let caller : CallNode :=
      { id := ⟨"n1"⟩, kind := .robotMethod, calleeName := "drive", definitionId := some drive.id,
        fields := { function := some "Drive" } }
    let workspace : Workspace := { nodes := [caller] }
    let trigger : Trigger := .definitionEdited drive
    let after := (workspace.runPass trigger).1
    workspace.nodeIds.Nodup ∧ caller ∈ workspace.nodes ∧
      caller.kind.callsDefinition = true ∧
      ∃ now, after.node? caller.id = some now ∧ now.returnType ≠ caller.returnType ∧
        now.connection ≠ caller.connection ∧ after.reported = workspace.reported ∧
        ∃ outcome, (workspace.runPass trigger).2.outcome? caller.id = some outcome ∧
          outcome.changed = false ∧
          outcome.warning = some PassWarning.returnTypeChanged.message := by
  intro drive caller workspace trigger after
  exact ⟨by decide, List.mem_cons_self, rfl, _, rfl, by decide, by decide, rfl, _, rfl, rfl, rfl⟩

end RobotBlocks
