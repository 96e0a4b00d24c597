import RobotBlocks.Proofs.IndependentPasses
import RobotBlocks.Proofs.WarningHistory

/-!
# Edits of a definition coalesce

A caller takes nearly everything that a definition determines over without a look at what it had
before. The one exception is the name to call, which is taken over only where the caller has one or
its kind needs one. So an edit makes no difference between two states of a caller that agree in what
a definition does not determine, and of which both or neither carry a name to call. This relation is
`CallNode.SameReception`, and `CallNode.SameReception.follow` says so.

A caller stays in this relation to its first state through any passes whose definitions have a name
in generated code (`Workspace.sameReception_afterPasses`): an empty name would take the name to call
away for good. In the end, therefore, only the last edit counts, but for the latched warnings, which
are a history of all of them. The main statement is `edits_coalesce`.
-/

set_option autoImplicit false

namespace RobotBlocks

/-! ## States between which an edit makes no difference -/

/-- Two states of a node that agree in what a definition does not determine, and of which both or
neither carry a name to call unless the kind needs one. -/
structure CallNode.SameReception (left right : CallNode) : Prop where
  rest : left.exceptSignature = right.exceptSignature
  named : left.kind = .robotMethod ∨ (left.calleeName = "" ↔ right.calleeName = "")

namespace CallNode

section ExceptSignature

variable {left right : CallNode} (same : left.exceptSignature = right.exceptSignature)
include same

/-- States that differ in the signature only have the same kind. -/
theorem kind_of_exceptSignature : left.kind = right.kind := by
  have kinds := congrArg CallNode.kind same
  exact kinds

/-- States that differ in the signature only call the same definition. -/
theorem definitionId_of_exceptSignature : left.definitionId = right.definitionId := by
  have definitionIds := congrArg CallNode.definitionId same
  exact definitionIds

end ExceptSignature

namespace SameReception

variable {left right : CallNode}

/-- A state receives a definition as it does itself. -/
theorem refl (node : CallNode) : node.SameReception node := ⟨rfl, Or.inr Iff.rfl⟩

/-- If a state receives a definition as a second one does, and this as a third, then so does the
first as the third. -/
theorem trans {middle : CallNode} (first : left.SameReception middle)
    (second : middle.SameReception right) : left.SameReception right where
  rest := first.rest.trans second.rest
  named := by
    have kind := kind_of_exceptSignature first.rest
    rcases first.named with robot | namedFirst
    · exact Or.inl robot
    · rcases second.named with robot | namedSecond
      · exact Or.inl (kind.trans robot)
      · exact Or.inr (namedFirst.trans namedSecond)

/-- States that receive a definition alike call the same definitions. -/
theorem calls (same : left.SameReception right) (id : NodeId) : left.calls id = right.calls id := by
  unfold CallNode.calls
  rw [kind_of_exceptSignature same.rest, definitionId_of_exceptSignature same.rest]

/-- Both take the name of a definition over, or neither does. -/
theorem calleeNameFor (same : left.SameReception right) (definition : Definition) :
    left.calleeNameFor definition = right.calleeNameFor definition := by
  have kind := kind_of_exceptSignature same.rest
  unfold CallNode.calleeNameFor
  rw [← kind]
  rcases same.named with robot | named
  · rw [if_pos (Or.inl robot), if_pos (Or.inl robot)]
  · by_cases unset : left.calleeName = ""
    · have unsetToo := named.mp unset
      simp only [unset, unsetToo]
    · have set : right.calleeName ≠ "" := fun unsetToo => unset (named.mpr unsetToo)
      rw [if_pos (Or.inr unset), if_pos (Or.inr set)]

/-- After an edit of their definition the two are the same but for their warnings. -/
theorem follow (same : left.SameReception right) (definition : Definition) :
    (left.followDefinition (some definition)).1.acknowledge =
      (right.followDefinition (some definition)).1.acknowledge := by
  -- what the definition determines is written over, so the rest of the node can stand for the node
  have followed : ∀ node : CallNode,
      (node.followDefinition (some definition)).1.acknowledge =
        { node.exceptSignature with
          fields := node.exceptSignature.fields.set .function definition.displayName
          calleeName := node.calleeNameFor definition
          returnType := definition.returnType
          arguments := definition.params } := by
    intro node
    rw [followDefinition_some]
    rfl
  rw [followed, followed, same.rest, same.calleeNameFor]

end SameReception

/-- An edit that gives a definition a name in generated code leaves a name to call where there was
one, and leaves none where there was none, unless the kind needs one. -/
theorem calleeNameFor_eq_empty_iff (node : CallNode) {definition : Definition}
    (named : definition.emittedName ≠ "") (other : node.kind ≠ .robotMethod) :
    node.calleeNameFor definition = "" ↔ node.calleeName = "" := by
  unfold calleeNameFor
  by_cases unset : node.calleeName = ""
  · simp [other, unset]
  · simp [unset, named]

/-- Following a definition that has a name in generated code does not change how a later definition
is received. -/
theorem sameReception_followDefinition (node : CallNode) {definition? : Option Definition}
    (named : ∀ definition ∈ definition?, definition.emittedName ≠ "") :
    node.SameReception (node.followDefinition definition?).1 where
  rest := (node.exceptSignature_followDefinition definition?).symm
  named := by
    by_cases robot : node.kind = .robotMethod
    · exact Or.inl robot
    · refine Or.inr ?_
      cases definition? with
      | none => exact Iff.rfl
      | some definition =>
        rw [followDefinition_some]
        exact (node.calleeNameFor_eq_empty_iff (named definition rfl) robot).symm

/-! ## Latched messages -/

/-- Differences that are latched add their own messages and no others. -/
theorem mem_latchedWithAll_iff {message : String} (other : ∀ part : SignaturePart,
    message ≠ part.message) (latched : List String) (found : List SignaturePart) :
    message ∈ latchedWithAll latched found ↔ message ∈ latched := by
  induction found generalizing latched with
  | nil => exact Iff.rfl
  | cons part rest ih =>
    have first : message ∈ latchedWith latched part.message ↔ message ∈ latched := by
      unfold latchedWith
      split
      · exact Iff.rfl
      · simp [other part]
    exact (ih (latchedWith latched part.message)).trans first

end CallNode

/-! ## Many passes -/

namespace Workspace

/-- What many passes do to the node under an identifier, whatever the identifiers are. -/
theorem node?_runPasses (workspace : Workspace) (passes : List Trigger) (id : NodeId) :
    (workspace.runPasses passes).node? id =
      (workspace.node? id).map (workspace.afterPasses passes) := by
  induction passes generalizing workspace with
  | nil => exact Option.map_id'.symm
  | cons trigger rest ih =>
    have later := ih (workspace.runPass trigger).1
    rw [afterPasses_runPass, workspace.node?_runPass, Option.map_map] at later
    exact later

/-- The last pass works on what the earlier ones have made of the node. -/
theorem afterPasses_concat (workspace : Workspace) (earlier : List Trigger) (last : Trigger)
    (node : CallNode) :
    workspace.afterPasses (earlier ++ [last]) node =
      workspace.afterPass last (workspace.afterPasses earlier node) := by
  unfold afterPasses
  rw [List.foldl_append]
  rfl

/-- Passes latch messages about signatures only. -/
theorem mem_latched_afterPasses_iff (workspace : Workspace) (node : CallNode) {message : String}
    (other : ∀ part : SignaturePart, message ≠ part.message) (passes : List Trigger) :
    message ∈ (workspace.afterPasses passes node).latched ↔ message ∈ node.latched := by
  induction passes generalizing node with
  | nil => exact Iff.rfl
  | cons trigger rest ih =>
    refine (ih (workspace.afterPass trigger node)).trans ?_
    rw [workspace.latched_afterPass]
    exact CallNode.mem_latchedWithAll_iff other _ _

variable {workspace : Workspace} {node : CallNode}

section Callers

variable (calls : node.kind.callsDefinition = true)
include calls

/-- A pass that knows only definitions with a name in generated code makes no difference to a later
edit. -/
theorem sameReception_afterPass {trigger : Trigger}
    (named : ∀ known ∈ workspace.knownDefinitions trigger, known.emittedName ≠ "") :
    node.SameReception (workspace.afterPass trigger node) := by
  cases concerned : trigger.concerns node with
  | false =>
    rw [afterPass_of_unconcerned concerned]
    exact .refl node
  | true =>
    have full := workspace.repairFor_eq_fullRepair concerned
    have followed : ∀ definition ∈ node.definitionAmong (workspace.knownDefinitions trigger),
        definition.emittedName ≠ "" := by
      intro definition among
      obtain ⟨id, -, found⟩ := Option.bind_eq_some_iff.mp among
      exact named definition (Keyed.mem_of_find? found)
    have same := node.sameReception_followDefinition followed
    rw [afterPass_of_concerned concerned, Repair.run, full,
      Trigger.fullRepair_of_callsDefinition calls]
    exact ⟨same.rest, same.named⟩

/-- Passes that know only definitions with a name in generated code do not change how a later
definition is received. -/
theorem sameReception_afterPasses {passes : List Trigger}
    (named : ∀ pass ∈ passes, ∀ known ∈ workspace.knownDefinitions pass,
      known.emittedName ≠ "") :
    node.SameReception (workspace.afterPasses passes node) := by
  induction passes generalizing node with
  | nil => exact .refl node
  | cons trigger rest ih =>
    rw [List.forall_mem_cons] at named
    have first := sameReception_afterPass calls named.1
    have callsStill : (workspace.afterPass trigger node).kind.callsDefinition = true := by
      rw [← CallNode.kind_of_exceptSignature first.rest]
      exact calls
    exact first.trans (ih callsStill named.2)

end Callers

/-- A caller tells nothing but what is latched after an edit of its definition. -/
theorem warning_afterPass_definitionEdited {definition : Definition}
    (calls : node.calls definition.id = true) :
    (workspace.afterPass (.definitionEdited definition) node).warning =
      CallNode.told (workspace.afterPass (.definitionEdited definition) node).latched := by
  rw [workspace.afterPass_definitionEdited calls, CallNode.warning_setWarnings]
  unfold CallNode.allWarnings
  rw [List.filter_nil, List.append_nil]
  rfl

end Workspace

/-- Edits of a definition coalesce. A caller in any state goes through passes, of which each knows
only definitions with a name in generated code, and in the end through the pass after an edit of the
definition that it calls. But for its warnings it is then what this last pass alone makes of it: so
are its saved state and its label. After both runs it tells what is latched and nothing else, and
what is latched after one run and not after the other is about its signature. In particular the same
lost references are told after both.

A deletion knows no definition, so it may stand anywhere among the earlier passes. -/
theorem edits_coalesce (workspace : Workspace) {id : NodeId} {node : CallNode}
    (found : workspace.node? id = some node) (definition : Definition)
    (calls : node.calls definition.id = true) {earlier : List Trigger}
    (named : ∀ pass ∈ earlier, ∀ known ∈ workspace.knownDefinitions pass,
      known.emittedName ≠ "") :
    let last := Trigger.definitionEdited definition
    ∃ coalesced single,
      (workspace.runPasses (earlier ++ [last])).node? id = some coalesced ∧
      (workspace.runPass last).1.node? id = some single ∧
      coalesced.acknowledge = single.acknowledge ∧
      coalesced.save = single.save ∧
      coalesced.fields.function = single.fields.function ∧
      coalesced.warning = CallNode.told coalesced.latched ∧
      single.warning = CallNode.told single.latched ∧
      (∀ message, (∀ part : SignaturePart, message ≠ part.message) →
        (message ∈ coalesced.latched ↔ message ∈ single.latched)) ∧
      ∀ lost : LostReference,
        lost.message ∈ coalesced.latched ↔ lost.message ∈ single.latched := by
  intro last
  let reached := workspace.afterPasses earlier node
  -- The invariant of the earlier passes: what they leave takes the last definition on as the node
  -- itself does, but for what is latched.
  have callsDefinition : node.kind.callsDefinition = true := (Bool.and_eq_true_iff.mp calls).1
  have same : node.SameReception reached :=
    Workspace.sameReception_afterPasses callsDefinition named
  have callsStill : reached.calls definition.id = true :=
    (same.calls definition.id).symm.trans calls
  have acknowledged : (workspace.afterPass last reached).acknowledge =
      (workspace.afterPass last node).acknowledge := by
    rw [workspace.afterPass_definitionEdited callsStill, workspace.afterPass_definitionEdited calls]
    exact (same.follow definition).symm
  have latched : ∀ message, (∀ part : SignaturePart, message ≠ part.message) →
      (message ∈ (workspace.afterPass last reached).latched ↔
        message ∈ (workspace.afterPass last node).latched) := by
    intro message other
    have afterAll := workspace.mem_latched_afterPasses_iff node other (earlier ++ [last])
    have afterOne := workspace.mem_latched_afterPasses_iff node other [last]
    rw [workspace.afterPasses_concat] at afterAll
    exact afterAll.trans afterOne.symm
  refine ⟨workspace.afterPass last reached, workspace.afterPass last node, ?_, ?_, acknowledged,
    ?_, ?_, workspace.warning_afterPass_definitionEdited callsStill,
    workspace.warning_afterPass_definitionEdited calls, latched, ?_⟩
  · rw [workspace.node?_runPasses, found, Option.map_some, workspace.afterPasses_concat]
  · rw [workspace.node?_runPass, found, Option.map_some]
  · have saved := congrArg CallNode.save acknowledged
    exact saved
  · have labels := congrArg (fun state => state.fields.function) acknowledged
    exact labels
  · intro lost
    exact latched lost.message lost.message_ne

/-- A method is renamed and gets an argument, is deleted, and is put back as it was when its caller
was placed. The caller is saved as if it had been told once that nothing happened, but it keeps
telling that its arguments have changed. -/
theorem edits_coalesce_of_deletion_and_return :
    let shoot : Definition := ⟨⟨"def"⟩, "shoot", "shoot", .nothing, none, []⟩
    let aim : Definition := { shoot with
      displayName := "aim", emittedName := "aim", params := [⟨"angle", "float"⟩] }
    let caller : CallNode :=
      { id := ⟨"n1"⟩, kind := .ownMethod, calleeName := "shoot", definitionId := some shoot.id,
        fields := { function := some "shoot" } }
    let workspace : Workspace := { nodes := [caller] }
    let earlier : List Trigger := [.definitionEdited aim, .definitionDeleted shoot.id]
    workspace.node? ⟨"n1"⟩ = some caller ∧ caller.calls shoot.id = true ∧
      (∀ pass ∈ earlier, ∀ known ∈ workspace.knownDefinitions pass, known.emittedName ≠ "") ∧
      ∃ coalesced single,
        (workspace.runPasses (earlier ++ [.definitionEdited shoot])).node? ⟨"n1"⟩ =
          some coalesced ∧
        (workspace.runPass (.definitionEdited shoot)).1.node? ⟨"n1"⟩ = some single ∧
        coalesced.save = single.save ∧ coalesced.latched ≠ single.latched := by
  intro shoot aim caller workspace earlier
  have found : workspace.node? ⟨"n1"⟩ = some caller := by decide
  have calls : caller.calls shoot.id = true := by decide
  have named : ∀ pass ∈ earlier, ∀ known ∈ workspace.knownDefinitions pass,
      known.emittedName ≠ "" := by decide
  obtain ⟨coalesced, single, foundAll, foundOne, -, saved, -⟩ :=
    edits_coalesce workspace found shoot calls named
  have latchedAll : ((workspace.runPasses (earlier ++ [.definitionEdited shoot])).node?
      ⟨"n1"⟩).map CallNode.latched = some [PassWarning.argumentsChanged.message] := by decide
  have latchedOne : ((workspace.runPass (.definitionEdited shoot)).1.node?
      ⟨"n1"⟩).map CallNode.latched = some [] := by decide
  refine ⟨found, calls, named, coalesced, single, foundAll, foundOne, saved, ?_⟩
  rw [foundAll, Option.map_some, Option.some.injEq] at latchedAll
  rw [foundOne, Option.map_some, Option.some.injEq] at latchedOne
  rw [latchedAll, latchedOne]
  exact List.cons_ne_nil _ _

end RobotBlocks
