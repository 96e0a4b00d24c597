import Mathlib.Data.List.Pairwise
import Mathlib.Data.List.Perm.Basic
import RobotBlocks.Proofs.PassFrame

/-!
# Independent passes

A pass that is not over the whole graph has a subject: the definition that was edited or deleted, or
the components. A call has a subject too, and the pass concerns it exactly if the subjects agree
(`Trigger.concerns_iff_subject?`). So passes with different subjects concern different calls, and
since no pass changes the subject of a call, this stays so while they run.

A pass therefore finds the calls that it concerns as they were before the others, and neither what
it fires nor what it reports depends on them (`Workspace.firedBy_runPass` and
`Workspace.report_runPass`). This gives a run of such passes in one equation
(`Workspace.runPasses_eq`), of which no part but the order of the log depends on the order of the
passes.
-/

set_option autoImplicit false

namespace RobotBlocks

/-! ## Subjects -/

/-- What a pass is about, if it is not about the whole graph: a definition or the components. -/
inductive PassSubject
  | definition (id : NodeId)
  | components
deriving DecidableEq, Repr

/-- The subject of the passes that concern a node, if there are any but the full pass. -/
def CallNode.subject? (node : CallNode) : Option PassSubject :=
  if node.kind = .componentMethod then some .components
  else if node.kind.callsDefinition then node.definitionId.map .definition
  else none

namespace Trigger

/-- The subject of the pass that a trigger sets off; a full pass has none. -/
def subject? : Trigger → Option PassSubject
  | .definitionEdited definition => some (.definition definition.id)
  | .definitionDeleted id => some (.definition id)
  | .componentsEdited => some .components
  | .graphLoaded => none

section Subject

variable {node : CallNode}

/-- A node calls a definition if its subject is this definition. -/
theorem calls_iff_subject? {id : NodeId} :
    node.calls id = true ↔ node.subject? = some (.definition id) := by
  unfold CallNode.calls CallNode.subject?
  by_cases component : node.kind = .componentMethod
  · have callsNone := CallNode.callsDefinition_of_componentMethod component
    rw [if_pos component, callsNone]
    simp
  · cases node.kind.callsDefinition with
    | true => simp [component]
    | false => simp [component]

/-- A pass with a subject concerns the nodes with this subject. -/
theorem concerns_iff_subject? {trigger : Trigger} (about : trigger.subject? ≠ none) :
    trigger.concerns node = true ↔ node.subject? = trigger.subject? := by
  cases trigger with
  | definitionEdited definition => exact calls_iff_subject?
  | definitionDeleted id => exact calls_iff_subject?
  | componentsEdited =>
    unfold concerns CallNode.subject? subject?
    by_cases component : node.kind = .componentMethod
    · simp [component]
    · simp [component]
  | graphLoaded => exact absurd rfl about

end Subject

/-- Triggers of passes that have a subject each, and no two the same. -/
structure Independent (triggers : List Trigger) : Prop where
  subjects : ∀ trigger ∈ triggers, trigger.subject? ≠ none
  different : (triggers.map subject?).Nodup

/-- Triggers that concern no node in common. -/
def Apart (first second : Trigger) : Prop :=
  ∀ node, ¬(first.concerns node = true ∧ second.concerns node = true)

/-- The order of two triggers does not matter for whether they are apart. -/
theorem Apart.symm {first second : Trigger} (apart : Apart first second) : Apart second first :=
  fun node both => apart node both.symm

instance : Std.Symm Apart := ⟨fun _ _ => Apart.symm⟩

/-- A node that one of two such triggers concerns is no concern of the other. -/
theorem Apart.unconcerned {first second : Trigger} (apart : Apart first second) {node : CallNode}
    (concerned : first.concerns node = true) : second.concerns node = false := by
  have notBoth := apart node
  simpa [concerned] using notBoth

/-- Any two independent triggers are apart. -/
theorem Independent.pairwise {triggers : List Trigger} (independent : Independent triggers) :
    triggers.Pairwise Apart := by
  have different := List.pairwise_map.mp independent.different
  refine different.imp_of_mem ?_
  rintro first second memberFirst memberSecond differ node ⟨concerned, concernedToo⟩
  apply differ
  rw [← (concerns_iff_subject? (independent.subjects first memberFirst)).mp concerned,
    (concerns_iff_subject? (independent.subjects second memberSecond)).mp concernedToo]

end Trigger

/-! ## One pass after another -/

namespace Workspace

section TwoPasses

variable (workspace : Workspace) {first second : Trigger}

/-- A pass does not change the repair that another one carries out. -/
theorem repairFor_runPass (first second : Trigger) :
    (workspace.runPass first).1.repairFor second = workspace.repairFor second := by
  obtain ⟨nodes, reported, after⟩ := workspace.surroundings_runPass first
  rw [after]
  rfl

/-- A pass does not change what another one makes of a node. -/
theorem afterPass_runPass (first second : Trigger) :
    (workspace.runPass first).1.afterPass second = workspace.afterPass second := by
  funext node
  rw [afterPass, repairFor_runPass, afterPass]

/-- A pass concerns the same nodes after another pass as before it. -/
theorem concerns_afterPass (first second : Trigger) (node : CallNode) :
    second.concerns (workspace.afterPass first node) = second.concerns node :=
  second.concerns_congr (workspace.untouched_afterPass first node)

variable (apart : first.Apart second)
include apart

/-- Two passes that are apart make the same of a node in either order. -/
theorem afterPass_comm (node : CallNode) :
    workspace.afterPass second (workspace.afterPass first node) =
      workspace.afterPass first (workspace.afterPass second node) := by
  cases concerned : first.concerns node with
  | true =>
    have unconcerned := apart.unconcerned concerned
    have still := workspace.concerns_afterPass first second node
    rw [afterPass_of_unconcerned (still.trans unconcerned), afterPass_of_unconcerned unconcerned]
  | false =>
    have still := workspace.concerns_afterPass second first node
    rw [afterPass_of_unconcerned concerned, afterPass_of_unconcerned (still.trans concerned)]

variable (distinct : workspace.nodeIds.Nodup)
include distinct

/-- A pass finds the nodes that it concerns as they were before a pass apart from it. -/
theorem filter_concerns_runPass :
    (workspace.runPass first).1.nodes.filter second.concerns =
      workspace.nodes.filter second.concerns := by
  have same : second.concerns ∘ workspace.afterPass first = second.concerns :=
    funext (workspace.concerns_afterPass first second)
  have kept : ∀ node ∈ workspace.nodes.filter second.concerns,
      workspace.afterPass first node = id node := by
    intro node member
    exact afterPass_of_unconcerned (apart.symm.unconcerned (List.mem_filter.mp member).2)
  rw [workspace.nodes_runPass first distinct, List.filter_map, same, List.map_congr_left kept,
    List.map_id]

/-- A pass that ran before fires nothing less and nothing more of another one that is apart. -/
theorem firedBy_runPass :
    (workspace.runPass first).1.firedBy second = workspace.firedBy second := by
  have fired : ∀ reached : Workspace, reached.firedBy second =
      ((reached.nodes.filter second.concerns).filterMap
        (reached.repairFor second).change?).map StateChange.unrecorded := by
    intro reached
    rw [firedBy, List.filterMap_filter]
    rfl
  rw [fired, fired, workspace.filter_concerns_runPass apart distinct, repairFor_runPass]

/-- A pass reports the same whether or not one that is apart ran before. -/
theorem report_runPass :
    ((workspace.runPass first).1.runPass second).2 = (workspace.runPass second).2 := by
  have distinctNext := workspace.nodup_nodeIds_runPass first distinct
  rw [runPass_eq _ second distinctNext, runPass_eq _ second distinct,
    workspace.filter_concerns_runPass apart distinct, repairFor_runPass]

end TwoPasses

/-! ## Many passes -/

/-- What passes one after the other make of a node. -/
def afterPasses (workspace : Workspace) (passes : List Trigger) (node : CallNode) : CallNode :=
  passes.foldl (fun reached trigger => workspace.afterPass trigger reached) node

/-- The reports of passes one after the other, each with the trigger of its pass. -/
def reports : Workspace → List Trigger → List (Trigger × PassReport)
  | _, [] => []
  | workspace, trigger :: rest =>
    (trigger, (workspace.runPass trigger).2) :: reports (workspace.runPass trigger).1 rest

/-- A pass does not change what a run of passes makes of a node. -/
theorem afterPasses_runPass (workspace : Workspace) (trigger : Trigger) (passes : List Trigger) :
    (workspace.runPass trigger).1.afterPasses passes = workspace.afterPasses passes := by
  unfold afterPasses
  simp only [afterPass_runPass]

section ManyPasses

variable {workspace : Workspace} {passes : List Trigger}

/-- Passes that are apart make the same of a node in every order. -/
theorem afterPasses_perm (apart : passes.Pairwise Trigger.Apart) {reordered : List Trigger}
    (perm : passes.Perm reordered) :
    workspace.afterPasses passes = workspace.afterPasses reordered := by
  funext node
  apply perm.foldl_eq'
  intro first memberFirst second memberSecond reached
  by_cases same : first = second
  · rw [same]
  · exact workspace.afterPass_comm (apart.forall memberFirst memberSecond same) reached

/-- Passes that are apart map the nodes in place, and each of them fires what it would fire if it
were the only one. -/
theorem runPasses_eq (distinct : workspace.nodeIds.Nodup)
    (apart : passes.Pairwise Trigger.Apart) :
    workspace.runPasses passes =
      { workspace with
        nodes := workspace.nodes.map (workspace.afterPasses passes)
        reported := workspace.reported ++ passes.flatMap workspace.firedBy } := by
  induction passes generalizing workspace with
  | nil =>
    have nothing : workspace.afterPasses [] = id := rfl
    rw [nothing, List.map_id, List.flatMap_nil, List.append_nil]
    rfl
  | cons trigger rest ih =>
    rw [List.pairwise_cons] at apart
    let next := (workspace.runPass trigger).1
    have distinctNext : next.nodeIds.Nodup := workspace.nodup_nodeIds_runPass trigger distinct
    have nodes : next.nodes.map (next.afterPasses rest) =
        workspace.nodes.map (workspace.afterPasses (trigger :: rest)) := by
      rw [workspace.nodes_runPass trigger distinct, List.map_map, afterPasses_runPass]
      rfl
    -- No later pass looks at what this one changes, so that it fires what it would have fired
    -- before.
    have fired : next.reported ++ rest.flatMap next.firedBy =
        workspace.reported ++ (trigger :: rest).flatMap workspace.firedBy := by
      have same : ∀ later ∈ rest, next.firedBy later = workspace.firedBy later := by
        intro later member
        exact workspace.firedBy_runPass (apart.1 later member) distinct
      rw [(reported_runPass distinct).1, List.flatMap_congr same, List.flatMap_cons,
        List.append_assoc]
    obtain ⟨someNodes, someReported, after⟩ := workspace.surroundings_runPass trigger
    calc workspace.runPasses (trigger :: rest)
        = next.runPasses rest := rfl
      _ = { next with
            nodes := next.nodes.map (next.afterPasses rest)
            reported := next.reported ++ rest.flatMap next.firedBy } := ih distinctNext apart.2
      _ = { next with
            nodes := workspace.nodes.map (workspace.afterPasses (trigger :: rest))
            reported := workspace.reported ++ (trigger :: rest).flatMap workspace.firedBy } := by
          rw [nodes, fired]
      _ = { workspace with
            nodes := workspace.nodes.map (workspace.afterPasses (trigger :: rest))
            reported := workspace.reported ++ (trigger :: rest).flatMap workspace.firedBy } := by
          rw [show next = _ from after]

/-- Passes that are apart report what they would report if each were the only one. -/
theorem reports_eq (distinct : workspace.nodeIds.Nodup)
    (apart : passes.Pairwise Trigger.Apart) :
    workspace.reports passes =
      passes.map fun trigger => (trigger, (workspace.runPass trigger).2) := by
  induction passes generalizing workspace with
  | nil => rfl
  | cons trigger rest ih =>
    rw [List.pairwise_cons] at apart
    have distinctNext := workspace.nodup_nodeIds_runPass trigger distinct
    have same : ∀ later ∈ rest,
        (later, ((workspace.runPass trigger).1.runPass later).2) =
          (later, (workspace.runPass later).2) := by
      intro later member
      rw [workspace.report_runPass (apart.1 later member) distinct]
    rw [reports, ih distinctNext apart.2, List.map_congr_left same]
    rfl

end ManyPasses

end Workspace

/-- Passes over different definitions, and at most one over the components, can be run in any order.
The workspace is the same in the end but for the order of the log, to which the same changes have
been appended, and each pass gives the same report. -/
theorem independent_passes_commute (workspace : Workspace) (distinct : workspace.nodeIds.Nodup)
    {passes reordered : List Trigger} (independent : Trigger.Independent passes)
    (perm : passes.Perm reordered) :
    (workspace.runPasses reordered).nodes = (workspace.runPasses passes).nodes ∧
      (workspace.runPasses reordered).recordsUndo = (workspace.runPasses passes).recordsUndo ∧
      (∃ fired firedReordered,
        (workspace.runPasses passes).reported = workspace.reported ++ fired ∧
        (workspace.runPasses reordered).reported = workspace.reported ++ firedReordered ∧
        fired.Perm firedReordered) ∧
      (workspace.reports passes).Perm (workspace.reports reordered) ∧
      ∀ trigger report, (trigger, report) ∈ workspace.reports passes ↔
        trigger ∈ passes ∧ report = (workspace.runPass trigger).2 := by
  have apart := independent.pairwise
  have apartReordered : reordered.Pairwise Trigger.Apart :=
    (perm.pairwise_iff Trigger.Apart.symm).mp apart
  have run := Workspace.runPasses_eq distinct apart
  have runReordered := Workspace.runPasses_eq distinct apartReordered
  have reports := Workspace.reports_eq distinct apart
  have reportsReordered := Workspace.reports_eq distinct apartReordered
  refine ⟨?_, ?_, ⟨passes.flatMap workspace.firedBy, reordered.flatMap workspace.firedBy, ?_, ?_,
    perm.flatMap_right _⟩, ?_, ?_⟩
  · rw [run, runReordered, Workspace.afterPasses_perm apart perm]
  · rw [run, runReordered]
  · rw [run]
  · rw [runReordered]
  · rw [reports, reportsReordered]
    exact perm.map _
  · intro trigger report
    rw [reports]
    simp [eq_comm]

/-- An event is renamed, a method is deleted and a motor is renamed. The passes over the three calls
fire the same changes and report the same in the opposite order, although the log is another one. -/
theorem independent_passes_commute_of_three_edits :
    let cheer : Definition := ⟨⟨"cheer"⟩, "cheer", "cheer", .nothing, none, []⟩
    let lift : Component := ⟨⟨"m1"⟩, "lift", "Motor"⟩
    let fan : CallNode :=
      { id := ⟨"n1"⟩, kind := .event, returnType := .untyped, definitionId := some cheer.id }
    let shooter : CallNode :=
      { id := ⟨"n2"⟩, kind := .ownMethod, definitionId := some ⟨"shoot"⟩ }
    let mover : CallNode :=
      { id := ⟨"n3"⟩, kind := .componentMethod, componentId := some lift.id,
        componentClass := "Motor", components := [lift], fields := { component := some "lift" } }
    let workspace : Workspace :=
      { nodes := [fan, shooter, mover], components := [{ lift with name := "arm" }] }
    let passes : List Trigger :=
      [.definitionEdited cheer, .definitionDeleted ⟨"shoot"⟩, .componentsEdited]
    workspace.nodeIds.Nodup ∧ Trigger.Independent passes ∧ passes.Perm passes.reverse ∧
      (workspace.runPasses passes.reverse).nodes = (workspace.runPasses passes).nodes ∧
      (workspace.runPasses passes.reverse).reported ≠ (workspace.runPasses passes).reported ∧
      (∃ fired firedReordered,
        (workspace.runPasses passes).reported = workspace.reported ++ fired ∧
        (workspace.runPasses passes.reverse).reported = workspace.reported ++ firedReordered ∧
        fired.Perm firedReordered) ∧
      (workspace.reports passes).Perm (workspace.reports passes.reverse) := by
  intro cheer lift fan shooter mover workspace passes
  have distinct : workspace.nodeIds.Nodup := by decide
  have independent : Trigger.Independent passes := ⟨by decide, by decide⟩
  have perm : passes.Perm passes.reverse := (List.reverse_perm passes).symm
  obtain ⟨nodes, -, fired, reports, -⟩ :=
    independent_passes_commute workspace distinct independent perm
  have otherLog : (workspace.runPasses passes.reverse).reported ≠
      (workspace.runPasses passes).reported := by decide
  exact ⟨distinct, independent, perm, nodes, otherLog, fired, reports⟩

end RobotBlocks
