import RobotBlocks.Proofs.Activity
import RobotBlocks.Proofs.PassFindings

/-!
# Warnings as a history

The latched warnings of a node tell what passes found at it since its warnings were acknowledged
for the last time: every part of the signature in which a pass found the node to differ from its
definition, once, in the order in which the parts were found first. `WatchedStep.findings` keeps
this record beside a run, without a look at the latched warnings, and
`WatchedStep.recorded_run` says that the latched warnings are its first occurrences.

A lost reference is not part of the history. The warning that a node shows after a pass is the
history and after it the reference that this pass found lost (`Workspace.warning_run`). The main
statement is `latched_is_exact_history`.
-/

set_option autoImplicit false

namespace RobotBlocks

/-! ## First occurrences -/

namespace CallNode

/-- One more difference is latched exactly if it did not occur before. -/
theorem latchedWith_eraseDups (earlier : List SignaturePart) (part : SignaturePart) :
    latchedWith (earlier.eraseDups.map SignaturePart.message) part.message =
      ((earlier ++ [part]).eraseDups).map SignaturePart.message := by
  have latched : part.message ∈ earlier.eraseDups.map SignaturePart.message ↔ part ∈ earlier := by
    rw [List.mem_map_of_injective SignaturePart.message_injective, List.mem_eraseDups]
  have single : [part].eraseDups = [part] := by simp [List.eraseDups_cons]
  unfold latchedWith
  rw [List.eraseDups_append]
  by_cases known : part ∈ earlier
  · have nothing : [part].removeAll earlier = [] := by simp [List.removeAll, known]
    rw [nothing]
    simp [latched, known]
  · have itself : [part].removeAll earlier = [part] := by simp [List.removeAll, known]
    rw [itself, single]
    simp [latched, known]

/-- What is latched after more differences is what was found in all, each part once, in the order in
which the parts were first found. -/
theorem latchedWithAll_eraseDups (earlier found : List SignaturePart) :
    latchedWithAll (earlier.eraseDups.map SignaturePart.message) found =
      ((earlier ++ found).eraseDups).map SignaturePart.message := by
  induction found generalizing earlier with
  | nil => simp [latchedWithAll]
  | cons part rest ih =>
    have first := latchedWith_eraseDups earlier part
    have later := ih (earlier ++ [part])
    rw [List.append_assoc, List.singleton_append] at later
    rw [← later, ← first]
    rfl

end CallNode

/-! ## What a pass latches -/

namespace Workspace

variable (workspace : Workspace) (trigger : Trigger)

/-- The parts of its signature in which a pass finds a node to differ from its definition. -/
def differencesFound (node : CallNode) : List SignaturePart :=
  if trigger.concerns node then node.differencesAmong (workspace.knownDefinitions trigger) else []

/-- The repair of a node that a pass concerns latches the differences that the pass finds. -/
theorem latched_run {node : CallNode} (concerned : trigger.concerns node = true) :
    ((workspace.repairFor trigger).run node).latched =
      CallNode.latchedWithAll node.latched (workspace.differencesFound trigger node) := by
  have latched := Trigger.latched_fullRepair workspace.components
    (workspace.knownDefinitions trigger) node
  rw [← workspace.repairFor_eq_fullRepair concerned] at latched
  rw [differencesFound, if_pos concerned]
  exact latched

/-- A pass latches the differences that it finds on a node. -/
theorem latched_afterPass (node : CallNode) :
    (workspace.afterPass trigger node).latched =
      CallNode.latchedWithAll node.latched (workspace.differencesFound trigger node) := by
  cases concerned : trigger.concerns node with
  | true => rw [afterPass_of_concerned concerned, workspace.latched_run trigger concerned]
  | false =>
    rw [afterPass_of_unconcerned concerned, differencesFound, concerned]
    rfl

end Workspace

/-! ## The record of a run -/

/-- What happens to a workspace while the warnings of its nodes are watched. -/
inductive WatchedStep
  /-- A pass, or an edit of the definitions or of the components. -/
  | act (activity : Activity)
  /-- The warnings of a node are acknowledged. -/
  | acknowledge (id : NodeId)

namespace WatchedStep

/-- The workspace after a step. -/
def perform (workspace : Workspace) : WatchedStep → Workspace
  | .act activity => activity.perform workspace
  | .acknowledge id => workspace.modifyNode id CallNode.acknowledge

/-- The workspace after steps one after the other. -/
def run (workspace : Workspace) (steps : List WatchedStep) : Workspace :=
  steps.foldl perform workspace

/-- What is on record about a node after a step: a pass adds what it finds, and an acknowledgement
wipes the record. -/
def note (workspace : Workspace) (id : NodeId) (record : List SignaturePart) :
    WatchedStep → List SignaturePart
  | .act (.pass trigger) =>
    match workspace.node? id with
    | none => record
    | some node => record ++ workspace.differencesFound trigger node
  | .act _ => record
  | .acknowledge other => if other = id then [] else record

/-- What is on record about a node after steps one after the other. -/
def findings (id : NodeId) : Workspace → List SignaturePart → List WatchedStep → List SignaturePart
  | _, record, [] => record
  | workspace, record, step :: rest =>
    findings id (perform workspace step) (note workspace id record step) rest

/-- A node whose latched warnings are the first occurrences on its record. -/
def Recorded (record : List SignaturePart) (node : CallNode) : Prop :=
  node.latched = record.eraseDups.map SignaturePart.message

variable {workspace : Workspace} {id : NodeId} {node : CallNode} {record : List SignaturePart}

/-- The record of a node stays right through an activity. -/
theorem recorded_act (found : workspace.node? id = some node) (recorded : Recorded record node)
    (activity : Activity) :
    Recorded (note workspace id record (.act activity)) (activity.effect workspace node) := by
  cases activity with
  | pass trigger =>
    show (workspace.afterPass trigger node).latched = _
    rw [workspace.latched_afterPass, recorded, CallNode.latchedWithAll_eraseDups]
    simp only [note, found]
  | define definition => exact recorded
  | undefine other => exact recorded
  | attach components => exact recorded

/-- A step keeps the latched warnings of a node in line with its record. -/
theorem recorded_perform (found : workspace.node? id = some node)
    (recorded : Recorded record node) (step : WatchedStep) :
    ∃ next, (perform workspace step).node? id = some next ∧
      Recorded (note workspace id record step) next := by
  cases step with
  | act activity =>
    refine ⟨activity.effect workspace node, ?_, recorded_act found recorded activity⟩
    have after := activity.node?_perform workspace id
    rw [found] at after
    exact after
  | acknowledge other =>
    have keeps : ∀ entry : CallNode, entry.id = other → entry.acknowledge.id = other :=
      fun _ same => same
    by_cases here : other = id
    · subst here
      refine ⟨node.acknowledge, ?_, ?_⟩
      · have after := Keyed.find?_modify_self CallNode.id keeps workspace.nodes
        rw [← Workspace.node?, found] at after
        exact after
      · simp [note, Recorded, CallNode.acknowledge]
    · refine ⟨node, ?_, ?_⟩
      · have after := Keyed.find?_modify_of_ne CallNode.id keeps workspace.nodes (Ne.symm here)
        exact after.trans found
      · simpa [note, here] using recorded

/-- Steps keep the latched warnings of a node in line with its record. -/
theorem recorded_run (found : workspace.node? id = some node) (recorded : Recorded record node)
    (steps : List WatchedStep) :
    ∃ now, (run workspace steps).node? id = some now ∧
      Recorded (findings id workspace record steps) now := by
  induction steps generalizing workspace node record with
  | nil => exact ⟨node, found, recorded⟩
  | cons step rest ih =>
    obtain ⟨next, foundNext, recordedNext⟩ := recorded_perform found recorded step
    exact ih foundNext recordedNext

end WatchedStep

/-! ## What a node shows after a pass -/

/-- What a node shows when there are messages for it: nothing if there are none, and otherwise the
messages with an empty line between any two of them. -/
def CallNode.told (messages : List String) : Option String :=
  if messages = [] then none else some (String.intercalate "\n\n" messages)

/-- A node tells its latched warnings and the passing ones. -/
theorem CallNode.warning_setWarnings (node : CallNode) (passing : List String) :
    (node.setWarnings passing).warning = told (node.allWarnings passing) := by
  unfold setWarnings told
  dsimp only
  cases node.allWarnings passing with
  | nil => rfl
  | cons first rest => rfl

section AfterPass

variable (workspace : Workspace) {trigger : Trigger} {node : CallNode}
  (concerned : trigger.concerns node = true)
include concerned

/-- A node shows what is latched after a pass and the reference that the pass found lost, if
nothing but differences of its signature is latched. -/
theorem Workspace.warning_run {record : List SignaturePart}
    (recorded : WatchedStep.Recorded record ((workspace.repairFor trigger).run node)) :
    let lost := node.lostAmong workspace.components (workspace.knownDefinitions trigger)
    let repaired := (workspace.repairFor trigger).run node
    repaired.warning =
      CallNode.told (repaired.latched ++ (lost.map LostReference.message).toList) := by
  intro lost repaired
  have passing : (workspace.repairFor trigger node).2.map PassWarning.message =
      (lost.map LostReference.message).toList := by
    rw [workspace.repairFor_eq_fullRepair concerned, Trigger.messages_fullRepair]
    show lost.toList.map LostReference.message = _
    cases lost with
    | none => rfl
    | some reference => rfl
  -- Nothing latched reads like a lost reference, so that what the pass tells is not left out.
  have fresh : ∀ message ∈ (lost.map LostReference.message).toList,
      message ∉ repaired.latched := by
    intro message member known
    rw [Option.mem_toList, Option.map_eq_some_iff] at member
    obtain ⟨reference, -, rfl⟩ := member
    rw [recorded] at known
    obtain ⟨part, -, same⟩ := List.mem_map.mp known
    exact reference.message_ne part same.symm
  have shown : repaired.warning = CallNode.told (repaired.allWarnings
      ((workspace.repairFor trigger node).2.map PassWarning.message)) :=
    CallNode.warning_setWarnings _ _
  rw [shown, passing, CallNode.allWarnings]
  congr 2
  refine List.filter_eq_self.mpr fun message member => ?_
  have unknown := fresh message member
  simpa using unknown

/-- The repair of a call of a component method binds it to the selected component. -/
theorem Workspace.componentId_run (kind : node.kind = .componentMethod) :
    ((workspace.repairFor trigger).run node).componentId = node.selectedComponentId := by
  have follows : workspace.repairFor trigger node = node.followComponents workspace.components := by
    rw [workspace.repairFor_eq_fullRepair concerned,
      Trigger.fullRepair_of_componentMethod kind]
  unfold Repair.run
  rw [follows]
  exact node.componentId_followComponents workspace.components

end AfterPass

/-- The latched warnings of a node with none to begin with are an exact history, whatever passes,
edits of the definitions and of the components and acknowledgements there are: they tell, once and
in the order of their first occurrence, the parts of the signature that passes found to differ since
the last acknowledgement. After a pass that concerns the node it shows the latched warnings, those
of this pass included, and after them the reference that the pass found lost: the method exactly
when the pass knew no definition that the node calls, the component exactly when no live component
has the identifier that the node is bound to and its class. It shows nothing when there is
neither. -/
theorem latched_is_exact_history (workspace : Workspace) {id : NodeId} {node : CallNode}
    (found : workspace.node? id = some node) (fresh : node.latched = [])
    (steps : List WatchedStep) :
    let reached := WatchedStep.run workspace steps
    let history := WatchedStep.findings id workspace []
    ∃ now, reached.node? id = some now ∧
      now.latched = (history steps).eraseDups.map SignaturePart.message ∧
      ∀ trigger : Trigger, trigger.concerns now = true →
        ∃ (repaired : CallNode) (lost : Option LostReference),
          (reached.runPass trigger).1.node? id = some repaired ∧
          repaired.latched =
            (history (steps ++ [.act (.pass trigger)])).eraseDups.map SignaturePart.message ∧
          (lost = some .method ↔ repaired.kind.callsDefinition = true ∧
            ∀ definition ∈ reached.knownDefinitions trigger,
              some definition.id ≠ repaired.definitionId) ∧
          (lost = some .component ↔ repaired.kind = .componentMethod ∧
            ∀ component ∈ reached.components, ¬(some component.id = repaired.componentId ∧
              component.className = repaired.componentClass)) ∧
          repaired.warning =
            CallNode.told (repaired.latched ++ (lost.map LostReference.message).toList) := by
  intro reached history
  have recorded : WatchedStep.Recorded [] node := fresh
  obtain ⟨now, foundNow, recordedNow⟩ := WatchedStep.recorded_run found recorded steps
  refine ⟨now, foundNow, recordedNow, fun trigger concerned => ?_⟩
  -- The pass that is looked at is one more step of the run.
  have repairedThere := reached.node?_runPass_of_concerned trigger foundNow concerned
  obtain ⟨repaired, foundAfter, recordedAfter⟩ :=
    WatchedStep.recorded_run found recorded (steps ++ [.act (.pass trigger)])
  have afterPass : WatchedStep.run workspace (steps ++ [.act (.pass trigger)]) =
      (reached.runPass trigger).1 := by
    unfold WatchedStep.run
    rw [List.foldl_append]
    rfl
  rw [afterPass, repairedThere, Option.some.injEq] at foundAfter
  subst foundAfter
  have untouched : ((reached.repairFor trigger).run now).untouched = now.untouched :=
    trigger.untouched_run reached.components reached.definitions now
  have sameKind := CallNode.kind_of_untouched untouched
  have sameDefinition := CallNode.definitionId_of_untouched untouched
  have sameClass := CallNode.componentClass_of_untouched untouched
  refine ⟨_, now.lostAmong reached.components (reached.knownDefinitions trigger), repairedThere,
    recordedAfter, ?_, ?_, reached.warning_run concerned recordedAfter⟩
  · rw [CallNode.lostAmong_eq_method_iff, sameKind, sameDefinition]
  · rw [CallNode.lostAmong_eq_component_iff, sameKind, sameClass]
    refine and_congr_right fun kind => ?_
    rw [reached.componentId_run concerned kind]

/-- After an acknowledgement the arguments of a method change, then its return type, then both at
once, and in the end the method is deleted. Its caller tells the arguments first and the return type
second, each of them once, and after them that the method is gone. -/
theorem latched_is_exact_history_of_changes :
    let shoot : Definition := ⟨⟨"def"⟩, "shoot", "shoot", .nothing, none, []⟩
    let counted : Definition := { shoot with returnType := .typed "int" }
    let aimed : Definition := { counted with params := [⟨"angle", "float"⟩] }
    let caller : CallNode := { id := ⟨"n1"⟩, kind := .event, definitionId := some shoot.id }
    let workspace : Workspace := { nodes := [caller], definitions := [shoot] }
    let steps : List WatchedStep :=
      [.act (.pass (.definitionEdited aimed)), .acknowledge ⟨"n1"⟩,
        .act (.pass (.definitionEdited counted)), .act (.pass .graphLoaded),
        .act (.pass (.definitionEdited aimed)), .act (.undefine shoot.id)]
    let reached := WatchedStep.run workspace steps
    workspace.node? ⟨"n1"⟩ = some caller ∧ caller.latched = [] ∧
      ∃ repaired, (reached.runPass .graphLoaded).1.node? ⟨"n1"⟩ = some repaired ∧
        repaired.warning = CallNode.told
          [PassWarning.argumentsChanged.message, PassWarning.returnTypeChanged.message,
            PassWarning.methodMissing.message] := by
  intro shoot counted aimed caller workspace steps reached
  have found : workspace.node? ⟨"n1"⟩ = some caller := by decide
  have history : WatchedStep.findings ⟨"n1"⟩ workspace []
      (steps ++ [.act (.pass .graphLoaded)]) =
        [.arguments, .returnType, .returnType, .arguments] := by decide
  obtain ⟨now, foundNow, -, after⟩ := latched_is_exact_history workspace found rfl steps
  obtain ⟨repaired, lost, foundAfter, latched, method, -, warning⟩ := after .graphLoaded rfl
  have calls : ((reached.runPass .graphLoaded).1.node? ⟨"n1"⟩).all
      (fun node => node.kind.callsDefinition) = true := by decide
  have gone : lost = some .method := by
    refine method.mpr ⟨?_, ?_⟩
    · rw [foundAfter] at calls
      exact calls
    · have unknown : reached.knownDefinitions .graphLoaded = [] := by decide
      rw [unknown]
      simp
  refine ⟨found, rfl, repaired, foundAfter, ?_⟩
  rw [warning, latched, history, gone]
  rfl

end RobotBlocks
