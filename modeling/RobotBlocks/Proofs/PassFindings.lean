import RobotBlocks.Proofs.ComponentIdentity
import RobotBlocks.Proofs.FullPassFixpoint

/-!
# What a pass finds at a node

A pass holds the nodes that it concerns against the definitions that it knows and the components
that are attached. After an edit of a definition it knows this one only, after a deletion none, and
a full pass knows them all. Whatever set it off, it gives these nodes the repair of a full pass
that knows as much (`Workspace.repairFor_eq_fullRepair`).

So what a pass finds is told for full repairs. It finds differences between a node and its
definition, which it latches (`Trigger.latched_fullRepair`), and it may find that a reference is
lost, which it tells until the next pass (`Trigger.passing_fullRepair`).
-/

set_option autoImplicit false

namespace RobotBlocks

/-! ## The definitions that a pass knows -/

namespace Workspace

/-- The definitions that a pass knows. -/
def knownDefinitions (workspace : Workspace) : Trigger → List Definition
  | .definitionEdited definition => [definition]
  | .definitionDeleted _ => []
  | .componentsEdited => []
  | .graphLoaded => workspace.definitions

/-- A pass gives the nodes that it concerns the repair of a full pass that knows as much. -/
theorem repairFor_eq_fullRepair (workspace : Workspace) {trigger : Trigger} {node : CallNode}
    (concerned : trigger.concerns node = true) :
    workspace.repairFor trigger node =
      Trigger.fullRepair workspace.components (workspace.knownDefinitions trigger) node := by
  cases trigger with
  | definitionEdited definition =>
    have known : Keyed.find? Definition.id definition.id [definition] = some definition := by
      simp [Keyed.find?]
    rw [knownDefinitions, Trigger.fullRepair_of_calls concerned, known]
    rfl
  | definitionDeleted id =>
    rw [knownDefinitions, Trigger.fullRepair_of_calls concerned]
    rfl
  | componentsEdited =>
    have kind : node.kind = .componentMethod := of_decide_eq_true concerned
    rw [Trigger.fullRepair_of_componentMethod kind]
    rfl
  | graphLoaded => rfl

end Workspace

/-! ## Differences and lost references -/

/-- A part of the signature of a node, which its definition determines. -/
inductive SignaturePart
  /-- What the call gives back. -/
  | returnType
  /-- The arguments that it takes. -/
  | arguments
deriving DecidableEq, Repr

namespace SignaturePart

/-- The warning that a part of the signature was taken over from a changed definition. -/
def warning : SignaturePart → PassWarning
  | .returnType => .returnTypeChanged
  | .arguments => .argumentsChanged

/-- The wording of this warning. -/
def message (part : SignaturePart) : String := part.warning.message

/-- The two parts of a signature are announced in different words. -/
theorem message_injective : Function.Injective message := by
  intro first second same
  cases first with
  | returnType =>
    cases second with
    | returnType => rfl
    | arguments => exact absurd same (by decide)
  | arguments =>
    cases second with
    | returnType => exact absurd same (by decide)
    | arguments => rfl

end SignaturePart

/-- What a node refers to and may lose. -/
inductive LostReference
  /-- The definition that it calls. -/
  | method
  /-- The component that it calls a method of. -/
  | component
deriving DecidableEq, Repr

namespace LostReference

/-- The warning that a reference is lost. -/
def warning : LostReference → PassWarning
  | .method => .methodMissing
  | .component => .componentMissing

/-- The wording of this warning. -/
def message (lost : LostReference) : String := lost.warning.message

/-- No lost reference is told in the words in which a part of a signature is announced. -/
theorem message_ne (lost : LostReference) (part : SignaturePart) :
    lost.message ≠ part.message := by
  cases lost <;> cases part <;> decide

end LostReference

namespace CallNode

/-- The parts of its signature in which a node differs from a definition, the return type first. -/
def differences (node : CallNode) (definition : Definition) : List SignaturePart :=
  (if node.returnType = definition.returnType then [] else [.returnType]) ++
    if node.arguments = definition.params then [] else [.arguments]

/-- The differences of a node from the one of the given definitions that it calls. -/
def differencesAmong (node : CallNode) (definitions : List Definition) : List SignaturePart :=
  if node.kind.callsDefinition then
    match node.definitionAmong definitions with
    | none => []
    | some definition => node.differences definition
  else []

/-- What a node has lost: the component that it calls is not attached, or the definition that it
calls is not among the given ones. -/
def lostAmong (node : CallNode) (live : List Component) (definitions : List Definition) :
    Option LostReference :=
  if node.kind = .componentMethod then
    match firstLive live node.selectedComponentId node.componentClass with
    | none => some .component
    | some _ => none
  else if node.kind.callsDefinition then
    match node.definitionAmong definitions with
    | none => some .method
    | some _ => none
  else none

variable {node : CallNode}

/-- A call of a component method calls no definition. -/
theorem callsDefinition_of_componentMethod (kind : node.kind = .componentMethod) :
    node.kind.callsDefinition = false := by
  rw [kind]
  rfl

/-- A node finds no definition if none of the given ones has the identifier that it holds. -/
theorem definitionAmong_eq_none_iff {definitions : List Definition} :
    node.definitionAmong definitions = none ↔
      ∀ definition ∈ definitions, some definition.id ≠ node.definitionId := by
  unfold definitionAmong
  cases node.definitionId with
  | none => simp
  | some id =>
    rw [Option.bind_some, Keyed.find?_eq_none_iff]
    simp

/-- A node has lost its method exactly when it calls a definition and none of the given ones is
it. -/
theorem lostAmong_eq_method_iff {live : List Component} {definitions : List Definition} :
    node.lostAmong live definitions = some .method ↔
      node.kind.callsDefinition = true ∧
        ∀ definition ∈ definitions, some definition.id ≠ node.definitionId := by
  rw [← definitionAmong_eq_none_iff]
  unfold lostAmong
  by_cases component : node.kind = .componentMethod
  · have other := callsDefinition_of_componentMethod component
    rw [if_pos component, other]
    cases firstLive live node.selectedComponentId node.componentClass with
    | none => simp
    | some found => simp
  · rw [if_neg component]
    cases node.definitionAmong definitions with
    | none => simp
    | some definition => simp

/-- A node has lost its component exactly when it calls one and no live component has both the
identifier that is selected and the class that it needs. -/
theorem lostAmong_eq_component_iff {live : List Component} {definitions : List Definition} :
    node.lostAmong live definitions = some .component ↔
      node.kind = .componentMethod ∧
        ∀ component ∈ live, ¬(some component.id = node.selectedComponentId ∧
          component.className = node.componentClass) := by
  rw [← firstLive_eq_none_iff]
  unfold lostAmong
  by_cases component : node.kind = .componentMethod
  · rw [if_pos component]
    cases firstLive live node.selectedComponentId node.componentClass with
    | none => simp [component]
    | some found => simp
  · rw [if_neg component]
    split
    · cases node.definitionAmong definitions with
      | none => simp [component]
      | some definition => simp [component]
    · simp [component]

/-! ## What a full repair finds -/

/-- The latched warnings after differences were latched one by one. -/
def latchedWithAll (latched : List String) (found : List SignaturePart) : List String :=
  found.foldl (fun kept part => latchedWith kept part.message) latched

/-- Following a definition latches the differences from it, one by one. -/
theorem latchedFor_eq (definition : Definition) :
    node.latchedFor definition = latchedWithAll node.latched (node.differences definition) := by
  have returnType : SignaturePart.returnType.message = PassWarning.returnTypeChanged.message := rfl
  have arguments : SignaturePart.arguments.message = PassWarning.argumentsChanged.message := rfl
  unfold latchedFor latchedForReturn differences
  by_cases sameReturn : node.returnType = definition.returnType
  · by_cases sameArguments : node.arguments = definition.params
    · simp [sameReturn, sameArguments, latchedWithAll]
    · simp [sameReturn, sameArguments, latchedWithAll, arguments]
  · by_cases sameArguments : node.arguments = definition.params
    · simp [sameReturn, sameArguments, latchedWithAll, returnType]
    · simp [sameReturn, sameArguments, latchedWithAll, returnType, arguments]

end CallNode

namespace Trigger

variable (live : List Component) (definitions : List Definition) (node : CallNode)

/-- A full repair latches the differences that it finds, and nothing else. -/
theorem latched_fullRepair :
    (fullRepair live definitions node).1.latched =
      CallNode.latchedWithAll node.latched (node.differencesAmong definitions) := by
  unfold fullRepair CallNode.differencesAmong
  by_cases component : node.kind = .componentMethod
  · have other := CallNode.callsDefinition_of_componentMethod component
    rw [if_pos component, other]
    exact node.latched_followComponents live
  · rw [if_neg component]
    split
    · cases node.definitionAmong definitions with
      | none => rfl
      | some definition =>
        rw [CallNode.followDefinition_some]
        exact CallNode.latchedFor_eq definition
    · rfl

/-- A full repair tells the reference that it finds lost, and nothing else. -/
theorem passing_fullRepair :
    (fullRepair live definitions node).2 =
      (node.lostAmong live definitions).toList.map LostReference.warning := by
  unfold fullRepair CallNode.lostAmong
  by_cases component : node.kind = .componentMethod
  · rw [if_pos component, if_pos component, CallNode.followComponents_eq, CallNode.lossOf,
      CallNode.boundComponent_rebind]
    cases firstLive live node.selectedComponentId node.componentClass with
    | none => rfl
    | some found => rfl
  · rw [if_neg component, if_neg component]
    split
    · cases node.definitionAmong definitions with
      | none => rfl
      | some definition =>
        rw [CallNode.followDefinition_some]
        rfl
    · rfl

/-- A full repair tells the lost reference of a node, if there is one, and nothing else. -/
theorem messages_fullRepair :
    (fullRepair live definitions node).2.map PassWarning.message =
      (node.lostAmong live definitions).toList.map LostReference.message := by
  rw [passing_fullRepair, List.map_map]
  rfl

end Trigger

end RobotBlocks
