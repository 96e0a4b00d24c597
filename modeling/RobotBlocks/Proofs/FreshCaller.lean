import RobotBlocks.Code.Fragment
import RobotBlocks.Drawing
import RobotBlocks.Palette
import RobotBlocks.Proofs.PassEffect

/-!
# Repaired callers and new ones

A node that has followed a definition makes the same call as a node that is built from this
definition. The two are not equal: the remark, the import, the warnings and the fields that the
repair leaves alone may be stale. What counts is `SameCall`, the agreement in everything that the
code and the shape of a caller are read off: the code is the same by `SameCall.emit`, the shape by
`SameCall.shape`. The main statement is `repaired_caller_like_new`.
-/

set_option autoImplicit false

namespace RobotBlocks

/-! ## Nodes that make the same call -/

/-- Two nodes that agree in everything that the code and the shape of a caller are read off. The
name to call counts only where the code names it. -/
structure CallNode.SameCall (left right : CallNode) : Prop where
  id : left.id = right.id
  kind : left.kind = right.kind
  calls : right.kind.callsDefinition = true
  label : left.fields.function = right.fields.function
  called : right.kind = .robotMethod → left.calledName = right.calledName
  returnType : left.returnType = right.returnType
  arguments : left.arguments = right.arguments

namespace Code

variable {left right : CallNode}

/-- The callee of two nodes that make the same call is the same. -/
theorem calleeCode_congr (same : left.SameCall right) (context : Context) :
    calleeCode left context = calleeCode right context := by
  have label : requiredField left .function = requiredField right .function := by
    unfold requiredField CallNode.field BlockFields.get
    rw [same.label, same.id]
  have calls := same.calls
  unfold calleeCode
  rw [same.kind]
  cases kind : right.kind with
  | ownMethod => simp only [label]
  | event => simp only [label]
  | robotMethod =>
    have called : calledName left = calledName right := by
      unfold calledName
      rw [same.called kind, same.id]
    simp only [called]
  | _ => simp [kind, CallKind.callsDefinition] at calls

/-- Nodes that make the same call have the same code or the same fault. -/
theorem fragment_congr (same : left.SameCall right) (context : Context) :
    fragment left context = fragment right context := by
  have path : calleePath left context = calleePath right context := by
    rw [calleePath, calleeCode_congr same, same.kind, calleePath]
  have between (first : Nat) :
      argumentCode left context first = argumentCode right context first := by
    unfold argumentCode argumentValues
    rw [same.id, same.arguments]
  have whole (call : String) : fragmentOf left call = fragmentOf right call := by
    unfold fragmentOf CallNode.hasValue
    rw [same.returnType]
  unfold fragment
  rw [path]
  simp only [between, whole]

end Code

/-- Nodes that make the same call are written as the same code, or fail for the same reason. -/
theorem CallNode.SameCall.emit {left right : CallNode} (same : left.SameCall right)
    (context : Code.Context) : (Code.emit left context).1 = (Code.emit right context).1 := by
  rw [Code.emit_fst, Code.emit_fst, Code.fragment_congr same]

/-! ## The shape of a drawing -/

/-- What a drawing shows besides the tooltip and the warning: the connection, the title and the
sockets. -/
def Drawing.shape (drawing : Drawing) : Connection × List TitleElement × List Socket :=
  (drawing.connection, drawing.title, drawing.sockets)

/-- Layouts that show nothing of a node of a kind but the label of its function. -/
def Layouts.ShowLabelOnly (layouts : Layouts) (kind : CallKind) : Prop :=
  ∀ layout, layouts kind = some layout →
    ∀ item ∈ layout, item = .field .function ∨ ∃ text, item = .text text

/-- The layouts that the editor can know show nothing of a caller but the label. -/
theorem Layouts.showLabelOnly {layouts : Layouts}
    (known : layouts = .standard ∨ layouts = .empty) {kind : CallKind}
    (calls : kind.callsDefinition = true) : layouts.ShowLabelOnly kind := by
  intro layout has
  rcases known with rfl | rfl
  · obtain rfl : kind.titleLayout = layout := Option.some.inj has
    cases kind with
    | ownMethod => simp [CallKind.titleLayout]
    | event => simp [CallKind.titleLayout]
    | robotMethod => simp [CallKind.titleLayout]
    | _ => simp [CallKind.callsDefinition] at calls
  · exact absurd has (Option.some_ne_none layout).symm

/-- Nodes that make the same call are drawn in the same shape, or not at all for the same
reason. -/
theorem CallNode.SameCall.shape {left right : CallNode} (same : left.SameCall right)
    {layouts : Layouts} (labelOnly : layouts.ShowLabelOnly right.kind) :
    (left.draw layouts).map Drawing.shape = (right.draw layouts).map Drawing.shape := by
  unfold draw
  rw [same.kind]
  cases has : layouts right.kind with
  | none => rfl
  | some layout =>
    have connection : left.connection = right.connection := by
      unfold CallNode.connection hasValue
      rw [same.returnType]
    have title : layout.map left.titleElement = layout.map right.titleElement := by
      refine List.map_congr_left fun item member => ?_
      rcases labelOnly layout has item member with rfl | ⟨text, rfl⟩
      · exact congrArg (fun label => TitleElement.value .function (label.getD "")) same.label
      · rfl
    have sockets : left.sockets = right.sockets := by
      unfold CallNode.sockets
      rw [same.arguments]
    simp only [Except.map, Drawing.shape]
    rw [connection, title, sockets]

/-! ## Following a definition is as good as being built from it -/

/-- How a new caller of a definition is built, for the kinds that call one. -/
def CallKind.builder? : CallKind → Option (NodeId → Definition → CallNode)
  | .ownMethod => some Palette.ownMethod
  | .robotMethod => some Palette.robotMethod
  | .event => some Palette.event
  | _ => none

/-- A new caller carries what its definition declares. Only a call through the robot is bound to
carry the name to call as well. -/
theorem CallKind.built_eq {kind : CallKind} {build : NodeId → Definition → CallNode}
    (builds : kind.builder? = some build) (id : NodeId) (definition : Definition) :
    kind.callsDefinition = true ∧
      ∃ calleeName, (kind = .robotMethod → calleeName = definition.emittedName) ∧
        build id definition = { Palette.definitionCall id kind definition with calleeName } := by
  cases kind with
  | ownMethod =>
    obtain rfl := Option.some.inj builds
    exact ⟨rfl, definition.emittedName, fun _ => rfl, rfl⟩
  | robotMethod =>
    obtain rfl := Option.some.inj builds
    exact ⟨rfl, definition.emittedName, fun _ => rfl, rfl⟩
  | event =>
    obtain rfl := Option.some.inj builds
    exact ⟨rfl, "", nofun, rfl⟩
  | _ => exact absurd builds (Option.some_ne_none build).symm

namespace CallNode

/-- The warnings that a node shows are no part of its call. -/
theorem SameCall.setWarnings {left right : CallNode} (same : left.SameCall right)
    (passing : List String) : (left.setWarnings passing).SameCall right :=
  ⟨same.id, same.kind, same.calls, same.label, same.called, same.returnType, same.arguments⟩

/-- A node that has followed a definition makes the call of a new node. -/
theorem sameCall_followDefinition {node : CallNode} {build : NodeId → Definition → CallNode}
    (builds : node.kind.builder? = some build) (definition : Definition) :
    (node.followDefinition (some definition)).1.SameCall (build node.id definition) := by
  obtain ⟨calls, calleeName, robot, built⟩ := CallKind.built_eq builds node.id definition
  rw [followDefinition_some, built]
  refine ⟨rfl, rfl, calls, rfl, fun isRobot => ?_, rfl, rfl⟩
  have taken : node.calleeNameFor definition = definition.emittedName := if_pos (Or.inl isRobot)
  simp only [calledName, taken, robot isRobot]
  rfl

end CallNode

/-- After a definition was edited, each of its callers is written as the same code, in every
context, as a caller that is built from the definition under the same identifier, and is drawn
with the same connection, title and sockets. This holds however stale the label, the return type,
the arguments and the name to call were. Where the code of one is missing or the layout unknown,
the other fails for the same reason. -/
theorem repaired_caller_like_new (workspace : Workspace) (definition : Definition) {id : NodeId}
    {node : CallNode} (found : workspace.node? id = some node)
    {build : NodeId → Definition → CallNode} (builds : node.kind.builder? = some build)
    (calls : node.definitionId = some definition.id) :
    ∃ repaired,
      (workspace.runPass (.definitionEdited definition)).1.node? id = some repaired ∧
      (∀ context : Code.Context,
        (Code.emit repaired context).1 = (Code.emit (build id definition) context).1) ∧
      ∀ layouts : Layouts, layouts = .standard ∨ layouts = .empty →
        (repaired.draw layouts).map Drawing.shape =
          ((build id definition).draw layouts).map Drawing.shape := by
  obtain rfl : node.id = id := Workspace.id_of_node? found
  obtain ⟨callsOne, -⟩ := CallKind.built_eq builds node.id definition
  have concerned : (Trigger.definitionEdited definition).concerns node = true := by
    simp [Trigger.concerns, CallNode.calls, callsOne, calls]
  have same : ((workspace.repairFor (.definitionEdited definition)).run node).SameCall
      (build node.id definition) :=
    (CallNode.sameCall_followDefinition builds definition).setWarnings _
  refine ⟨_, ?_, same.emit, fun layouts known => ?_⟩
  · rw [Workspace.node?_runPass, found, Option.map_some,
      Workspace.afterPass_of_concerned concerned]
  · exact same.shape (Layouts.showLabelOnly known same.calls)

/-- A call through the robot with a stale label, a stale return type, stale arguments and the old
name to call is written like a new one after the pass. -/
theorem repaired_stale_caller_like_new :
    let definition : Definition :=
      ⟨⟨"def"⟩, "fire", "fire_now", .typed "int", none, [⟨"speed", "float"⟩]⟩
    let stale : CallNode :=
      { id := ⟨"n1"⟩, kind := .robotMethod, calleeName := "shoot", definitionId := some ⟨"def"⟩,
        fields := { function := some "shoot" }, arguments := [⟨"power", ""⟩, ⟨"angle", ""⟩] }
    let workspace : Workspace := { nodes := [stale] }
    workspace.node? ⟨"n1"⟩ = some stale ∧ stale.kind.builder? = some Palette.robotMethod ∧
      stale.definitionId = some definition.id ∧
      ∃ repaired,
        (workspace.runPass (.definitionEdited definition)).1.node? ⟨"n1"⟩ = some repaired ∧
        ∀ context : Code.Context, (Code.emit repaired context).1 =
          (Code.emit (Palette.robotMethod ⟨"n1"⟩ definition) context).1 := by
  intro definition stale workspace
  have found : workspace.node? ⟨"n1"⟩ = some stale := by decide
  have builds : stale.kind.builder? = some Palette.robotMethod := rfl
  obtain ⟨repaired, foundAfter, code, -⟩ :=
    repaired_caller_like_new workspace definition found builds rfl
  exact ⟨found, builds, rfl, repaired, foundAfter, code⟩

end RobotBlocks
