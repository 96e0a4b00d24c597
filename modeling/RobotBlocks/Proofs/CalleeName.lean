import RobotBlocks.Proofs.FreshCaller

/-!
# The name under which a definition is called

A definition has two names: the label that its callers show, and its name in generated code. After
the definition was edited each caller carries both, and what is written depends on the kind of the
call. A call through the robot is written with the name in generated code
(`Code.calleePath_robotMethod`), a call on `self` with the identifier that is made of the label
(`Code.calleePath_ownMethod`).

The two name the same method exactly when the identifier made of the label is the name in
generated code (`callers_reach_emittedName_iff`). Nothing keeps an editor from giving a definition
two names that do not agree in this way: see `ownMethod_misses_emittedName`.
-/

set_option autoImplicit false

namespace RobotBlocks

namespace Code

variable {node : CallNode}

/-- A call on `self` is written with the identifier made of the label. -/
theorem calleePath_ownMethod {label : String} (kind : node.kind = .ownMethod)
    (shown : node.fields.function = some label) (labelled : label ≠ "") (context : Context) :
    calleePath node context = .ok ⟨"self." ++ identifier label, 0⟩ := by
  have required : requiredField node .function = .ok label := requiredField_eq_ok shown labelled
  have code : calleeCode node context = .ok ("self." ++ identifier label) := by
    unfold calleeCode
    rw [kind]
    simp only [required]
    rfl
  rw [calleePath_eq_ok code, kind]
  rfl

/-- A call through the robot is written with the name to call. -/
theorem calleePath_robotMethod {name : String} (kind : node.kind = .robotMethod)
    (called : node.calleeName = name) (named : name ≠ "") (context : Context) :
    calleePath node context = .ok ⟨"self.robot." ++ name, 0⟩ := by
  have given : node.calledName = name := by
    rw [CallNode.calledName, called, if_neg named]
  have required : calledName node = .ok name := by
    rw [← given] at named ⊢
    exact calledName_eq_ok named
  have code : calleeCode node context = .ok ("self.robot." ++ name) := by
    unfold calleeCode
    rw [kind]
    simp only [required]
    rfl
  rw [calleePath_eq_ok code, kind]
  rfl

end Code

/-- How generated code reaches a definition under the name that the definition has there, for a
call on `self` and for a call through the robot. -/
def Definition.emittedPath (definition : Definition) : CallKind → String
  | .robotMethod => "self.robot." ++ definition.emittedName
  | _ => "self." ++ definition.emittedName

/-- After a definition was edited, a caller of it shows its label, and a call through the robot
carries its name in generated code. -/
theorem Workspace.caller_after_edit (workspace : Workspace) (definition : Definition) {id : NodeId}
    {node : CallNode} (found : workspace.node? id = some node)
    (kind : node.kind = .ownMethod ∨ node.kind = .robotMethod)
    (calls : node.definitionId = some definition.id) :
    ∃ repaired,
      (workspace.runPass (.definitionEdited definition)).1.node? id = some repaired ∧
      repaired.kind = node.kind ∧
      repaired.fields.function = some definition.displayName ∧
      (node.kind = .robotMethod → repaired.calleeName = definition.emittedName) := by
  have callsIt : node.calls definition.id = true := by
    rcases kind with own | robot
    · simp [CallNode.calls, own, CallKind.callsDefinition, calls]
    · simp [CallNode.calls, robot, CallKind.callsDefinition, calls]
  have edited := workspace.afterPass_definitionEdited callsIt
  rw [CallNode.followDefinition_some] at edited
  refine ⟨workspace.afterPass (.definitionEdited definition) node, ?_, ?_, ?_, ?_⟩
  · rw [workspace.node?_runPass, found, Option.map_some]
  · rw [edited]
    rfl
  · rw [edited]
    rfl
  · intro robot
    rw [edited]
    exact if_pos (Or.inl robot)

/-- After a definition was edited, a call through the robot is written with its name in generated
code and a call on `self` with the identifier made of its label, whatever the caller carried
before. The call on `self` therefore reaches the definition under its name in generated code exactly
when the two names agree. -/
theorem callers_reach_emittedName_iff (workspace : Workspace) (definition : Definition)
    (labelled : definition.displayName ≠ "") (named : definition.emittedName ≠ "") {id : NodeId}
    {node : CallNode} (found : workspace.node? id = some node)
    (kind : node.kind = .ownMethod ∨ node.kind = .robotMethod)
    (calls : node.definitionId = some definition.id) :
    ∃ repaired,
      (workspace.runPass (.definitionEdited definition)).1.node? id = some repaired ∧
      ∀ context : Code.Context,
        (node.kind = .ownMethod → Code.calleePath repaired context =
          .ok ⟨"self." ++ Code.identifier definition.displayName, 0⟩) ∧
        (node.kind = .robotMethod → Code.calleePath repaired context =
          .ok ⟨"self.robot." ++ definition.emittedName, 0⟩) ∧
        (Code.calleePath repaired context = .ok ⟨definition.emittedPath node.kind, 0⟩ ↔
          node.kind = .robotMethod ∨
            Code.identifier definition.displayName = definition.emittedName) := by
  obtain ⟨repaired, foundAfter, sameKind, label, calleeName⟩ :=
    workspace.caller_after_edit definition found kind calls
  refine ⟨repaired, foundAfter, fun context => ?_⟩
  rcases kind with own | robot
  · have path := Code.calleePath_ownMethod (sameKind.trans own) label labelled context
    refine ⟨fun _ => path, fun robot => absurd (own.symm.trans robot) (by decide), ?_⟩
    rw [path, own]
    simp [Definition.emittedPath]
  · have path := Code.calleePath_robotMethod (sameKind.trans robot) (calleeName robot) named context
    refine ⟨fun own => absurd (robot.symm.trans own) (by decide), fun _ => path, ?_⟩
    rw [path, robot]
    simp [Definition.emittedPath]

/-- A call on `self` that still shows another method reaches a method whose names agree. -/
theorem stale_ownMethod_reaches_emittedName :
    let definition : Definition :=
      ⟨⟨"def"⟩, "Drive Fast", "drive_fast", .nothing, some Definition.selfArgument, []⟩
    let caller : CallNode :=
      { id := ⟨"own"⟩, kind := .ownMethod, definitionId := some definition.id
        fields := { function := some "Stop" } }
    let workspace : Workspace := { nodes := [caller], definitions := [definition] }
    definition.displayName ≠ "" ∧ definition.emittedName ≠ "" ∧
      workspace.node? ⟨"own"⟩ = some caller ∧
      (caller.kind = .ownMethod ∨ caller.kind = .robotMethod) ∧
      caller.definitionId = some definition.id ∧
      ∃ repaired,
        (workspace.runPass (.definitionEdited definition)).1.node? ⟨"own"⟩ = some repaired ∧
        ∀ context : Code.Context,
          Code.calleePath repaired context = .ok ⟨"self.drive_fast", 0⟩ := by
  intro definition caller workspace
  have labelled : definition.displayName ≠ "" := by decide
  have named : definition.emittedName ≠ "" := by decide
  have found : workspace.node? ⟨"own"⟩ = some caller := by decide
  have kind : caller.kind = .ownMethod ∨ caller.kind = .robotMethod := Or.inl rfl
  have agree : Code.identifier definition.displayName = definition.emittedName := by decide
  obtain ⟨repaired, foundAfter, paths⟩ :=
    callers_reach_emittedName_iff workspace definition labelled named found kind rfl
  refine ⟨labelled, named, found, kind, rfl, repaired, foundAfter, fun context => ?_⟩
  exact (paths context).2.2.mpr (Or.inr agree)

/-- A method whose label is not its name in generated code is called under two names. The call
through the robot reaches it; the call on `self` is written with the identifier made of the label,
which no method has. -/
theorem ownMethod_misses_emittedName :
    let definition : Definition :=
      ⟨⟨"def"⟩, "Score Piece", "do_score", .nothing, some Definition.selfArgument, []⟩
    let workspace : Workspace :=
      { nodes := [Palette.ownMethod ⟨"own"⟩ definition, Palette.robotMethod ⟨"robot"⟩ definition]
        definitions := [definition] }
    let edited := (workspace.runPass (.definitionEdited definition)).1
    definition.displayName ≠ "" ∧ definition.emittedName ≠ "" ∧
      ∃ own robot, edited.node? ⟨"own"⟩ = some own ∧ edited.node? ⟨"robot"⟩ = some robot ∧
        ∀ context : Code.Context,
          Code.calleePath robot context = .ok ⟨"self.robot.do_score", 0⟩ ∧
            Code.calleePath own context = .ok ⟨"self.score_piece", 0⟩ ∧
            Code.calleePath own context ≠ .ok ⟨"self.do_score", 0⟩ := by
  intro definition workspace edited
  have ownThere : workspace.node? ⟨"own"⟩ = some (Palette.ownMethod ⟨"own"⟩ definition) := rfl
  have robotThere : workspace.node? ⟨"robot"⟩ = some (Palette.robotMethod ⟨"robot"⟩ definition) :=
    rfl
  obtain ⟨own, foundOwn, ownKind, ownLabel, -⟩ :=
    workspace.caller_after_edit definition ownThere (Or.inl rfl) rfl
  obtain ⟨robot, foundRobot, robotKind, -, robotName⟩ :=
    workspace.caller_after_edit definition robotThere (Or.inr rfl) rfl
  have identifier : Code.identifier "Score Piece" = "score_piece" := by decide
  refine ⟨by decide, by decide, own, robot, foundOwn, foundRobot, fun context => ?_⟩
  have path := Code.calleePath_ownMethod ownKind ownLabel (by decide) context
  rw [identifier] at path
  refine ⟨Code.calleePath_robotMethod robotKind (robotName rfl) (by decide) context, path, ?_⟩
  rw [path]
  simp

end RobotBlocks
