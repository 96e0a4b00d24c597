import RobotBlocks.Palette
import RobotBlocks.Proofs.ComponentAgreement
import RobotBlocks.Proofs.SocketReading

/-!
# A component as the receiver of a method

A method of a component can be called by two kinds of node. One kind has the component as a part of
itself and a socket for each argument that callers supply. The other kind calls a method of any
value, which it takes from its first socket, and finds the arguments one socket further on. If that
first socket holds the expression by which code reaches the component, both are written as the same
code, whatever the number of arguments (`component_call_is_method_of_its_value`).

Each half of the code is compared on its own. The callee paths are `calleePath_instanceMethod` and
`calleePath_componentMethod`; the texts between the parentheses agree since the values do, one by
one (`argumentValues_of_receives`).
-/

set_option autoImplicit false

namespace RobotBlocks.Code

/-- The code in a socket and how tightly it binds. -/
def Context.content? (context : Context) (id : NodeId) (input : String) :
    Option (String × Precedence) :=
  (context.plug? id input).map fun plug => (plug.code, plug.precedence)

/-- How the code of a kind of module reaches a component of the given name. -/
def componentExpression (kind : ModuleKind) (name : String) : String :=
  (if kind = .opMode then "self.robot." else "self.") ++ name

/-- The first context holds a receiver for a node in the first socket, bound no looser than the
access to a member, and in each socket after it what the second context holds one socket before. -/
structure Context.Receives (context other : Context) (id : NodeId) (receiver : String) : Prop where
  moduleKind : context.moduleKind = other.moduleKind
  indent : context.indent = other.indent
  receiver : ∃ plug, context.plug? id (socketName 0) = some plug ∧ plug.code = receiver ∧
    plug.precedence ∈ [.atomic, .collection, .member]
  arguments : ∀ position,
    context.content? id (socketName (position + 1)) = other.content? id (socketName position)

section Received

variable {context other : Context} {id : NodeId}

/-- What a socket gives as an argument depends on its content only. -/
theorem bareValue_of_content? {input otherInput : String}
    (same : context.content? id input = other.content? id otherInput) :
    context.bareValue id input = other.bareValue id otherInput := by
  have read (reader : Context) (name : String) : reader.bareValue id name =
      match reader.content? id name with
      | none => "None"
      | some (code, _) => if code = "" then "None" else code := by
    unfold Context.bareValue Context.content?
    cases reader.plug? id name with
    | none => rfl
    | some plug => rfl
  rw [read, read, same]

/-- A receiver that is not empty is read as it stands. -/
theorem Context.Receives.argument {receiver : String}
    (received : context.Receives other id receiver) (filled : receiver ≠ "") :
    context.argument id 0 .member = receiver := by
  obtain ⟨plug, plugged, rfl, tight⟩ := received.receiver
  have notLooser : ¬Precedence.member.rank < plug.precedence.rank := by
    simp only [List.mem_cons, List.not_mem_nil, or_false] at tight
    rcases tight with binds | binds | binds
    all_goals
      rw [binds]
      decide
  rw [argument_member, Context.receiver, plugged]
  dsimp only
  rw [if_neg filled, if_neg notLooser]

/-- The values of the arguments behind a receiver are those that the other context holds from the
first socket on, for any two nodes of which one has the receiver as an additional argument. -/
theorem argumentValues_of_receives {receiver : String} {node call : CallNode}
    (received : context.Receives other id receiver) (nodeId : node.id = id) (callId : call.id = id)
    (count : node.arguments.length - 1 = call.arguments.length) :
    argumentValues node context 1 = argumentValues call other 0 := by
  have positions : List.range' 1 call.arguments.length =
      (List.range' 0 call.arguments.length).map (1 + ·) := by
    rw [List.map_add_range']
  unfold argumentValues
  rw [count, positions, List.map_map, Nat.sub_zero, nodeId, callId]
  refine List.map_congr_left fun position _ => ?_
  show context.argument id (1 + position) .loosest = other.argument id position .loosest
  rw [argument_loosest, argument_loosest, Nat.add_comm 1 position]
  exact bareValue_of_content? (received.arguments position)

end Received

/-- Labelling the receiver keeps the number of arguments. -/
theorem length_labelReceiver (className : String) (arguments : List Argument) :
    (Palette.labelReceiver className arguments).length = arguments.length := by
  cases arguments with
  | nil => rfl
  | cons first rest =>
    rw [Palette.labelReceiver]
    split
    · rfl
    · rfl

/-- A call of a method of a value is written with what the first socket gives and the name to
call. -/
theorem calleePath_instanceMethod {node : CallNode} (kind : node.kind = .instanceMethod)
    (called : node.calledName ≠ "") (context : Context) :
    calleePath node context =
      .ok ⟨context.argument node.id 0 .member ++ "." ++ node.calledName, 1⟩ := by
  have code : calleeCode node context =
      .ok (context.argument node.id 0 .member ++ "." ++ node.calledName) := by
    unfold calleeCode
    rw [kind]
    simp only [calledName_eq_ok called]
    rfl
  rw [calleePath_eq_ok code, kind]
  rfl

/-- A node without an import leaves the context as it is. -/
theorem contextAfter_of_noImport {node : CallNode} (noImport : node.importModule = "")
    (context : Context) : contextAfter node context = context :=
  if_pos noImport

/-- A method of a component is written as the same code in two ways. Let a node that calls it as the
method of a value find in its first socket the expression by which code reaches the component, at an
order no looser than the access to a member, and in every further socket what a node that calls it
on the component finds one socket before. Then both have code, it is the same, and neither asks for
an import. This holds for every function with a name, whatever its arguments, and in every kind of
module. -/
theorem component_call_is_method_of_its_value (id : NodeId) (component : Component)
    (function : LibraryFunction) (named : function.name ≠ "") (reachable : component.name ≠ "")
    {context other : Context}
    (received : context.Receives other id (componentExpression other.moduleKind component.name)) :
    ∃ written,
      emit (Palette.instanceMethod id function) context = (.ok written, context) ∧
      emit (Palette.componentMethod id component function) other = (.ok written, other) := by
  let node := Palette.instanceMethod id function
  let call := Palette.componentMethod id component function
  have filled : componentExpression other.moduleKind component.name ≠ "" := by
    unfold componentExpression
    intro empty
    exact reachable (String.append_eq_empty_iff.mp empty).2
  have nodeNamed : node.calledName ≠ "" := named
  have callNamed : call.calledName ≠ "" := named
  have nodePath := calleePath_instanceMethod rfl nodeNamed context
  have callPath := calleePath_componentMethod rfl rfl reachable callNamed other
  have sameCode : context.argument node.id 0 .member ++ "." ++ node.calledName =
      componentReceiver other.moduleKind ++ component.name ++ "." ++ call.calledName := by
    show context.argument id 0 .member ++ "." ++ function.name = _
    rw [received.argument filled, componentReceiver_eq]
    rfl
  have count : node.arguments.length - 1 = call.arguments.length := by
    show (Palette.labelReceiver function.declaringClass function.arguments).length - 1 =
      (function.arguments.drop 1).length
    rw [length_labelReceiver, List.length_drop]
  have sameArguments : argumentCode node context 1 = argumentCode call other 0 := by
    unfold argumentCode
    rw [argumentValues_of_receives received rfl rfl count, received.indent]
  -- The same path with the same arguments, so that both fragments are this one.
  let written := fragmentOf call
    (componentReceiver other.moduleKind ++ component.name ++ "." ++ call.calledName ++ "(" ++
      argumentCode call other 0 ++ ")")
  have nodeWritten : fragment node context = .ok written := by
    unfold fragment
    rw [nodePath, sameCode]
    show Except.ok (fragmentOf node _) = .ok (fragmentOf call _)
    rw [sameArguments]
    rfl
  have callWritten : fragment call other = .ok written := by
    unfold fragment
    rw [callPath]
    rfl
  refine ⟨written, ?_, ?_⟩
  · rw [emit, contextAfter_of_noImport rfl, nodeWritten]
  · rw [emit, contextAfter_of_noImport rfl, callWritten]

/-- An op mode turns a motor by two arguments, of which one is missing. -/
theorem component_call_is_method_of_its_value_of_motor :
    let motor : Component := ⟨⟨"m1"⟩, "arm", "rev.Motor"⟩
    let turn : LibraryFunction :=
      { name := "turn", tooltip := "", returnText := "None", declaringClass := "rev.Motor"
        arguments := [⟨"self", "rev.Motor"⟩, ⟨"speed", "float"⟩, ⟨"angle", "float"⟩] }
    let context : Context :=
      { moduleKind := .opMode
        plugs := [⟨⟨"n"⟩, socketName 0, "self.robot.arm", .member⟩,
          ⟨⟨"n"⟩, socketName 2, "a + b", .additive⟩] }
    let other : Context :=
      { moduleKind := .opMode, plugs := [⟨⟨"n"⟩, socketName 1, "a + b", .additive⟩] }
    let written := Fragment.statement "self.robot.arm.turn(\n        None,\n        a + b)\n"
    turn.name ≠ "" ∧ motor.name ≠ "" ∧
      context.Receives other ⟨"n"⟩ (componentExpression other.moduleKind motor.name) ∧
      emit (Palette.instanceMethod ⟨"n"⟩ turn) context = (.ok written, context) ∧
      emit (Palette.componentMethod ⟨"n"⟩ motor turn) other = (.ok written, other) := by
  intro motor turn context other written
  have numbered (first second : Nat) : socketName first = socketName second ↔ first = second :=
    ⟨socketName_injective, congrArg socketName⟩
  have received :
      context.Receives other ⟨"n"⟩ (componentExpression other.moduleKind motor.name) := by
    refine ⟨rfl, rfl, ⟨_, rfl, rfl, by decide⟩, fun position => ?_⟩
    unfold Context.content? Context.plug?
    simp only [context, other, List.find?_cons, numbered]
    by_cases filled : position = 1
    · subst filled
      rfl
    · simp [filled, Ne.symm filled]
  obtain ⟨same, onValue, onComponent⟩ :=
    component_call_is_method_of_its_value ⟨"n"⟩ motor turn (by decide) (by decide) received
  have here : same = written := by
    have found : (emit (Palette.componentMethod ⟨"n"⟩ motor turn) other).1 = .ok written := by
      cbv
    rw [onComponent] at found
    exact Except.ok.inj found
  subst here
  exact ⟨by decide, by decide, received, onValue, onComponent⟩

end RobotBlocks.Code
