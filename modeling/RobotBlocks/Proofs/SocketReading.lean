import RobotBlocks.Drawing
import RobotBlocks.Proofs.CodeLayout

/-!
# The sockets that code reads

The editor draws one socket for each argument, and the code of a call is written from what is
plugged into them. Both number the arguments on their own. They agree: the values between the
parentheses are those of the drawn sockets, in their order, from the first that is no receiver on
(`argumentValues_eq_map_sockets`). So two contexts in which the drawn sockets hold the same give the
same code, whatever is plugged in elsewhere (`fragment_of_agreesOn`).

A method of a value reads its receiver from the first socket. Where a node has no arguments this
socket is not drawn, and the main statement `drawn_sockets_are_read` leaves such nodes out.
-/

set_option autoImplicit false

namespace RobotBlocks.Code

/-- The code in a socket as it stands, and `None` if there is none. -/
def Context.bareValue (context : Context) (id : NodeId) (input : String) : String :=
  match context.plug? id input with
  | none => "None"
  | some plug => if plug.code = "" then "None" else plug.code

/-- The code in a socket as what a method is called on: it stands between parentheses if it binds
looser than the access to a member. -/
def Context.receiver (context : Context) (id : NodeId) (input : String) : String :=
  match context.plug? id input with
  | none => "None"
  | some plug =>
    if plug.code = "" then "None"
    else if Precedence.member.rank < plug.precedence.rank then "(" ++ plug.code ++ ")"
    else plug.code

/-- Two contexts agree on the kind of module, the indentation and what some sockets of a node
hold. -/
structure Context.AgreesOn (left right : Context) (id : NodeId) (sockets : List Socket) :
    Prop where
  moduleKind : left.moduleKind = right.moduleKind
  indent : left.indent = right.indent
  plugs : ∀ socket ∈ sockets, left.plug? id socket.input = right.plug? id socket.input

/-- The text between the parentheses of a call with the given values. -/
structure ArgumentText (indent : String) (values : List String) (text : String) : Prop where
  none : values = [] → text = ""
  one : ∀ value, values = [value] → text = value
  several : 2 ≤ values.length →
    text = "\n" ++ ",\n".intercalate (values.map fun value => indent ++ indent ++ value)

/-- The code of a call for a block that connects to its neighbours in the given way. -/
def fragmentFor : Connection → String → Fragment
  | .output _, call => .expression call .functionCall
  | .statement, call => .statement (call ++ "\n")

/-! ## Values -/

section Values

variable {context other : Context} {id : NodeId}

/-- An argument that stands on its own gets no parentheses. -/
theorem argument_loosest (position : Nat) :
    context.argument id position .loosest = context.bareValue id (socketName position) := by
  unfold Context.argument Context.value? Context.bareValue
  cases context.plug? id (socketName position) with
  | none => rfl
  | some plug =>
    dsimp only
    rw [Precedence.looserThan_loosest]
    split
    · rfl
    · rfl

/-- An argument of which a member is called is written as a receiver. -/
theorem argument_member (position : Nat) :
    context.argument id position .member = context.receiver id (socketName position) := by
  unfold Context.argument Context.value? Context.receiver Precedence.looserThan
  cases context.plug? id (socketName position) with
  | none => rfl
  | some plug =>
    simp only [decide_eq_true_eq]
    split
    · rfl
    · split
      · rfl
      · rfl

/-- What is laid out is the text between the parentheses of a call. -/
theorem argumentText_layOut (indent : String) (values : List String) :
    ArgumentText indent values (layOut indent values) where
  none := by
    rintro rfl
    rfl
  one := by
    rintro value rfl
    rfl
  several := by
    intro more
    match values, more with
    | first :: second :: rest, _ => rfl

/-- The form of the code follows the connection of the node. -/
theorem fragmentOf_eq (node : CallNode) (call : String) :
    fragmentOf node call = fragmentFor node.connection call := by
  unfold fragmentOf CallNode.connection
  split
  · rfl
  · rfl

end Values

/-! ## Sockets -/

/-- Sockets of different positions have different names. -/
theorem socketName_injective {first second : Nat} (same : socketName first = socketName second) :
    first = second := by
  have digits : toString first = toString second := (String.append_right_inj _).mp same
  exact Nat.repr_injective digits

/-- The sockets of a node are named by the positions of its arguments. -/
theorem inputs_sockets (node : CallNode) :
    node.sockets.map Socket.input = (List.range' 0 node.arguments.length).map socketName := by
  rw [← List.zipIdx_map_snd, List.map_map]
  unfold CallNode.sockets
  rw [List.map_map]
  rfl

/-- No two sockets of a node have the same name. -/
theorem nodup_inputs_sockets (node : CallNode) : (node.sockets.map Socket.input).Nodup := by
  rw [inputs_sockets]
  apply List.Nodup.map
  · intro first second same
    exact socketName_injective same
  · exact List.nodup_range' 1

/-- The arguments of a call are the values of its sockets from the first argument on. -/
theorem argumentValues_eq_map_sockets (node : CallNode) (context : Context) (first : Nat) :
    argumentValues node context first =
      (node.sockets.drop first).map fun socket => context.bareValue node.id socket.input := by
  have inputs := congrArg (List.drop first) (inputs_sockets node)
  rw [← List.map_drop, ← List.map_drop, List.drop_range'] at inputs
  calc argumentValues node context first
      = (List.range' first (node.arguments.length - first)).map fun position =>
          context.bareValue node.id (socketName position) := by
        unfold argumentValues
        simp only [argument_loosest]
    _ = ((node.sockets.drop first).map Socket.input).map (context.bareValue node.id) := by
        rw [inputs, List.map_map]
        simp only [Nat.mul_one, Nat.zero_add, Function.comp_def]
    _ = (node.sockets.drop first).map fun socket => context.bareValue node.id socket.input := by
        rw [List.map_map]
        rfl

/-- A node is drawn with its sockets and its connection. -/
theorem sockets_of_draw {layouts : Layouts} {node : CallNode} {drawing : Drawing}
    (drawn : node.draw layouts = .ok drawing) :
    drawing.sockets = node.sockets ∧ drawing.connection = node.connection := by
  unfold CallNode.draw at drawn
  split at drawn
  · cases drawn
  · rw [← Except.ok.inj drawn]
    exact ⟨rfl, rfl⟩

/-! ## Agreeing contexts -/

section Agreement

variable {node : CallNode} {context other : Context}

/-- Contexts that agree on a socket have the same value for it. -/
theorem Context.AgreesOn.bareValue {id : NodeId} {sockets : List Socket}
    (agree : other.AgreesOn context id sockets) {socket : Socket} (member : socket ∈ sockets) :
    other.bareValue id socket.input = context.bareValue id socket.input := by
  unfold Context.bareValue
  rw [agree.plugs socket member]

/-- Contexts that agree on a socket have the same receiver for it. -/
theorem Context.AgreesOn.receiver {id : NodeId} {sockets : List Socket}
    (agree : other.AgreesOn context id sockets) {socket : Socket} (member : socket ∈ sockets) :
    other.receiver id socket.input = context.receiver id socket.input := by
  unfold Context.receiver
  rw [agree.plugs socket member]

/-- A node with arguments has a first socket. -/
theorem exists_receiver_socket (some : node.arguments ≠ []) :
    ∃ receiver others, node.sockets = receiver :: others ∧ receiver.input = socketName 0 := by
  obtain ⟨argument, rest, arguments⟩ := List.exists_cons_of_ne_nil some
  refine ⟨CallNode.socketOf argument 0, (rest.zipIdx 1).map fun entry =>
    CallNode.socketOf entry.1 entry.2, ?_, rfl⟩
  unfold CallNode.sockets
  rw [arguments]
  rfl

/-- Contexts that agree on the sockets of a node give it the same callee path. -/
theorem calleeCode_of_agreesOn (agree : other.AgreesOn context node.id node.sockets)
    (received : node.kind = .instanceMethod → node.arguments ≠ []) :
    calleeCode node other = calleeCode node context := by
  unfold calleeCode
  rw [agree.moduleKind, agree.indent]
  cases kind : node.kind with
  | instanceMethod =>
    obtain ⟨receiver, others, sockets, input⟩ := exists_receiver_socket (received kind)
    have drawn : receiver ∈ node.sockets := by
      rw [sockets]
      exact List.mem_cons_self
    rw [argument_member, argument_member, ← input, agree.receiver drawn]
  | _ => rfl

/-- Contexts that agree on the sockets of a node give it the same code. -/
theorem fragment_of_agreesOn (agree : other.AgreesOn context node.id node.sockets)
    (received : node.kind = .instanceMethod → node.arguments ≠ []) :
    fragment node other = fragment node context := by
  have arguments (first : Nat) :
      argumentCode node other first = argumentCode node context first := by
    unfold argumentCode
    rw [argumentValues_eq_map_sockets, argumentValues_eq_map_sockets, agree.indent]
    congr 1
    apply List.map_congr_left
    intro socket member
    exact agree.bareValue (List.mem_of_mem_drop member)
  unfold fragment calleePath
  rw [calleeCode_of_agreesOn agree received]
  simp only [arguments]

end Agreement

/-- The code of a method of a value begins with its receiver. -/
theorem calleeCode_instanceMethod {node : CallNode} {context : Context} {code : String}
    (kind : node.kind = .instanceMethod) (written : calleeCode node context = .ok code) :
    code = context.receiver node.id (socketName 0) ++ "." ++ node.calledName := by
  unfold calleeCode at written
  rw [kind] at written
  obtain ⟨name, given, written⟩ := bind_eq_ok written
  rw [← Except.ok.inj written, eq_of_calledName given, argument_member]

/-- Code is written from the drawn sockets and from no others. If a node is drawn and written, and
it is no method of a value without arguments, then it is written the same in every context that
agrees on the kind of module, the indentation and the drawn sockets. The code is the callee path,
and the text of the arguments between parentheses. The arguments are what the drawn sockets hold,
each of them once and in order, from the first socket on, or from the second for a method of a
value. For such a method the first socket holds the receiver, with which the callee path begins. -/
theorem drawn_sockets_are_read {layouts : Layouts} {node : CallNode} {drawing : Drawing}
    {context : Context} {written : Fragment} (drawn : node.draw layouts = .ok drawing)
    (done : (emit node context).1 = .ok written)
    (received : node.kind = .instanceMethod → node.arguments ≠ []) :
    (∀ other : Context, other.AgreesOn context node.id drawing.sockets →
        (emit node other).1 = .ok written) ∧
      (drawing.sockets.map Socket.input).Nodup ∧
      ∃ path text,
        calleePath node context = .ok path ∧
        written = fragmentFor drawing.connection (path.code ++ "(" ++ text ++ ")") ∧
        ArgumentText context.indent ((drawing.sockets.drop path.firstArgument).map fun socket =>
          context.bareValue node.id socket.input) text ∧
        (node.kind ≠ .instanceMethod → path.firstArgument = 0) ∧
        (node.kind = .instanceMethod → path.firstArgument = 1 ∧
          ∃ receiver others, drawing.sockets = receiver :: others ∧
            path.code = context.receiver node.id receiver.input ++ "." ++ node.calledName) := by
  obtain ⟨sockets, connection⟩ := sockets_of_draw drawn
  rw [emit_fst] at done
  rw [sockets, connection]
  refine ⟨?_, nodup_inputs_sockets node, ?_⟩
  · intro other agree
    rw [emit_fst, fragment_of_agreesOn agree received, done]
  · obtain ⟨code, found, same⟩ := fragment_eq_ok done
    refine ⟨⟨code, node.kind.receiverSockets⟩, argumentCode node context node.kind.receiverSockets,
      calleePath_eq_ok found, ?_, ?_, ?_, ?_⟩
    · rw [same, fragmentOf_eq, String.append_assoc, String.append_assoc, String.append_assoc]
    · rw [← argumentValues_eq_map_sockets]
      exact argumentText_layOut _ _
    · intro other
      cases kind : node.kind with
      | instanceMethod => exact absurd kind other
      | _ => rfl
    · intro kind
      obtain ⟨receiver, others, shown, input⟩ := exists_receiver_socket (received kind)
      refine ⟨by rw [kind]; rfl, receiver, others, shown, ?_⟩
      rw [input]
      exact calleeCode_instanceMethod kind found

/-- A method with two arguments of which one is missing, and a context that holds more: code in a
socket that the method had once, code for another node, and an import. -/
theorem drawn_sockets_are_read_of_method :
    let turn : CallNode :=
      { id := ⟨"turn"⟩, kind := .instanceMethod
        arguments := [⟨"self", "Motor"⟩, ⟨"speed", "float"⟩, ⟨"angle", "float"⟩]
        fields := { function := some "turn" } }
    let context : Context :=
      { moduleKind := .robot
        plugs := [⟨⟨"turn"⟩, "ARG0", "left or right", .logicalOr⟩,
          ⟨⟨"turn"⟩, "ARG2", "a + b", .additive⟩] }
    let other : Context :=
      { context with
        plugs := ⟨⟨"turn"⟩, "ARG3", "late", .atomic⟩ :: ⟨⟨"stop"⟩, "ARG1", "now", .atomic⟩ ::
          context.plugs
        imports := ({} : Imports).insert "math" }
    let written := Fragment.statement "(left or right).turn(\n        None,\n        a + b)\n"
    ∃ drawing, turn.draw .standard = .ok drawing ∧ (emit turn context).1 = .ok written ∧
      (turn.kind = .instanceMethod → turn.arguments ≠ []) ∧
      other.AgreesOn context turn.id drawing.sockets ∧ (emit turn other).1 = .ok written := by
  intro turn context other written
  have values : argumentValues turn context 1 = ["None", "a + b"] := by decide
  have path : calleeCode turn context = .ok "(left or right).turn" := by rfl
  have whole : "(left or right).turn" ++ "(" ++ argumentCode turn context 1 ++ ")" ++ "\n" =
      written.code := by
    rw [argumentCode, values]
    decide
  have done : (emit turn context).1 = .ok written := by
    rw [emit_fst, fragment, calleePath_eq_ok path]
    exact congrArg (fun code => Except.ok (Fragment.statement code)) whole
  have agree : other.AgreesOn context turn.id turn.sockets := by
    refine ⟨rfl, rfl, fun socket member => ?_⟩
    have input : socket.input ∈ ["ARG0", "ARG1", "ARG2"] := List.mem_map_of_mem member
    simp only [List.mem_cons, List.not_mem_nil, or_false] at input
    rcases input with input | input | input
    all_goals
      rw [input]
      decide
  have received : turn.kind = .instanceMethod → turn.arguments ≠ [] := fun _ => by decide
  obtain ⟨drawing, drawn⟩ : ∃ drawing, turn.draw .standard = .ok drawing := ⟨_, rfl⟩
  rw [← (sockets_of_draw drawn).1] at agree
  obtain ⟨same, -⟩ := drawn_sockets_are_read drawn done received
  exact ⟨drawing, drawn, done, received, agree, same other agree⟩

end RobotBlocks.Code
