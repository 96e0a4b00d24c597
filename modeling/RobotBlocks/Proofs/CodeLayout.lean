import RobotBlocks.Code.Fragment
import RobotBlocks.Palette
import RobotBlocks.Proofs.Brackets
import RobotBlocks.Proofs.NameCharacters
import RobotBlocks.Settings

/-!
# The layout of generated code

The code of a call is a callee path and the arguments between parentheses. A callee path is made of
names with dots between (`calleeCode_eq_intercalate`), except for an event, where it is the line of
a guard and a look-up on the next line (`calleeCode_event`). If the labels of a node are plain and
the code in its sockets is `Inline`, then every part is balanced, so the whole is
(`emitted_code_is_balanced`), and a line can end outside all brackets only in the path or at the end
of a statement (`exists_breakAt_path`).

Whether the code is an expression is decided by the return type and not by the kind of the node, so
the guard of an event comes to stand in an expression where the definition of the event gives a
value back. `expression_is_call_iff` says that no other kind of node has such an expression, and
`event_with_value_is_no_call` shows one.
-/

set_option autoImplicit false

namespace RobotBlocks.Code

open Text

/-! ## Callee paths -/

section Found

variable {node : CallNode}

/-- Work in two steps is done when the first step gives a value with which the second one is done.
-/
theorem bind_eq_ok {α β : Type} {work : Except Fault α} {next : α → Except Fault β} {result : β}
    (done : (do let value ← work; next value) = .ok result) :
    ∃ value, work = .ok value ∧ next value = .ok result := by
  cases work with
  | error fault => cases done
  | ok value => exact ⟨value, rfl, done⟩

/-- The name that is called, where there is one, is the name that the node calls. -/
theorem eq_of_calledName {name : String} (given : calledName node = .ok name) :
    name = node.calledName := by
  unfold calledName at given
  split at given
  · cases given
  · exact (Except.ok.inj given).symm

/-- The field for the function holds the name of the function. -/
@[simp]
theorem getD_field_function : (node.field .function).getD "" = node.functionName := rfl

/-- The field for the owner holds the name of the owner. -/
@[simp]
theorem getD_field_owner : (node.field .owner).getD "" = node.ownerName := rfl

/-- The field for the component holds the name of the component. -/
@[simp]
theorem getD_field_component : (node.field .component).getD "" = node.componentName := rfl

/-- What a required field gives is what the field holds. -/
theorem eq_of_requiredField {field : FieldName} {value : String}
    (given : requiredField node field = .ok value) : value = (node.field field).getD "" := by
  unfold requiredField at given
  split at given
  · cases given
  · rename_i shown there
    split at given
    · cases given
    · rw [there, ← Except.ok.inj given]
      rfl

/-- A required field that holds a text gives it. -/
theorem requiredField_of_filled {field : FieldName} (filled : (node.field field).getD "" ≠ "") :
    requiredField node field = .ok ((node.field field).getD "") := by
  cases shown : node.field field with
  | none =>
    rw [shown] at filled
    exact absurd rfl filled
  | some value =>
    rw [shown] at filled
    exact requiredField_eq_ok shown filled

/-- A callee that is reached through a field is written from what the field holds and from the name
that is called. -/
theorem eq_of_qualified {field : FieldName} {join : String → String → String} {code : String}
    (written : (do
      let owner ← requiredField node field
      let name ← calledName node
      .ok (join owner name)) = .ok code) :
    code = join ((node.field field).getD "") node.calledName := by
  obtain ⟨owner, required, written⟩ := bind_eq_ok written
  obtain ⟨name, given, written⟩ := bind_eq_ok written
  rw [← Except.ok.inj written, eq_of_requiredField required, eq_of_calledName given]

end Found

/-- How a module reaches a component, by the names on the way. -/
def receiverParts : ModuleKind → List String
  | .robot | .mechanism => ["self"]
  | .opMode => ["self", "robot"]

/-- The names that the dots of a callee path join. An event is not called under a name: its handler
is looked up. -/
def calleeParts (node : CallNode) (context : Context) : List String :=
  match node.kind with
  | .builtIn => [node.calledName]
  | .moduleFunction | .staticMethod => [node.ownerName, node.calledName]
  | .construction => [node.ownerName]
  | .instanceMethod => [context.argument node.id 0 .member, node.calledName]
  | .ownMethod => ["self", identifier node.functionName]
  | .componentMethod =>
    receiverParts context.moduleKind ++ [node.componentName, node.calledName]
  | .robotMethod => ["self", "robot", node.calledName]
  | .event => []

/-- The callee path of any call but the firing of an event is made of names with dots between. -/
theorem calleeCode_eq_intercalate {node : CallNode} {context : Context} {code : String}
    (noEvent : node.kind ≠ .event) (written : calleeCode node context = .ok code) :
    code = ".".intercalate (calleeParts node context) := by
  unfold calleeCode at written
  unfold calleeParts
  cases kind : node.kind with
  | builtIn =>
    rw [kind] at written
    rw [eq_of_calledName written]
    simp
  | moduleFunction | staticMethod =>
    rw [kind] at written
    rw [eq_of_qualified written]
    simp
  | construction =>
    rw [kind] at written
    rw [eq_of_requiredField written]
    simp
  | instanceMethod =>
    rw [kind] at written
    obtain ⟨name, given, written⟩ := bind_eq_ok written
    rw [← Except.ok.inj written, eq_of_calledName given]
    simp
  | ownMethod =>
    rw [kind] at written
    obtain ⟨label, required, written⟩ := bind_eq_ok written
    rw [← Except.ok.inj written, eq_of_requiredField required]
    simp
  | componentMethod =>
    rw [kind] at written
    rw [eq_of_qualified written]
    cases context.moduleKind with
    | robot => simp [componentReceiver, receiverParts, ← String.append_assoc]
    | mechanism => simp [componentReceiver, receiverParts, ← String.append_assoc]
    | opMode => simp [componentReceiver, receiverParts, ← String.append_assoc]
  | robotMethod =>
    rw [kind] at written
    obtain ⟨name, given, written⟩ := bind_eq_ok written
    rw [← Except.ok.inj written, eq_of_calledName given]
    simp [← String.append_assoc]
  | event => exact absurd kind noEvent

/-! ## Labels and plugged code -/

/-- The labels of a node have neither brackets nor line breaks. The label of a function may have
any, where a name is made of it. -/
structure PlainLabels (node : CallNode) : Prop where
  function : node.kind ≠ .ownMethod → node.kind ≠ .event → Plain node.functionName
  owner : Plain node.ownerName
  component : Plain node.componentName
  callee : Plain node.calleeName

/-- The code in the sockets is balanced and stands on one line. -/
def Context.InlinePlugs (context : Context) : Prop :=
  ∀ node input plug, context.plug? node input = some plug → Inline plug.code

/-- If the code of every plug is inline, then so is whatever stands in a socket. -/
theorem Context.inlinePlugs_of_mem {context : Context}
    (each : ∀ plug ∈ context.plugs, Inline plug.code) : context.InlinePlugs :=
  fun _ _ plug found => each plug (List.mem_of_find?_eq_some found)

/-- A character of a name is no bracket and no line break. -/
theorem not_bracket_of_isNameChar {c : Char} (letter : isNameChar c = true) :
    isBracket c = false ∧ c ≠ '\n' := by
  constructor
  · refine decide_eq_false fun bracket => ?_
    simp only [List.mem_cons, List.not_mem_nil, or_false] at bracket
    rcases bracket with rfl | rfl | rfl | rfl | rfl | rfl
    all_goals exact absurd letter (by decide)
  · rintro rfl
    exact absurd letter (by decide)

/-- A name made of any label is plain. -/
theorem plain_identifier (label : String) : Plain (identifier label) := by
  intro c member
  exact not_bracket_of_isNameChar (isNameChar_of_mem_identifier c member)

section Inline

variable {node : CallNode} {context : Context}

/-- What holds of a missing value and of the code in a socket, between parentheses or not, holds of
the argument. -/
theorem argument_of_plug {P : String → Prop} {id : NodeId} {position : Nat} (outer : Precedence)
    (missing : P Context.noValue)
    (plugged : ∀ plug, context.plug? id (socketName position) = some plug → P plug.code)
    (enclosed : ∀ code, P code → P (parenthesized code)) :
    P (context.argument id position outer) := by
  unfold Context.argument Context.value?
  cases found : context.plug? id (socketName position) with
  | none => exact missing
  | some plug =>
    have inside := plugged plug found
    dsimp only
    split
    · exact missing
    · split
      · exact enclosed plug.code inside
      · exact inside

/-- An argument is inline if what is plugged in is, with the parentheses that it may get. -/
theorem inline_argument (plugs : context.InlinePlugs) (id : NodeId) (position : Nat)
    (outer : Precedence) : Inline (context.argument id position outer) := by
  have missing : Inline Context.noValue := ⟨by decide, by decide⟩
  apply argument_of_plug outer missing (plugs id (socketName position))
  intro code inline
  exact inline.between (by rfl) (by rfl) (by decide) (by decide)

/-- The name that is called is plain, for the kinds that do not make it of a label. -/
theorem PlainLabels.calledName (labels : PlainLabels node) (ownLabel : node.kind ≠ .ownMethod)
    (noEvent : node.kind ≠ .event) : Plain node.calledName := by
  unfold CallNode.calledName
  split
  · exact labels.function ownLabel noEvent
  · exact labels.callee

/-- The parts from which a callee is written are inline. -/
theorem inline_calleeParts (labels : PlainLabels node) (plugs : context.InlinePlugs) :
    ∀ part ∈ calleeParts node context, Inline part := by
  have self : Inline "self" := ⟨by decide, by decide⟩
  have robot : Inline "robot" := ⟨by decide, by decide⟩
  have called : node.kind ≠ .ownMethod → node.kind ≠ .event → Inline node.calledName :=
    fun ownLabel noEvent => (labels.calledName ownLabel noEvent).inline
  unfold calleeParts
  cases kind : node.kind with
  | builtIn =>
    rw [kind] at called
    simp [called]
  | moduleFunction | staticMethod =>
    rw [kind] at called
    simp [called, labels.owner.inline]
  | construction => simp [labels.owner.inline]
  | instanceMethod =>
    rw [kind] at called
    simp [called, inline_argument plugs]
  | ownMethod => simp [self, (plain_identifier node.functionName).inline]
  | componentMethod =>
    rw [kind] at called
    cases context.moduleKind with
    | robot | mechanism | opMode =>
      simp [receiverParts, self, robot, called, labels.component.inline]
  | robotMethod =>
    rw [kind] at called
    simp [self, robot, called]
  | event => simp

/-- The code of a callee is inline, except for an event. -/
theorem inline_calleeCode (labels : PlainLabels node) (plugs : context.InlinePlugs)
    (noEvent : node.kind ≠ .event) {code : String} (written : calleeCode node context = .ok code) :
    Inline code := by
  rw [calleeCode_eq_intercalate noEvent written]
  exact Inline.intercalate ⟨by decide, by decide⟩ (inline_calleeParts labels plugs)

/-! ## Arguments -/

/-- Each argument of a call is inline. -/
theorem inline_of_mem_argumentValues (plugs : context.InlinePlugs) (first : Nat) :
    ∀ value ∈ argumentValues node context first, Inline value := by
  intro value member
  obtain ⟨position, -, rfl⟩ := List.mem_map.mp member
  exact inline_argument plugs node.id position .loosest

end Inline

/-- Balanced arguments are balanced as they are laid out. -/
theorem balanced_layOut {indent : String} (indentation : Balanced indent) {values : List String}
    (each : ∀ value ∈ values, Balanced value) : Balanced (layOut indent values) := by
  have comma : Balanced ",\n" := by decide
  have lineEnd : Balanced "\n" := by decide
  unfold layOut
  split
  · rfl
  · exact each _ List.mem_cons_self
  · refine lineEnd.append (comma.intercalate fun line member => ?_)
    obtain ⟨value, inValues, rfl⟩ := List.mem_map.mp member
    exact (indentation.append indentation).append (each value inValues)

/-- The indentation does not come into the layout of a single value. -/
theorem inline_layOut {values : List String} (short : values.length ≤ 1)
    (each : ∀ value ∈ values, Inline value) (indent : String) : Inline (layOut indent values) := by
  match values, short with
  | [], _ => exact ⟨by rfl, by simp [layOut]⟩
  | [value], _ => exact each value List.mem_cons_self

/-- In front of each line break between inline arguments stands an even number of brackets. -/
theorem evenLines_layOut {indent : String} (onOneLine : '\n' ∉ indent.toList)
    {values : List String} (each : ∀ value ∈ values, Inline value) :
    EvenLines (layOut indent values) := by
  have comma : EvenLines ",\n" := .of_no_bracket (by simp [isBracket])
  have lineEnd : EvenLines "\n" := .of_no_bracket (by simp [isBracket])
  unfold layOut
  split
  · exact .of_no_bracket (by simp)
  · have inline := each _ List.mem_cons_self
    exact .of_onOneLine inline.balanced.even inline.onOneLine
  · refine lineEnd.append (comma.intercalate fun line member => ?_)
    obtain ⟨value, inValues, rfl⟩ := List.mem_map.mp member
    have inline := each value inValues
    have even := inline.balanced.even
    -- The indentation stands twice on the line, so its brackets make an even number.
    refine .of_onOneLine ?_ ?_
    · simp only [String.toList_append, List.countP_append]
      omega
    · simp [onOneLine, inline.onOneLine]

/-- The indentation has no brackets, or no line breaks, or it is not used between the parentheses of
the call. -/
inductive IndentFits (node : CallNode) (context : Context) : Prop
  | noBracket (other : ∀ c ∈ context.indent.toList, isBracket c = false)
  | onOneLine (onOneLine : '\n' ∉ context.indent.toList)
  | few (few : node.arguments.length ≤ node.kind.receiverSockets + 1)

/-- What stands between the parentheses of a call is balanced. -/
theorem balanced_argumentCode {node : CallNode} {context : Context} (plugs : context.InlinePlugs)
    (noBracket : ∀ c ∈ context.indent.toList, isBracket c = false) (first : Nat) :
    Balanced (argumentCode node context first) := by
  have each : ∀ value ∈ argumentValues node context first, Inline value :=
    inline_of_mem_argumentValues plugs first
  exact balanced_layOut (balanced_of_no_bracket noBracket) fun value member =>
    (each value member).balanced

/-- Between its parentheses no line of a call ends outside all brackets. -/
theorem IndentFits.unbroken {node : CallNode} {context : Context} (fits : IndentFits node context)
    (plugs : context.InlinePlugs) :
    Unbroken ("(" ++ argumentCode node context node.kind.receiverSockets ++ ")") := by
  have each : ∀ value ∈ argumentValues node context node.kind.receiverSockets, Inline value :=
    inline_of_mem_argumentValues plugs node.kind.receiverSockets
  cases fits with
  | noBracket other => exact (balanced_argumentCode plugs other _).unbroken_enclosed
  | onOneLine onOneLine => exact (evenLines_layOut onOneLine each).unbroken_enclosed
  | few few =>
    have short : (argumentValues node context node.kind.receiverSockets).length ≤ 1 := by
      simp only [argumentValues, List.length_map, List.length_range']
      omega
    exact (inline_layOut short each context.indent).balanced.unbroken_enclosed

/-! ## Calls -/

section Call

variable {node : CallNode} {context : Context}

/-- A fragment is a callee path and the arguments between parentheses, and the end of the line if
no value comes back. -/
theorem fragment_eq_ok {written : Fragment} (done : fragment node context = .ok written) :
    ∃ path, calleeCode node context = .ok path ∧
      written = fragmentOf node
        (path ++ ("(" ++ argumentCode node context node.kind.receiverSockets ++ ")")) := by
  obtain ⟨path, found, rest⟩ := bind_eq_ok done
  obtain ⟨code, path?, same⟩ := bind_eq_ok found
  obtain rfl := Except.ok.inj same
  refine ⟨code, path?, ?_⟩
  rw [← Except.ok.inj rest]
  simp only [String.append_assoc]

/-- The code of a node is that of its callee with its arguments between parentheses. -/
theorem fragment_of_calleeCode {code : String} (written : calleeCode node context = .ok code) :
    fragment node context = .ok (fragmentOf node
      (code ++ "(" ++ argumentCode node context node.kind.receiverSockets ++ ")")) := by
  unfold fragment
  rw [calleePath_eq_ok written]
  rfl

/-- A line of a call that ends outside all brackets ends in its callee path. -/
theorem exists_breakAt_path {path arguments before after : String} (balanced : Balanced path)
    (between : Balanced arguments)
    (found : BreakAt (path ++ ("(" ++ arguments ++ ")")) before after) :
    ∃ rest, BreakAt path before rest := by
  rcases found.split balanced with inPath | ⟨start, -, inArguments⟩
  · exact inPath
  · exact absurd inArguments (between.unbroken_enclosed start after)

end Call

/-! ## Events -/

/-- The line that an event begins with: what follows it is run if the event has a handler. -/
def eventGuard (name : String) : String :=
  "if self.events.get(\"" ++ name ++ "\", None):"

/-- The code of an event is a guard on one line and the handler, indented, on the next. -/
theorem guardedEvent_eq (indent name : String) :
    guardedEvent indent name = eventGuard name ++ ("\n" ++ (indent ++ eventHandler name)) := by
  have lineEnd : "\", None):\n" = "\", None):" ++ "\n" := rfl
  unfold guardedEvent eventGuard
  rw [lineEnd]
  simp only [String.append_assoc]

/-- The guard of an event is inline, whatever its label. -/
theorem inline_eventGuard (label : String) : Inline (eventGuard (identifier label)) :=
  (plain_identifier label).inline.between (by rfl) (by rfl) (by decide) (by decide)

/-- The handler of an event is inline, whatever its label. -/
theorem inline_eventHandler (label : String) : Inline (eventHandler (identifier label)) :=
  (plain_identifier label).inline.between (by rfl) (by rfl) (by decide) (by decide)

/-- The callee of an event is written as a guard and a handler with the name made of its label. -/
theorem calleeCode_event {node : CallNode} {context : Context} {path : String}
    (kind : node.kind = .event) (written : calleeCode node context = .ok path) :
    path = eventGuard (identifier node.functionName) ++
      ("\n" ++ (context.indent ++ eventHandler (identifier node.functionName))) := by
  unfold calleeCode at written
  rw [kind] at written
  obtain ⟨label, required, written⟩ := bind_eq_ok written
  rw [← Except.ok.inj written, eq_of_requiredField required, getD_field_function, guardedEvent_eq]

section Event

variable (label : String) {indent : String}

/-- The guard and the handler of an event are balanced together. -/
theorem balanced_guardedEvent (indentation : Inline indent) :
    Balanced (eventGuard (identifier label) ++
      ("\n" ++ (indent ++ eventHandler (identifier label)))) := by
  have lineEnd : Balanced "\n" := by decide
  have call := indentation.append (inline_eventHandler label)
  exact (inline_eventGuard label).balanced.append (lineEnd.append call.balanced)

/-- The one line of an event that ends outside all brackets is its guard. -/
theorem eq_eventGuard_of_breakAt (indentation : Inline indent) {before after : String}
    (found : BreakAt (eventGuard (identifier label) ++
      ("\n" ++ (indent ++ eventHandler (identifier label)))) before after) :
    before = eventGuard (identifier label) := by
  have guard := inline_eventGuard label
  have call := indentation.append (inline_eventHandler label)
  rcases found.split guard.balanced with ⟨rest, inGuard⟩ | ⟨start, beforeEq, behind⟩
  · exact absurd inGuard (guard.unbroken before rest)
  · rcases behind.split (by decide) with ⟨rest, atLineEnd⟩ | ⟨next, -, inCall⟩
    · rw [beforeEq, (breakAt_lineEnd atLineEnd).1, String.append_empty]
    · exact absurd inCall (call.unbroken next after)

end Event

/-! ## Code of any node -/

/-- Generated code closes its brackets, and its lines end where they may. If the labels of a node
have neither brackets nor line breaks, the code in the sockets is balanced and stands on one line,
and the indentation is made of spaces and tabs, then the code of the node is balanced. A line of it
that ends outside all brackets is the last line of a statement, or for an event the line of its
guard. The label of a function of which a name is made, as for an event, may be any text. -/
theorem emitted_code_is_balanced {node : CallNode} {context : Context} (labels : PlainLabels node)
    (blank : context.indent.toList.all Settings.isIndentChar = true) (plugs : context.InlinePlugs)
    {written : Fragment} (done : (emit node context).1 = .ok written) :
    Balanced written.code ∧
      ∀ before after, BreakAt written.code before after →
        (∃ code, written = .statement code ∧ after = "") ∨
          node.kind = .event ∧ before = eventGuard (identifier node.functionName) := by
  have indentation : Plain context.indent := by
    intro c member
    have space : c = ' ' ∨ c = '\t' := by
      simpa [Settings.isIndentChar] using List.all_eq_true.mp blank c member
    rcases space with rfl | rfl
    · exact ⟨by decide, by decide⟩
    · exact ⟨by decide, by decide⟩
  rw [emit_fst] at done
  obtain ⟨path, found, rfl⟩ := fragment_eq_ok done
  have arguments : Balanced (argumentCode node context node.kind.receiverSockets) :=
    balanced_argumentCode plugs (fun c member => (indentation c member).1) _
  -- Between the parentheses no line ends outside all brackets, so the path decides.
  have ofPath : Balanced path ∧ ∀ before rest, BreakAt path before rest →
      node.kind = .event ∧ before = eventGuard (identifier node.functionName) := by
    by_cases kind : node.kind = .event
    · rw [calleeCode_event kind found]
      refine ⟨balanced_guardedEvent _ indentation.inline, fun before rest inPath => ⟨kind, ?_⟩⟩
      exact eq_eventGuard_of_breakAt _ indentation.inline inPath
    · have inline := inline_calleeCode labels plugs kind found
      exact ⟨inline.balanced, fun before rest inPath => absurd inPath (inline.unbroken before rest)⟩
  obtain ⟨balanced, breaks⟩ := ofPath
  have call := balanced.append arguments.enclosed
  unfold fragmentOf
  split
  · refine ⟨call, fun before after found => Or.inr ?_⟩
    obtain ⟨rest, inPath⟩ := exists_breakAt_path balanced arguments found
    exact breaks before rest inPath
  · refine ⟨call.append (by decide), fun before after found => ?_⟩
    rcases found.split call with ⟨rest, inCall⟩ | ⟨start, -, atLineEnd⟩
    · obtain ⟨rest, inPath⟩ := exists_breakAt_path balanced arguments inCall
      exact Or.inr (breaks before rest inPath)
    · exact Or.inl ⟨_, rfl, (breakAt_lineEnd atLineEnd).2⟩

/-- An event whose label would close a bracket and begin a line, with two arguments of which one is
missing. -/
theorem emitted_code_is_balanced_of_event :
    let fire : CallNode :=
      { id := ⟨"fire"⟩, kind := .event, arguments := [⟨"speed", "float"⟩, ⟨"angle", "float"⟩]
        fields := { function := some "Stop)\nnow]" } }
    let context : Context :=
      { moduleKind := .mechanism, indent := "\t"
        plugs := [⟨⟨"fire"⟩, "ARG0", "max(a, b[0])", .functionCall⟩] }
    let code := "if self.events.get(\"stop_now_\", None):\n\tself.events[\"stop_now_\"](\n" ++
      "\t\tmax(a, b[0]),\n\t\tNone)\n"
    PlainLabels fire ∧ context.indent.toList.all Settings.isIndentChar = true ∧
      context.InlinePlugs ∧ (emit fire context).1 = .ok (.statement code) ∧ Balanced code ∧
      ∀ before after, BreakAt code before after →
        after = "" ∨ before = "if self.events.get(\"stop_now_\", None):" := by
  intro fire context code
  have labels : PlainLabels fire :=
    ⟨fun _ noEvent => absurd rfl noEvent, by decide, by decide, by decide⟩
  have plugs : context.InlinePlugs := by
    refine Context.inlinePlugs_of_mem fun plug member => ?_
    rw [List.mem_singleton.mp member]
    exact ⟨by decide, by decide⟩
  have name : identifier fire.functionName = "stop_now_" := by decide
  have path : calleeCode fire context = .ok (guardedEvent "\t" (identifier fire.functionName)) :=
    rfl
  have values : argumentValues fire context 0 = ["max(a, b[0])", "None"] := by decide
  have whole : guardedEvent "\t" "stop_now_" ++ "(" ++ argumentCode fire context 0 ++ ")" ++ "\n" =
      code := by
    rw [argumentCode, values]
    decide
  have done : (emit fire context).1 = .ok (.statement code) := by
    rw [emit_fst, fragment, calleePath_eq_ok path, name, ← whole]
    rfl
  obtain ⟨balanced, breaks⟩ := emitted_code_is_balanced labels (by decide) plugs done
  refine ⟨labels, by decide, plugs, done, balanced, fun before after found => ?_⟩
  rcases breaks before after found with ⟨-, -, last⟩ | ⟨-, guard⟩
  · exact Or.inl last
  · rw [guard, name]
    exact Or.inr rfl

/-! ## Expressions -/

/-- Code that may stand in a socket: the names of a callee path with dots between and the arguments
between parentheses, and no line of it ends outside all brackets. -/
structure IsCall (node : CallNode) (context : Context) (code : String) : Prop where
  written : code = ".".intercalate (calleeParts node context) ++
    ("(" ++ argumentCode node context node.kind.receiverSockets ++ ")")
  unbroken : Unbroken code

/-- What is written for a call that gives a value back is an expression, except for an event. If the
labels of a node have neither brackets nor line breaks, and the code in the sockets is balanced and
stands on one line, then an expression that is written for the node is a callee path with arguments,
all within one line but for what stands between brackets, exactly when the node is not the firing of
an event and no line ends outside all brackets in the arguments with their parentheses. The latter
is so for any indentation without brackets or without line breaks, and for at most one argument. For
an event the expression begins with the line of the guard, which is a statement. -/
theorem expression_is_call_iff {node : CallNode} {context : Context} (labels : PlainLabels node)
    (plugs : context.InlinePlugs) {code : String} {precedence : Precedence}
    (done : (emit node context).1 = .ok (.expression code precedence)) :
    (IsCall node context code ↔ node.kind ≠ .event ∧
      Unbroken ("(" ++ argumentCode node context node.kind.receiverSockets ++ ")")) ∧
      (IndentFits node context →
        Unbroken ("(" ++ argumentCode node context node.kind.receiverSockets ++ ")")) ∧
      (node.kind = .event →
        ∃ rest, BreakAt code (eventGuard (identifier node.functionName)) rest) := by
  rw [emit_fst] at done
  obtain ⟨path, found, written⟩ := fragment_eq_ok done
  have codeEq : code =
      path ++ ("(" ++ argumentCode node context node.kind.receiverSockets ++ ")") := by
    unfold fragmentOf at written
    split at written
    · exact (Fragment.expression.inj written).1
    · cases written
  have guarded : node.kind = .event →
      ∃ rest, BreakAt code (eventGuard (identifier node.functionName)) rest := by
    intro kind
    rw [codeEq, calleeCode_event kind found]
    refine ⟨context.indent ++ eventHandler (identifier node.functionName) ++
      ("(" ++ argumentCode node context node.kind.receiverSockets ++ ")"), ?_,
      (inline_eventGuard node.functionName).balanced⟩
    simp only [String.append_assoc]
  have inlinePath : node.kind ≠ .event → Inline path :=
    fun noEvent => inline_calleeCode labels plugs noEvent found
  -- A path other than that of an event is inline, so that a line of the code can only end in the
  -- arguments.
  refine ⟨⟨fun call => ?_, fun ⟨noEvent, arguments⟩ => ⟨?_, ?_⟩⟩,
    fun fits => fits.unbroken plugs, guarded⟩
  · have noEvent : node.kind ≠ .event := by
      intro kind
      obtain ⟨rest, broken⟩ := guarded kind
      exact call.unbroken _ rest broken
    have unbroken := call.unbroken
    rw [codeEq] at unbroken
    exact ⟨noEvent, unbroken.of_append (inlinePath noEvent).balanced⟩
  · rw [codeEq, calleeCode_eq_intercalate noEvent found]
  · rw [codeEq]
    exact (inlinePath noEvent).unbroken.append (inlinePath noEvent).balanced arguments

/-- A method of a value that binds looser than a call, with two more arguments. -/
theorem expression_is_call_of_method :
    let turn : CallNode :=
      { id := ⟨"turn"⟩, kind := .instanceMethod, returnType := .typed "bool"
        arguments := [⟨"self", "Motor"⟩, ⟨"speed", "float"⟩, ⟨"angle", "float"⟩]
        fields := { function := some "turn" } }
    let context : Context :=
      { moduleKind := .robot
        plugs := [⟨⟨"turn"⟩, "ARG0", "left or right", .logicalOr⟩,
          ⟨⟨"turn"⟩, "ARG2", "angles[0]", .member⟩] }
    let code := "(left or right).turn(\n        None,\n        angles[0])"
    PlainLabels turn ∧ context.InlinePlugs ∧ IndentFits turn context ∧
      (emit turn context).1 = .ok (.expression code .functionCall) ∧ IsCall turn context code := by
  intro turn context code
  have labels : PlainLabels turn :=
    ⟨fun _ _ => by decide, by decide, by decide, by decide⟩
  have plugs : context.InlinePlugs := by
    refine Context.inlinePlugs_of_mem fun plug member => ?_
    rcases List.mem_pair.mp member with rfl | rfl
    · exact ⟨by decide, by decide⟩
    · exact ⟨by decide, by decide⟩
  have fits : IndentFits turn context := .onOneLine (by decide)
  have path : calleeCode turn context = .ok "(left or right).turn" := by rfl
  have values : argumentValues turn context 1 = ["None", "angles[0]"] := by decide
  have whole : "(left or right).turn" ++ "(" ++ argumentCode turn context 1 ++ ")" = code := by
    rw [argumentCode, values]
    decide
  have done : (emit turn context).1 = .ok (.expression code .functionCall) := by
    rw [emit_fst, fragment, calleePath_eq_ok path, ← whole]
    rfl
  obtain ⟨call, unbroken, -⟩ := expression_is_call_iff labels plugs done
  exact ⟨labels, plugs, fits, done, call.mpr ⟨by decide, unbroken fits⟩⟩

/-- An event that gives a value back, as it is built from its definition: what is written for it as
an expression has the guard on a line of its own. -/
theorem event_with_value_is_no_call :
    let definition : Definition :=
      ⟨⟨"def"⟩, "onStart", "on_start", .typed "bool", some Definition.selfArgument, []⟩
    let fire := Palette.event ⟨"fire"⟩ definition
    let context : Context := { moduleKind := .robot }
    let code := "if self.events.get(\"on_start\", None):\n    self.events[\"on_start\"]()"
    Plain fire.functionName ∧ Plain fire.ownerName ∧ Plain fire.componentName ∧
      Plain fire.calleeName ∧ context.InlinePlugs ∧
      (emit fire context).1 = .ok (.expression code .functionCall) ∧
      BreakAt code "if self.events.get(\"on_start\", None):" "    self.events[\"on_start\"]()" ∧
      ¬IsCall fire context code := by
  intro definition fire context code
  have plugs : context.InlinePlugs := Context.inlinePlugs_of_mem fun plug member => by cases member
  have name : identifier fire.functionName = "on_start" := by decide
  have path : calleeCode fire context = .ok (guardedEvent "    " (identifier fire.functionName)) :=
    rfl
  have whole :
      guardedEvent "    " "on_start" ++ "(" ++ argumentCode fire context 0 ++ ")" = code := by
    decide
  have done : (emit fire context).1 = .ok (.expression code .functionCall) := by
    rw [emit_fst, fragment, calleePath_eq_ok path, name, ← whole]
    rfl
  have broken : BreakAt code "if self.events.get(\"on_start\", None):"
      "    self.events[\"on_start\"]()" := ⟨by decide, by decide⟩
  refine ⟨by decide, by decide, by decide, by decide, plugs, done, broken, fun call => ?_⟩
  exact call.unbroken _ _ broken

end RobotBlocks.Code
