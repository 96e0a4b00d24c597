import RobotBlocks.Code.CalleePath

/-!
# Fragments of code

The code of one call node. A call that gives a value back is an expression, which is plugged into
a socket; any other call is a statement, which ends its line.

A single argument stands on the line of the call. Several arguments stand on lines of their own,
two levels in.
-/

set_option autoImplicit false

namespace RobotBlocks.Code

/-- The code of one call node. -/
inductive Fragment
  /-- An expression, and how tightly it binds. -/
  | expression (code : String) (precedence : Precedence)
  /-- A statement with the end of its line. -/
  | statement (code : String)
deriving DecidableEq, Repr

/-- The code of a fragment. -/
def Fragment.code : Fragment → String
  | .expression code _ => code
  | .statement code => code

/-- The values of the arguments between the parentheses. -/
def argumentValues (node : CallNode) (context : Context) (first : Nat) : List String :=
  (List.range' first (node.arguments.length - first)).map fun position =>
    context.argument node.id position .loosest

/-- Lays values out between parentheses. -/
def layOut (indent : String) : List String → String
  | [] => ""
  | [value] => value
  | values => "\n" ++ String.intercalate ",\n" (values.map fun value => indent ++ indent ++ value)

/-- What stands between the parentheses. -/
def argumentCode (node : CallNode) (context : Context) (first : Nat) : String :=
  layOut context.indent (argumentValues node context first)

/-- The fragment that a call makes: an expression if it gives a value back. -/
def fragmentOf (node : CallNode) (call : String) : Fragment :=
  if node.hasValue then .expression call .functionCall else .statement (call ++ "\n")

/-- The code of a node. -/
def fragment (node : CallNode) (context : Context) : Except Fault Fragment := do
  let path ← calleePath node context
  .ok (fragmentOf node (path.code ++ "(" ++ argumentCode node context path.firstArgument ++ ")"))

/-- The context after a node asked for its import. A node without code asks for it too. -/
def contextAfter (node : CallNode) (context : Context) : Context :=
  if node.importModule = "" then context else context.importing node.importModule

/-- Writes the code of a node, and asks for its import. -/
def emit (node : CallNode) (context : Context) : Except Fault Fragment × Context :=
  let context := contextAfter node context
  (fragment node context, context)

/-- The import that a node asks for does not show in its code. -/
theorem emit_fst (node : CallNode) (context : Context) :
    (emit node context).1 = fragment node context := by
  unfold emit contextAfter
  dsimp only
  split
  · rfl
  · rfl

/-- A node with a callee path has code, which begins with the path and the opening parenthesis. -/
theorem fragment_of_calleePath {node : CallNode} {context : Context} {path : CalleePath}
    (found : calleePath node context = .ok path) :
    ∃ whole rest, fragment node context = .ok whole ∧ whole.code = path.code ++ "(" ++ rest := by
  unfold fragment
  rw [found]
  cases value : node.hasValue with
  | true =>
    refine ⟨_, argumentCode node context path.firstArgument ++ ")", rfl, ?_⟩
    simp [fragmentOf, value, Fragment.code, String.append_assoc]
  | false =>
    refine ⟨_, argumentCode node context path.firstArgument ++ ")\n", rfl, ?_⟩
    simp [fragmentOf, value, Fragment.code, String.append_assoc]

end RobotBlocks.Code
