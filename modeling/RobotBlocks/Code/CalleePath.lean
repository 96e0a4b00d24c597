import RobotBlocks.Code.Context
import RobotBlocks.Fault

/-!
# Callee paths

The code of a call up to its opening parenthesis. Each kind of call has its own form; a form that
needs a label fails when the label is empty.
-/

set_option autoImplicit false

namespace RobotBlocks.Code

/-- The code of a call up to its opening parenthesis. -/
structure CalleePath where
  /-- The code. -/
  code : String
  /-- The position of the first argument between the parentheses. -/
  firstArgument : Nat
deriving DecidableEq, Repr

/-- The name to call, which must not be empty. -/
def calledName (node : CallNode) : Except Fault String :=
  if node.calledName = "" then .error (.missingField node.id .function) else .ok node.calledName

/-- The value of a field, which must not be empty. -/
def requiredField (node : CallNode) (field : FieldName) : Except Fault String :=
  match node.field field with
  | none => .error (.missingField node.id field)
  | some value => if value = "" then .error (.missingField node.id field) else .ok value

/-- How a module reaches its components. -/
def componentReceiver : ModuleKind → String
  | .robot | .mechanism => "self."
  | .opMode => "self.robot."

/-- The handler of an event, looked up in the table of handlers. -/
def eventHandler (name : String) : String :=
  "self.events[\"" ++ name ++ "\"]"

/-- The line before the call of an event handler, and the call up to its parenthesis: an event
without a handler is not fired. -/
def guardedEvent (indent name : String) : String :=
  "if self.events.get(\"" ++ name ++ "\", None):\n" ++ indent ++ eventHandler name

/-- The code of a call up to its opening parenthesis. -/
def calleeCode (node : CallNode) (context : Context) : Except Fault String :=
  match node.kind with
  | .builtIn => calledName node
  | .moduleFunction | .staticMethod => do
    let owner ← requiredField node .owner
    let name ← calledName node
    .ok (owner ++ "." ++ name)
  | .construction => requiredField node .owner
  | .instanceMethod => do
    let name ← calledName node
    .ok (context.argument node.id 0 .member ++ "." ++ name)
  | .ownMethod => do
    let label ← requiredField node .function
    .ok ("self." ++ identifier label)
  | .event => do
    let label ← requiredField node .function
    .ok (guardedEvent context.indent (identifier label))
  | .componentMethod => do
    let component ← requiredField node .component
    let name ← calledName node
    .ok (componentReceiver context.moduleKind ++ component ++ "." ++ name)
  | .robotMethod => do
    let name ← calledName node
    .ok ("self.robot." ++ name)

/-- The callee path of a node. -/
def calleePath (node : CallNode) (context : Context) : Except Fault CalleePath := do
  let code ← calleeCode node context
  .ok ⟨code, node.kind.receiverSockets⟩

section Found

variable {node : CallNode}

/-- A name to call is given when it is not empty. -/
theorem calledName_eq_ok (named : node.calledName ≠ "") : calledName node = .ok node.calledName :=
  if_neg named

/-- The value of a field is given when it is set and not empty. -/
theorem requiredField_eq_ok {field : FieldName} {value : String}
    (shown : node.field field = some value) (filled : value ≠ "") :
    requiredField node field = .ok value := by
  unfold requiredField
  rw [shown]
  exact if_neg filled

/-- A callee whose code is written is reached by this code, and its arguments are those in the
sockets behind the receiver. -/
theorem calleePath_eq_ok {context : Context} {code : String}
    (written : calleeCode node context = .ok code) :
    calleePath node context = .ok ⟨code, node.kind.receiverSockets⟩ := by
  unfold calleePath
  rw [written]
  rfl

end Found

end RobotBlocks.Code
