/-!
# Kinds of call

The nine ways in which a call node reaches the function that it calls, and the tag under which
each is saved. `ofTag?_tag` and `tag_injective` say that the tags tell the kinds apart.
-/

set_option autoImplicit false

namespace RobotBlocks

/-- How a call node reaches the function that it calls. -/
inductive CallKind
  /-- A function that is always there, such as `print`. -/
  | builtIn
  /-- A function of a module, called as `module.function`. -/
  | moduleFunction
  /-- A static method, called as `Class.method`. -/
  | staticMethod
  /-- The making of an instance; the class itself is called. -/
  | construction
  /-- A method of the value in the first socket. -/
  | instanceMethod
  /-- A method defined in the module being edited, called on `self`. -/
  | ownMethod
  /-- A method of a named component. -/
  | componentMethod
  /-- A method defined on the robot, called through `self.robot`. -/
  | robotMethod
  /-- The firing of an event, through the table of its handlers. -/
  | event
deriving DecidableEq, Repr

namespace CallKind

/-- All kinds, in the order in which they are listed. -/
def all : List CallKind :=
  [.builtIn, .moduleFunction, .staticMethod, .construction, .instanceMethod, .ownMethod,
    .componentMethod, .robotMethod, .event]

/-- The tag under which a kind is saved. -/
def tag : CallKind → String
  | .builtIn => "built-in"
  | .moduleFunction => "module"
  | .staticMethod => "static"
  | .construction => "constructor"
  | .instanceMethod => "instance"
  | .ownMethod => "instance_within"
  | .componentMethod => "instance_component"
  | .robotMethod => "instance_robot"
  | .event => "event"

/-- The kind with the given tag. -/
def ofTag? (tag : String) : Option CallKind :=
  all.find? fun kind => decide (kind.tag = tag)

/-- Whether what is called is a definition in the graph. -/
def callsDefinition : CallKind → Bool
  | .ownMethod | .robotMethod | .event => true
  | _ => false

/-- How many sockets stand before the arguments: the receiver of an instance method takes the
first one. -/
def receiverSockets : CallKind → Nat
  | .instanceMethod => 1
  | _ => 0

/-- Every kind of call is listed. -/
theorem mem_all (kind : CallKind) : kind ∈ all := by
  cases kind <;> decide

/-- A kind is found under its tag. -/
@[simp]
theorem ofTag?_tag (kind : CallKind) : ofTag? kind.tag = some kind := by
  cases kind <;> decide

/-- What is found under a tag carries that tag. -/
theorem tag_of_ofTag? {tag : String} {kind : CallKind} (found : ofTag? tag = some kind) :
    kind.tag = tag := by
  simpa using List.find?_some found

/-- Two kinds with the same tag are the same. -/
theorem tag_injective {k l : CallKind} (same : k.tag = l.tag) : k = l := by
  have := ofTag?_tag k
  rw [same, ofTag?_tag] at this
  exact (Option.some.inj this).symm

/-- A text that is no tag finds nothing. -/
theorem ofTag?_eq_none_iff {tag : String} :
    ofTag? tag = none ↔ ∀ kind : CallKind, kind.tag ≠ tag := by
  constructor
  · intro absent kind same
    rw [← same, ofTag?_tag] at absent
    exact Option.some_ne_none _ absent
  · intro other
    cases found : ofTag? tag with
    | none => rfl
    | some kind => exact absurd (tag_of_ofTag? found) (other kind)

end CallKind

end RobotBlocks
