/-!
# Signatures

What a function takes and what it gives back. A return type is saved as a text: `None` when
nothing comes back, the empty text when the type is not known, and the name of the type
otherwise. A type that is itself called `None` or nothing at all therefore comes back as one of
the first two; `ofText_text_iff` says that these are the only ones that do not survive.
-/

set_option autoImplicit false

namespace RobotBlocks

/-- What a function gives back. -/
inductive ReturnType
  /-- Nothing: the call is a statement. -/
  | nothing
  /-- A value whose type is not known. -/
  | untyped
  /-- A value of the named type. -/
  | typed (name : String)
deriving DecidableEq, Repr

namespace ReturnType

/-- The saved text of a function that gives nothing back. -/
def nothingText : String := "None"

/-- The return type that a saved text stands for. -/
def ofText (text : String) : ReturnType :=
  if text = nothingText then .nothing
  else if text = "" then .untyped
  else .typed text

/-- The text under which a return type is saved. -/
def text : ReturnType → String
  | .nothing => nothingText
  | .untyped => ""
  | .typed name => name

/-- Whether a value comes back. -/
def hasValue : ReturnType → Bool
  | .nothing => false
  | _ => true

/-- The type that a socket must accept to take the value; none when any socket will do. -/
def check : ReturnType → Option String
  | .typed name => some name
  | _ => none

/-- Reading a text as a return type loses nothing of the text. -/
@[simp]
theorem text_ofText (text : String) : (ofText text).text = text := by
  unfold ofText
  split
  · rename_i same
    exact same.symm
  · split
    · rename_i same
      exact same.symm
    · rfl

/-- A return type survives saving unless it is a named type whose name is saved for one of the
other two. -/
theorem ofText_text_iff (type : ReturnType) :
    ofText type.text = type ↔ type ≠ .typed nothingText ∧ type ≠ .typed "" := by
  cases type with
  | nothing => decide
  | untyped => decide
  | typed name =>
    by_cases isNothing : name = nothingText
    · simp [ofText, text, isNothing]
    · by_cases isEmpty : name = ""
      · simp [ofText, text, isEmpty, nothingText]
      · simp [ofText, text, isNothing, isEmpty]

end ReturnType

/-- One argument of a function: its label and the name of its type, empty when not known. -/
structure Argument where
  /-- The label shown beside its socket. -/
  name : String
  /-- The name of its type. -/
  type : String
deriving DecidableEq, Repr

end RobotBlocks
