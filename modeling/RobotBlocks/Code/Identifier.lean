import RobotBlocks.Text.Blank

/-!
# Python names from labels

A label is any text that a user typed. `identifier` makes a name of it that Python accepts: lower
case, with an underscore where a new word begins and for each run of other characters. A digit at
the start gets an underscore before it, and a keyword one after it.
-/

set_option autoImplicit false

namespace RobotBlocks.Code

/-- The words that Python keeps for itself. -/
def keywords : List String :=
  ["False", "None", "True", "and", "as", "assert", "async", "await", "break", "class",
    "continue", "def", "del", "elif", "else", "except", "finally", "for", "from", "global",
    "if", "import", "in", "is", "lambda", "nonlocal", "not", "or", "pass", "raise", "return",
    "try", "while", "with", "yield"]

/-- What the last character of a name decides about the next one. -/
inductive Last
  /-- Nothing: there is no character yet, or it was a capital. -/
  | free
  /-- A capital begins a new word. -/
  | small
  /-- No second underscore follows. -/
  | underscore
deriving DecidableEq, Repr

/-- The words of a label in lower case, with single underscores between them. -/
def snakeCase : Last → List Char → List Char
  | _, [] => []
  | last, c :: rest =>
    if c.isUpper then
      let start := if last = .small then ['_', c.toLower] else [c.toLower]
      start ++ snakeCase .free rest
    else if c.isAlphanum then c :: snakeCase .small rest
    else if last = .underscore then snakeCase .underscore rest
    else '_' :: snakeCase .underscore rest

/-- The name of a label without any letter or digit between its ends. -/
def unnamed : List Char := "unnamed".toList

/-- An underscore before a digit at the start. -/
def guardDigit : List Char → List Char
  | [] => []
  | c :: rest => if c.isDigit then '_' :: c :: rest else c :: rest

/-- An underscore after a keyword. -/
def guardKeyword (name : List Char) : List Char :=
  if String.ofList name ∈ keywords then name ++ ['_'] else name

/-- The characters of the name made of a label. -/
def identifierChars (label : List Char) : List Char :=
  match snakeCase .free (Text.trim label) with
  | [] => unnamed
  | name => guardKeyword (guardDigit name)

/-- The Python name made of a label. -/
def identifier (label : String) : String :=
  String.ofList (identifierChars label.toList)

end RobotBlocks.Code
