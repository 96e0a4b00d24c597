import RobotBlocks.Json.Number

/-!
# Lexemes of JSON

A JSON text is a row of marks, quoted texts and words, with white space between them. A word is
the longest run of other characters; it must spell a constant or a number. Two words never touch
in a JSON text, so reading the longest run refuses nothing that JSON allows.

The scanner is a fold of one step over the characters, with the state of an unfinished lexeme in
its `Scan.Mode`.
-/

set_option autoImplicit false

namespace RobotBlocks.Json

/-- The smallest parts of a JSON text. -/
inductive Lexeme
  /-- An opening brace. -/
  | openObject
  /-- A closing brace. -/
  | closeObject
  /-- An opening bracket. -/
  | openList
  /-- A closing bracket. -/
  | closeList
  /-- The colon between a key and its value. -/
  | colon
  /-- The comma between items or entries. -/
  | comma
  /-- The word `null`. -/
  | null
  /-- The words `true` and `false`. -/
  | bool (value : Bool)
  /-- A word that spells a number. -/
  | number (literal : Literal)
  /-- What stands between two quotes, as written. -/
  | text (written : List Char)
deriving DecidableEq, Repr

namespace Lexeme

/-- The lexeme that a single character makes. -/
def ofMark? : Char → Option Lexeme
  | '\x7b' => some .openObject
  | '\x7d' => some .closeObject
  | '[' => some .openList
  | ']' => some .closeList
  | ':' => some .colon
  | ',' => some .comma
  | _ => none

/-- The lexeme that a word makes. -/
def ofWord? (word : List Char) : Option Lexeme :=
  if word = ['n', 'u', 'l', 'l'] then some .null
  else if word = ['t', 'r', 'u', 'e'] then some (.bool true)
  else if word = ['f', 'a', 'l', 's', 'e'] then some (.bool false)
  else (Literal.ofWord? word).map .number

end Lexeme

/-- The characters that may stand between two lexemes. -/
def isSpace (c : Char) : Bool :=
  c = ' ' || c = '\n' || c = '\t' || c = '\r'

namespace Scan

/-- What the scanner is in the middle of. The characters seen are kept last first. -/
inductive Mode
  /-- Between two lexemes. -/
  | between
  /-- Within a word. -/
  | word (seen : List Char)
  /-- Within a quoted text. -/
  | text (seen : List Char)
  /-- Behind a backslash in a quoted text. -/
  | escape (seen : List Char)
  /-- Before the last `left + 1` hexadecimal digits of an escape. -/
  | hex (left : Nat) (seen : List Char)
deriving DecidableEq, Repr

/-- The state of the scanner: what it is in the middle of, and the lexemes found, last first. -/
structure State where
  /-- What the scanner is in the middle of. -/
  mode : Mode
  /-- The lexemes found, last first. -/
  found : List Lexeme
deriving DecidableEq, Repr

/-- The state at the start of a text. -/
def start : State := ⟨.between, []⟩

/-- Takes a character between two lexemes. -/
def stepBetween (found : List Lexeme) (c : Char) : State :=
  if isSpace c then ⟨.between, found⟩
  else if c = '"' then ⟨.text [], found⟩
  else
    match Lexeme.ofMark? c with
    | some lexeme => ⟨.between, lexeme :: found⟩
    | none => ⟨.word [c], found⟩

/-- Whether a character ends a word. -/
def endsWord (c : Char) : Bool :=
  isSpace c || c = '"' || (Lexeme.ofMark? c).isSome

/-- Whether a character may follow a backslash. -/
def isEscapeLetter (c : Char) : Bool :=
  ['"', '\\', '/', 'b', 'f', 'n', 'r', 't'].contains c

/-- Whether a character is a hexadecimal digit. -/
def isHexDigit (c : Char) : Bool :=
  c.isDigit || decide ('a' ≤ c ∧ c ≤ 'f') || decide ('A' ≤ c ∧ c ≤ 'F')

/-- Takes the next character. -/
def step (state : State) (c : Char) : Option State :=
  match state.mode with
  | .between => some (stepBetween state.found c)
  | .word seen =>
    if endsWord c then
      (Lexeme.ofWord? seen.reverse).map fun lexeme => stepBetween (lexeme :: state.found) c
    else some ⟨.word (c :: seen), state.found⟩
  | .text seen =>
    if c = '"' then some ⟨.between, .text seen.reverse :: state.found⟩
    else if c = '\\' then some ⟨.escape (c :: seen), state.found⟩
    else if c.toNat < 0x20 then none
    else some ⟨.text (c :: seen), state.found⟩
  | .escape seen =>
    if c = 'u' then some ⟨.hex 3 (c :: seen), state.found⟩
    else if isEscapeLetter c then some ⟨.text (c :: seen), state.found⟩
    else none
  | .hex left seen =>
    if isHexDigit c then
      match left with
      | 0 => some ⟨.text (c :: seen), state.found⟩
      | left + 1 => some ⟨.hex left (c :: seen), state.found⟩
    else none

/-- The lexemes found, once the text has ended. -/
def finish (state : State) : Option (List Lexeme) :=
  match state.mode with
  | .between => some state.found.reverse
  | .word seen =>
    (Lexeme.ofWord? seen.reverse).map fun lexeme => (lexeme :: state.found).reverse
  | _ => none

end Scan

/-- The lexemes of a text, if it consists of lexemes. -/
def lexemes? (text : List Char) : Option (List Lexeme) := do
  let state ← text.foldlM Scan.step Scan.start
  Scan.finish state

end RobotBlocks.Json
