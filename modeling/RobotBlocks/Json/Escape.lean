/-!
# Texts between the quotes of JSON

`escape` is how a text is written between quotes. `unescape?` reads what is written: it counts in
16-bit units, as the escapes of JSON do, so that two escapes together can stand for one character
above U+FFFF. A unit of such a pair that stands alone is no text.
-/

set_option autoImplicit false

namespace RobotBlocks.Json

/-- The value of a hexadecimal digit. -/
def hexValue? (c : Char) : Option Nat :=
  if '0' ≤ c ∧ c ≤ '9' then some (c.toNat - '0'.toNat)
  else if 'a' ≤ c ∧ c ≤ 'f' then some (c.toNat - 'a'.toNat + 10)
  else if 'A' ≤ c ∧ c ≤ 'F' then some (c.toNat - 'A'.toNat + 10)
  else none

/-- The number that four hexadecimal digits spell. -/
def unitOfHex? (a b c d : Char) : Option Nat := do
  let a ← hexValue? a
  let b ← hexValue? b
  let c ← hexValue? c
  let d ← hexValue? d
  some (((a * 16 + b) * 16 + c) * 16 + d)

/-- The character that a letter after a backslash stands for. -/
def escapedChar? : Char → Option Char
  | '"' => some '"'
  | '\\' => some '\\'
  | '/' => some '/'
  | 'b' => some '\x08'
  | 'f' => some '\x0c'
  | 'n' => some '\n'
  | 'r' => some '\r'
  | 't' => some '\t'
  | _ => none

/-- The numbers that a written text stands for: the code point of each plain character, and the
unit that each escape spells. -/
def units? : List Char → Option (List Nat)
  | [] => some []
  | '\\' :: 'u' :: a :: b :: c :: d :: rest => do
    let unit ← unitOfHex? a b c d
    let units ← units? rest
    some (unit :: units)
  | '\\' :: letter :: rest => do
    let c ← escapedChar? letter
    let units ← units? rest
    some (c.toNat :: units)
  | c :: rest => do
    let units ← units? rest
    some (c.toNat :: units)

/-- Whether a unit opens a pair. -/
def opensPair (unit : Nat) : Bool :=
  decide (0xD800 ≤ unit ∧ unit ≤ 0xDBFF)

/-- Whether a unit closes a pair. -/
def closesPair (unit : Nat) : Bool :=
  decide (0xDC00 ≤ unit ∧ unit ≤ 0xDFFF)

/-- The characters that a row of units stands for; pairs are joined, and half a pair is
refused. -/
def charsOfUnits? : List Nat → Option (List Char)
  | [] => some []
  | [unit] =>
    if opensPair unit || closesPair unit then none else some [Char.ofNat unit]
  | unit :: next :: rest =>
    if opensPair unit then
      if closesPair next then do
        let chars ← charsOfUnits? rest
        some (Char.ofNat (0x10000 + (unit - 0xD800) * 0x400 + (next - 0xDC00)) :: chars)
      else none
    else if closesPair unit then none
    else do
      let chars ← charsOfUnits? (next :: rest)
      some (Char.ofNat unit :: chars)

/-- The text that stands between the quotes, if it is one. -/
def unescape? (written : List Char) : Option String := do
  let units ← units? written
  let chars ← charsOfUnits? units
  some (String.ofList chars)

/-- A hexadecimal digit. -/
def hexDigit (value : Nat) : Char :=
  Nat.digitChar value

/-- A character as it is written between quotes. -/
def escapeChar (c : Char) : List Char :=
  if c = '"' then ['\\', '"']
  else if c = '\\' then ['\\', '\\']
  else if c = '\x08' then ['\\', 'b']
  else if c = '\x0c' then ['\\', 'f']
  else if c = '\n' then ['\\', 'n']
  else if c = '\r' then ['\\', 'r']
  else if c = '\t' then ['\\', 't']
  else if c.toNat < 0x20 then
    ['\\', 'u', '0', '0', hexDigit (c.toNat / 16), hexDigit (c.toNat % 16)]
  else [c]

/-- A text as it is written between quotes. -/
def escape (text : String) : List Char :=
  text.toList.flatMap escapeChar

end RobotBlocks.Json
