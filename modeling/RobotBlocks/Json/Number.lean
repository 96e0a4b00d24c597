/-!
# Numbers as JSON spells them

A `Literal` is a number as written: its sign, its digits and its exponent. What it stands for is
a `Number`: an integer when it is written without fraction and exponent and fits 64 bits, signed
or not, and a real number otherwise. Minus zero is a real number, since no integer is meant by
it.

The digits of a real number are read into 64 bits. Once one of them no longer fits, it and the
later ones on its side of the point count only by their place.
-/

set_option autoImplicit false

namespace RobotBlocks.Json

/-- A number as it is written. -/
structure Literal where
  /-- Whether a minus sign stands before it. -/
  negative : Bool
  /-- The digits before the point. -/
  whole : List Char
  /-- The digits after the point; none when no point is written. -/
  fraction : List Char
  /-- The exponent, if one is written: its sign and its digits. -/
  exponent : Option (Bool × List Char)
deriving DecidableEq, Repr

/-- What a number stands for. -/
inductive Number
  /-- An integer that fits 64 bits. -/
  | integer (value : Int)
  /-- `significand · 10 ^ exponent`, with a sign. -/
  | real (negative : Bool) (significand : Nat) (exponent : Int)
deriving DecidableEq, Repr

namespace Literal

/-- The value of a digit. -/
def digitValue (digit : Char) : Nat :=
  digit.toNat - '0'.toNat

/-- The number that a row of digits spells. -/
def natOfDigits (digits : List Char) : Nat :=
  digits.foldl (fun value digit => 10 * value + digitValue digit) 0

/-- Splits a minus sign off. -/
def sign : List Char → Bool × List Char
  | '-' :: rest => (true, rest)
  | rest => (false, rest)

/-- Splits the digits before the point off: a lone zero, or a row of digits that does not start
with a zero. -/
def wholePart? (text : List Char) : Option (List Char × List Char) :=
  match text.span Char.isDigit with
  | ([], _) => none
  | ('0' :: _ :: _, _) => none
  | (digits, rest) => some (digits, rest)

/-- Splits the point and the digits after it off. -/
def fractionPart? : List Char → Option (List Char × List Char)
  | '.' :: rest =>
    match rest.span Char.isDigit with
    | ([], _) => none
    | (digits, rest) => some (digits, rest)
  | rest => some ([], rest)

/-- The digits of an exponent, which end the number. -/
def exponentDigits? (negative : Bool) (text : List Char) : Option (Option (Bool × List Char)) :=
  if text ≠ [] ∧ text.all Char.isDigit = true then some (some (negative, text)) else none

/-- The exponent, which ends the number. -/
def exponentPart? : List Char → Option (Option (Bool × List Char))
  | [] => some none
  | e :: rest =>
    if e = 'e' ∨ e = 'E' then
      match rest with
      | '-' :: digits => exponentDigits? true digits
      | '+' :: digits => exponentDigits? false digits
      | digits => exponentDigits? false digits
    else none

/-- The number that a whole word spells, if it spells one. -/
def ofWord? (word : List Char) : Option Literal := do
  let (negative, word) := sign word
  let (whole, word) ← wholePart? word
  let (fraction, word) ← fractionPart? word
  let exponent ← exponentPart? word
  some { negative, whole, fraction, exponent }

/-- Appends digits to `value` while the result fits 64 bits; the second part is what is left. -/
def appendDigits : Nat → List Char → Nat × List Char
  | value, [] => (value, [])
  | value, digit :: rest =>
    let longer := 10 * value + digitValue digit
    if longer < Nat.pow 2 64 then appendDigits longer rest else (value, digit :: rest)

/-- The exponent as a number; zero when none is written. -/
def exponentValue (literal : Literal) : Int :=
  match literal.exponent with
  | none => 0
  | some (true, digits) => -(natOfDigits digits : Int)
  | some (false, digits) => natOfDigits digits

/-- The real number that is written. -/
def real (literal : Literal) : Number :=
  let (value, dropped) := appendDigits 0 literal.whole
  let (value, left) := appendDigits value literal.fraction
  let places : Int := literal.fraction.length - left.length
  .real literal.negative value (literal.exponentValue + dropped.length - places)

/-- What the number stands for. -/
def number (literal : Literal) : Number :=
  let value := natOfDigits literal.whole
  if literal.fraction = [] ∧ literal.exponent = none then
    if literal.negative = false ∧ value < Nat.pow 2 64 then .integer value
    else if literal.negative = true ∧ 0 < value ∧ value ≤ Nat.pow 2 63 then .integer (-value)
    else literal.real
  else literal.real

end Literal

end RobotBlocks.Json
