import RobotBlocks.Json.Number

/-!
# The text of a real number

A message shows a real number as the nearest double, in the fewest digits that read back as that
double. A double is `mantissa · 2 ^ exponent`; all arithmetic on it is done on exact fractions.

The digits are rounded to a double first, and the result is multiplied or divided by the double
nearest to the power of ten, with a second rounding. Up to fifteen digits and a power up to 22
both steps but the last are exact.
-/

set_option autoImplicit false

namespace RobotBlocks.Json

/-- A positive double, or zero: `mantissa · 2 ^ exponent`. -/
structure Double where
  /-- The digits, below `2 ^ 53`. -/
  mantissa : Nat
  /-- The power of two that scales them, at least `-1074`. -/
  exponent : Int
deriving DecidableEq, Repr

namespace Double

/-- The quotient to the nearest integer; a half goes to the even neighbour. -/
def roundedQuotient (numerator denominator : Nat) : Nat :=
  let quotient := numerator / denominator
  let twice := 2 * (numerator % denominator)
  if twice < denominator then quotient
  else if denominator < twice then quotient + 1
  else quotient + quotient % 2

/-- The fraction `numerator / denominator · 2 ^ -exponent` as numerator and denominator. -/
def scaled (numerator denominator : Nat) (exponent : Int) : Nat × Nat :=
  if exponent < 0 then (numerator * Nat.pow 2 exponent.natAbs, denominator)
  else (numerator, denominator * Nat.pow 2 exponent.natAbs)

/-- The double nearest to `numerator / denominator`; a half goes to the even mantissa. -/
def nearest (numerator denominator : Nat) : Double :=
  if numerator = 0 then ⟨0, -1074⟩
  else
    let estimate : Int := (Nat.log2 numerator : Int) - Nat.log2 denominator - 53
    let (n, d) := scaled numerator denominator estimate
    let bits : Int := Nat.log2 (n / d)
    let exponent := max (estimate + (bits - 52)) (-1074)
    let (n, d) := scaled numerator denominator exponent
    let mantissa := roundedQuotient n d
    if mantissa = Nat.pow 2 53 then ⟨Nat.pow 2 52, exponent + 1⟩ else ⟨mantissa, exponent⟩

/-- The exact value as numerator and denominator. -/
def fraction (x : Double) : Nat × Nat :=
  if x.exponent < 0 then (x.mantissa, Nat.pow 2 x.exponent.natAbs)
  else (x.mantissa * Nat.pow 2 x.exponent.natAbs, 1)

/-- The double nearest to the product. -/
def mul (x y : Double) : Double :=
  nearest (x.fraction.1 * y.fraction.1) (x.fraction.2 * y.fraction.2)

/-- The double nearest to the quotient. -/
def div (x y : Double) : Double :=
  nearest (x.fraction.1 * y.fraction.2) (x.fraction.2 * y.fraction.1)

/-- The largest power of ten that a double reaches. -/
def maxPower : Nat := 308

/-- Divides by ten to the `power`, by at most ten to the `maxPower` at a time. Four steps bring
any 64 bits to zero. -/
def divPowerOfTen : Nat → Nat → Double → Double
  | 0, _, _ => nearest 0 1
  | steps + 1, power, x =>
    if power ≤ maxPower then x.div (nearest (Nat.pow 10 power) 1)
    else divPowerOfTen steps (power - maxPower) (x.div (nearest (Nat.pow 10 maxPower) 1))

/-- The double that the written digits and power of ten come to. -/
def ofDecimal (significand : Nat) (exponent : Int) : Double :=
  let digits := nearest significand 1
  if exponent < 0 then divPowerOfTen 4 exponent.natAbs digits
  else digits.mul (nearest (Nat.pow 10 (min exponent.natAbs maxPower)) 1)

/-- The fraction of `x` measured in units of ten to the `unit`. -/
def inUnits (x : Double) (unit : Int) : Nat × Nat :=
  let (n, d) := x.fraction
  if unit < 0 then (n * Nat.pow 10 unit.natAbs, d) else (n, d * Nat.pow 10 unit.natAbs)

/-- Whether `digits` units of ten to the `unit` read back as `x`. -/
def readsBack (x : Double) (unit : Int) (digits : Nat) : Bool :=
  if unit < 0 then nearest digits (Nat.pow 10 unit.natAbs) = x
  else nearest (digits * Nat.pow 10 unit.natAbs) 1 = x

/-- The nearer one of the two multiples of ten to the `unit` around `x` that reads back as `x`. -/
def decimalAt? (x : Double) (unit : Int) : Option Nat :=
  let (n, d) := x.inUnits unit
  let below := n / d
  let near := roundedQuotient n d
  let far := if near = below then below + 1 else below
  if x.readsBack unit near then some near
  else if x.readsBack unit far then some far
  else none

/-- The number of digits before the point of a positive double; zero or less when it is below
a tenth. -/
def magnitude (x : Double) : Int :=
  let (n, d) := x.fraction
  if d ≤ n then (Nat.toDigits 10 (n / d)).length
  else 1 - (Nat.toDigits 10 ((d + n - 1) / n - 1)).length

/-- The first of the given units at which a decimal reads back as `x`. -/
def firstDecimal (x : Double) : List Int → Nat × Int
  | [] => (0, 0)
  | unit :: finer =>
    match x.decimalAt? unit with
    | some digits => (digits, unit)
    | none => firstDecimal x finer

/-- The decimal with the fewest digits that reads back as `x`: its digits and its unit. -/
def shortest (x : Double) : Nat × Int :=
  x.firstDecimal ((List.range 17).map fun (i : Nat) => x.magnitude - 1 - i)

end Double

/-- The digits and the unit of a decimal without zeros at the end of the digits. -/
def withoutTrailingZeros : List Char → Int → List Char × Int
  | digits, unit =>
    let kept := (digits.reverse.dropWhile (· = '0')).reverse
    (kept, unit + (digits.length - kept.length : Nat))

/-- A row of zeros. -/
def zeros (count : Int) : List Char :=
  List.replicate count.toNat '0'

/-- An exponent of ten, always with its sign. -/
def exponentText (exponent : Int) : List Char :=
  'e' :: (if exponent < 0 then '-' else '+') :: (toString exponent.natAbs).toList

/-- Up to sixteen digits before the point and four zeros after it are written out; a number
beyond these has one digit before the point and an exponent. -/
def decimalText (digits : List Char) (unit : Int) : List Char :=
  let before : Int := digits.length + unit
  if 0 ≤ unit ∧ before ≤ 16 then digits ++ zeros unit ++ ['.', '0']
  else if 0 < before ∧ before ≤ 16 then
    digits.take before.toNat ++ ['.'] ++ digits.drop before.toNat
  else if -5 < before ∧ before ≤ 0 then ['0', '.'] ++ zeros (-before) ++ digits
  else
    match digits with
    | [digit] => digit :: exponentText (before - 1)
    | digit :: rest => digit :: '.' :: rest ++ exponentText (before - 1)
    | [] => exponentText (before - 1)

/-- The text of a real number, as messages show it. -/
def realText (negative : Bool) (significand : Nat) (exponent : Int) : String :=
  let mark := if negative then ['-'] else []
  let x := Double.ofDecimal significand exponent
  if x.mantissa = 0 then String.ofList (mark ++ ['0', '.', '0'])
  else
    let (digits, unit) := x.shortest
    let (digits, unit) := withoutTrailingZeros (Nat.toDigits 10 digits) unit
    String.ofList (mark ++ decimalText digits unit)

end RobotBlocks.Json
