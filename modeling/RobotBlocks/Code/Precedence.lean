/-!
# Precedence

How tightly the operators of Python bind. An expression is put between parentheses where it
binds looser than its surroundings allow.
-/

set_option autoImplicit false

namespace RobotBlocks.Code

/-- How tightly an expression binds, the tightest first. -/
inductive Precedence
  /-- A name, a constant or anything between brackets. -/
  | atomic
  /-- A list, a set or a dictionary. -/
  | collection
  /-- Access to a member. -/
  | member
  /-- A call. -/
  | functionCall
  /-- A power. -/
  | exponentiation
  /-- A sign before an operand. -/
  | unarySign
  /-- A product or a quotient. -/
  | multiplicative
  /-- A sum or a difference. -/
  | additive
  /-- A shift. -/
  | bitwiseShift
  /-- A conjunction of bits. -/
  | bitwiseAnd
  /-- An exclusive disjunction of bits. -/
  | bitwiseXor
  /-- A disjunction of bits. -/
  | bitwiseOr
  /-- A comparison. -/
  | relational
  /-- A negation. -/
  | logicalNot
  /-- A conjunction. -/
  | logicalAnd
  /-- A disjunction. -/
  | logicalOr
  /-- A choice between two values. -/
  | conditional
  /-- A function without a name. -/
  | lambda
  /-- Anything: nothing binds looser. -/
  | loosest
deriving DecidableEq, Repr

namespace Precedence

/-- The rank of a precedence; the tightest has rank 0. -/
def rank : Precedence → Nat
  | .atomic => 0
  | .collection => 1
  | .member => 2
  | .functionCall => 3
  | .exponentiation => 4
  | .unarySign => 5
  | .multiplicative => 6
  | .additive => 7
  | .bitwiseShift => 8
  | .bitwiseAnd => 9
  | .bitwiseXor => 10
  | .bitwiseOr => 11
  | .relational => 12
  | .logicalNot => 13
  | .logicalAnd => 14
  | .logicalOr => 15
  | .conditional => 16
  | .lambda => 17
  | .loosest => 18

/-- Whether the first binds looser than the second. -/
def looserThan (inner outer : Precedence) : Bool :=
  decide (outer.rank < inner.rank)

/-- Nothing binds looser than the loosest. -/
@[simp]
theorem looserThan_loosest (inner : Precedence) : inner.looserThan .loosest = false := by
  cases inner <;> rfl

end Precedence

end RobotBlocks.Code
