import Componentry.Script.Token

/-!
# Operators

Which tokens are operators, and how tightly the binary ones bind.
-/

namespace Componentry.Script

/-- The operators that stand in front of an operand. -/
def isUnaryOperator : Token.Kind → Bool
  | .mark .not | .mark .tilde | .mark .plus | .mark .minus => true
  | .word "typeof" | .word "void" | .word "delete" => true
  | _ => false

/-- The operators that change their operand by one. -/
def isUpdateOperator : Token.Kind → Bool
  | .mark .increment | .mark .decrement => true
  | _ => false

/-- How tightly a binary operator binds; higher numbers bind more tightly. -/
def bindingStrength? : Token.Kind → Option Nat
  | .mark .coalesce => some 1
  | .mark .logicalOr => some 2
  | .mark .logicalAnd => some 3
  | .mark .bitOr => some 4
  | .mark .bitXor => some 5
  | .mark .bitAnd => some 6
  | .mark .equal | .mark .notEqual | .mark .strictEqual | .mark .strictNotEqual => some 7
  | .mark .less | .mark .lessEqual | .mark .greater | .mark .greaterEqual => some 8
  | .word "instanceof" | .word "in" | .word "as" | .word "satisfies" => some 8
  | .mark .shiftLeft | .mark .shiftRight | .mark .shiftRightZero => some 9
  | .mark .plus | .mark .minus => some 10
  | .mark .star | .mark .slash | .mark .percent => some 11
  | .mark .power => some 12
  | _ => none

/-- Whether a token is a binary operator on values, and not `&&`, `||` or `??`. -/
def isPlainBinaryOperator (kind : Token.Kind) : Bool :=
  kind != .word "as" && kind != .word "satisfies" && (bindingStrength? kind).any (3 < ·)

/-- Whether a token can be the operand of `await` or `yield` where they need not be operators. -/
def startsAwaited (kind : Token.Kind) : Bool :=
  (kind.isWordLike || kind.isLiteral) && !isPlainBinaryOperator kind

/-- The strength of comparisons, of which `in` is one. -/
def comparisonStrength : Nat := 8

/-- The strength of `**`, the one binary operator that groups to the right. -/
def powerStrength : Nat := 12

/-- Whether a token is an assignment operator. -/
def isAssignmentOperator : Token.Kind → Bool
  | .mark .assign | .mark .plusAssign | .mark .minusAssign | .mark .starAssign
  | .mark .powerAssign | .mark .slashAssign | .mark .percentAssign | .mark .shiftLeftAssign
  | .mark .shiftRightAssign | .mark .shiftRightZeroAssign | .mark .bitAndAssign
  | .mark .bitOrAssign | .mark .bitXorAssign | .mark .logicalAndAssign | .mark .logicalOrAssign
  | .mark .coalesceAssign => true
  | _ => false

end Componentry.Script
