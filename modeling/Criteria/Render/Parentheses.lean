import Criteria.Predicate.Query

/-!
# Parentheses

When an operand of generated source has to stand in parentheses: it binds more loosely than the
operator, or equally tightly on the side where the operator would regroup it. The left operand of an
exponentiation may moreover be neither a unary expression nor a negative number.
-/

set_option autoImplicit false

namespace Criteria

/-- Where an operand stands. -/
inductive Position where
  /-- Left of an operator between two operands. -/
  | left
  /-- Right of an operator between two operands. -/
  | right
  /-- After a unary operator. -/
  | operand
  /-- In a chain of any number of operands. -/
  | chain
  deriving DecidableEq, Repr

/-- Whether an operand is written with a minus sign. -/
def Operand.isNegativeNumber : Operand → Bool
  | .literal (.int n) => n < 0
  | .literal (.float x) => x < 0
  | _ => false

/-- Whether an operand of precedence `inner` needs parentheses at a position of an operator. -/
def Position.needsParens (position : Position) (operator inner : Precedence) (x : Operand) : Bool :=
  if inner < operator then true
  else
    match position with
    | .left =>
      (operator = .exponentiation && (inner = .unary || x.isNegativeNumber)) ||
        (inner = operator && operator.isRightAssociative)
    | .right => inner = operator && !operator.isRightAssociative
    | .operand => false
    | .chain => false

/-- Whether an operand needs parentheses at a position of an operator. -/
def needsParens (operator : Precedence) (x : Operand) (position : Position) : Except Fault Bool :=
  return position.needsParens operator (← x.precedence) x

end Criteria
