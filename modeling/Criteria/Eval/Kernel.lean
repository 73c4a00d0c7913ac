import Criteria.Operator
import Criteria.Value.Datum

/-!
# Operator kernels

What the unary and binary operators make of values. Logical operators read truth, the bitwise ones
64-bit integers, all others numbers.
-/

set_option autoImplicit false

namespace Criteria

/-- Applies a unary operator. -/
def UnaryOp.apply (op : UnaryOp) (s : Store) (v : Value) : Value :=
  match op with
  | .notNot => .bool v.isTruthy
  | .not => .bool !v.isTruthy
  | .bitNot => .int (~~~ s.int64 v)
  | .sqrt => .float (s.number v).sqrt

/-- An arithmetic operator on numbers. -/
def BinaryOp.onNumbers : BinaryOp → Float → Float → Float
  | .add, a, b => a + b
  | .sub, a, b => a - b
  | .mul, a, b => a * b
  | .div, a, b => a / b
  | .mod, a, b => Number.remainder a b
  | .pow, a, b => Float.pow a b
  | .atan2, a, b => Float.atan2 a b
  | .bitOr, _, _ => Number.nan
  | .bitAnd, _, _ => Number.nan

/-- Applies a binary operator. The bitwise ones give their integer as a double. -/
def BinaryOp.apply (op : BinaryOp) (s : Store) (left right : Value) : Value :=
  match op with
  | .bitOr => .float (Float.ofInt (s.int64 left ||| s.int64 right).toInt)
  | .bitAnd => .float (Float.ofInt (s.int64 left &&& s.int64 right).toInt)
  | _ => .float (op.onNumbers (s.number left) (s.number right))

end Criteria
