/-!
# Operators

The operator families, their symbols and their precedence, and the kinds of predicate nodes.
-/

set_option autoImplicit false

namespace Criteria

/-- Precedence classes of generated source, loosest first. -/
inductive Precedence where
  | logicalOr
  | logicalAnd
  | bitwiseOr
  | bitwiseXor
  | bitwiseAnd
  | equality
  | relational
  | additive
  | multiplicative
  | exponentiation
  | unary
  /-- Calls, member access and atoms. -/
  | memberAccess
  deriving DecidableEq, Repr

namespace Precedence

/-- How tightly the class binds. -/
def strength : Precedence → Nat
  | logicalOr => 0
  | logicalAnd => 1
  | bitwiseOr => 2
  | bitwiseXor => 3
  | bitwiseAnd => 4
  | equality => 5
  | relational => 6
  | additive => 7
  | multiplicative => 8
  | exponentiation => 9
  | unary => 10
  | memberAccess => 11

instance : LT Precedence := ⟨fun a b => a.strength < b.strength⟩

instance (a b : Precedence) : Decidable (a < b) := inferInstanceAs (Decidable (a.strength < b.strength))

/-- Every class, loosest first. -/
def all : List Precedence :=
  [logicalOr, logicalAnd, bitwiseOr, bitwiseXor, bitwiseAnd, equality, relational, additive,
    multiplicative, exponentiation, unary, memberAccess]

/-- Whether operators of the class group to the right. -/
def isRightAssociative (p : Precedence) : Bool := p = exponentiation

end Precedence

/-- The kinds of predicate nodes. -/
inductive Kind where
  | type | charset | string
  | notNot | not | bitNot | sqrt
  | add | sub | mul | div | mod | bitOr | bitAnd | pow | atan2
  | or | and | xor
  | regex
  | instanceOf | prototypeIs | equal
  | property | member | shift | function
  deriving DecidableEq, Repr

namespace Kind

/-- Every kind, in declaration order. -/
def all : List Kind :=
  [type, charset, string, notNot, not, bitNot, sqrt, add, sub, mul, div, mod, bitOr, bitAnd, pow,
    atan2, or, and, xor, regex, instanceOf, prototypeIs, equal, property, member, shift, function]

/-- The name in dumps. -/
def name : Kind → String
  | type => "type"
  | charset => "charset"
  | string => "string"
  | notNot => "notnot"
  | not => "not"
  | bitNot => "bnot"
  | sqrt => "sqrt"
  | add => "add"
  | sub => "sub"
  | mul => "mul"
  | div => "div"
  | mod => "mod"
  | bitOr => "bor"
  | bitAnd => "band"
  | pow => "pow"
  | atan2 => "atan2"
  | or => "or"
  | and => "and"
  | xor => "xor"
  | regex => "regexp"
  | instanceOf => "instanceof"
  | prototypeIs => "prototypeis"
  | equal => "equal"
  | property => "property"
  | member => "member"
  | shift => "shift"
  | function => "function"

end Kind

/-- Operators of one operand. -/
inductive UnaryOp where
  /-- Conversion to a truth value. -/
  | notNot
  | not
  /-- The complement of the 64-bit integer. -/
  | bitNot
  | sqrt
  deriving DecidableEq, Repr

namespace UnaryOp

def all : List UnaryOp := [notNot, not, bitNot, sqrt]

def symbol : UnaryOp → String
  | notNot => "!!"
  | not => "!"
  | bitNot => "~"
  | sqrt => "Math.sqrt"

def precedence : UnaryOp → Precedence
  | notNot => .unary
  | not => .unary
  | bitNot => .unary
  | sqrt => .memberAccess

def kind : UnaryOp → Kind
  | notNot => .notNot
  | not => .not
  | bitNot => .bitNot
  | sqrt => .sqrt

end UnaryOp

/-- Arithmetic operators of two operands. -/
inductive BinaryOp where
  | add | sub | mul | div | mod | bitOr | bitAnd | pow | atan2
  deriving DecidableEq, Repr

namespace BinaryOp

def all : List BinaryOp := [add, sub, mul, div, mod, bitOr, bitAnd, pow, atan2]

/-- The symbol between the operands; `atan2` is written as a call. -/
def symbol : BinaryOp → String
  | add => "+"
  | sub => "-"
  | mul => "*"
  | div => "/"
  | mod => "%"
  | bitOr => "|"
  | bitAnd => "&"
  | pow => "**"
  | atan2 => "atan2"

def precedence : BinaryOp → Precedence
  | add => .additive
  | sub => .additive
  | mul => .multiplicative
  | div => .multiplicative
  | mod => .multiplicative
  | pow => .exponentiation
  | bitOr => .bitwiseOr
  | bitAnd => .bitwiseAnd
  | atan2 => .memberAccess

def kind : BinaryOp → Kind
  | add => .add
  | sub => .sub
  | mul => .mul
  | div => .div
  | mod => .mod
  | bitOr => .bitOr
  | bitAnd => .bitAnd
  | pow => .pow
  | atan2 => .atan2

end BinaryOp

/-- Combinators of any number of operands. -/
inductive BooleanOp where
  | or | and | xor
  deriving DecidableEq, Repr

namespace BooleanOp

def all : List BooleanOp := [or, and, xor]

def symbol : BooleanOp → String
  | or => "||"
  | and => "&&"
  | xor => "^"

def precedence : BooleanOp → Precedence
  | or => .logicalOr
  | and => .logicalAnd
  | xor => .bitwiseXor

def kind : BooleanOp → Kind
  | or => .or
  | and => .and
  | xor => .xor

end BooleanOp

/-- Relations between an argument and a stored value. -/
inductive CompareOp where
  | instanceOf
  /-- Whether the argument's prototype is the stored object. -/
  | prototypeIs
  | equal
  deriving DecidableEq, Repr

namespace CompareOp

def all : List CompareOp := [instanceOf, prototypeIs, equal]

def precedence : CompareOp → Precedence
  | instanceOf => .relational
  | prototypeIs => .equality
  | equal => .equality

def kind : CompareOp → Kind
  | instanceOf => .instanceOf
  | prototypeIs => .prototypeIs
  | equal => .equal

end CompareOp

end Criteria
