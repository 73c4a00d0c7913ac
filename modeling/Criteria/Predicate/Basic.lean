import Criteria.Operator
import Criteria.Regex.Flags
import Criteria.Value.Basic

/-!
# Predicate trees

A predicate is a tree of test and arithmetic nodes. An operand slot of a node is unset, holds a
nested predicate or holds a literal value.

Character sets and patterns are prepared on first use, and the prepared form is kept in a cache
cell. A node names its cell, so trees that share a node share the cell.
-/

set_option autoImplicit false

namespace Criteria

/-- The cache cell of a character-set node. -/
structure CharsetCell where
  index : Nat
  deriving DecidableEq, Repr

/-- The cache cell of a pattern node. -/
structure RegexCell where
  index : Nat
  deriving DecidableEq, Repr

mutual

/-- What a node stores in an operand slot. -/
inductive Operand where
  /-- Takes the next argument. -/
  | unset
  /-- Evaluates to the value of another tree, which takes its arguments from the same cursor. -/
  | nested (p : Predicate)
  /-- Stands for itself, or is called when it is a function. -/
  | literal (v : Value)

/-- A node of a predicate tree. -/
inductive Predicate where
  /-- A cleared node: it can be neither evaluated nor written. -/
  | unset
  /-- The argument belongs to one of the categories. -/
  | type (mask : TypeMask)
  /-- Every character of the argument is in the set. -/
  | charset (cell : CharsetCell) (set : String)
  /-- The argument starts with these bytes. -/
  | string (start : List UInt8)
  | unary (op : UnaryOp) (x : Operand)
  | binary (op : BinaryOp) (left right : Operand)
  | boolean (op : BooleanOp) (xs : List Operand)
  /-- The argument contains a match of the pattern. -/
  | regex (cell : RegexCell) (source : String) (flags : Regex.Flags)
  | compare (op : CompareOp) (stored : Value)
  /-- Reads a property of the argument and pipes it through a filter. Without a name, the key is
  the argument after the object. -/
  | property (name : Option String) (filter : Option Operand)
  /-- Looks the argument up as a key of the stored value. -/
  | member (target : Value)
  /-- Skips arguments before the operand. -/
  | shift (count : Nat) (x : Operand)
  /-- Calls a function on a receiver with the next `arity` arguments. -/
  | function (f : Function) (receiver : Value) (arity : Nat)

end

instance : Inhabited Predicate := ⟨.unset⟩

instance : Inhabited Operand := ⟨.unset⟩

namespace Operand

def isUnset : Operand → Bool
  | unset => true
  | _ => false

end Operand

namespace Predicate

def isUnset : Predicate → Bool
  | unset => true
  | _ => false

/-- The node that calls a function with as many arguments as it declares. -/
def ofFunction (f : Function) (receiver : Value) : Predicate := function f receiver f.arity

end Predicate

end Criteria
