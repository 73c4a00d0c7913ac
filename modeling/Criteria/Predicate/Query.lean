import Criteria.Error
import Criteria.Predicate.Basic
import Criteria.Text.Utf8

/-!
# Questions about a node

The kind and the precedence of a node, its operand slots, and the number of arguments it takes. An
unset node answers none of them.

* `Predicate.argCount` — the arguments that the whole tree takes from one cursor when no combinator
  stops early; counts stop at the largest 64-bit word.
* `Predicate.directArgCount` — the arguments that the node takes itself.
-/

set_option autoImplicit false

namespace Criteria

/-- The largest count. -/
def countLimit : Nat := 0xffffffffffffffff

/-- A count as a 64-bit word holds it. -/
def capCount (n : Nat) : Nat := min n countLimit

namespace Predicate

def kind : Predicate → Except Fault Kind
  | unset => .error (.unsetNode .kind)
  | type _ => .ok .type
  | charset .. => .ok .charset
  | string _ => .ok .string
  | unary op _ => .ok op.kind
  | binary op _ _ => .ok op.kind
  | boolean op _ => .ok op.kind
  | regex .. => .ok .regex
  | compare op _ => .ok op.kind
  | property .. => .ok .property
  | member _ => .ok .member
  | shift .. => .ok .shift
  | function .. => .ok .function

end Predicate

mutual

/-- The precedence of the operand as generated source; names and literals are atoms. -/
def Operand.precedence : Operand → Except Fault Precedence
  | .nested p => p.precedence
  | .unset => .ok .memberAccess
  | .literal _ => .ok .memberAccess

/-- The precedence of the outermost operator of the node as generated source. -/
def Predicate.precedence : Predicate → Except Fault Precedence
  | .unset => .error (.unsetNode .precedence)
  | .type mask =>
    match mask.names with
    | [] => .ok .memberAccess
    | [_] => .ok .equality
    | _ => .ok .logicalOr
  | .unary op _ => .ok op.precedence
  | .binary op _ _ => .ok op.precedence
  | .boolean op _ => .ok op.precedence
  | .compare op _ => .ok op.precedence
  | .shift _ x => x.precedence
  | _ => .ok .memberAccess

end

namespace Predicate

/-- The labels of the slots that `values` returns, in the same order. -/
def keys : Predicate → Except Fault (List String)
  | unset => .error (.unsetNode .keys)
  | type _ => .ok []
  | regex .. => .ok []
  | charset .. => .ok ["set"]
  | string _ => .ok ["string"]
  | unary .. => .ok ["predicate"]
  | compare .. => .ok ["predicate"]
  | shift .. => .ok ["predicate"]
  | binary .. => .ok ["left", "right"]
  | boolean _ xs => .ok ((List.range xs.length).map toString)
  | property .. => .ok ["atom", "predicate"]
  | member _ => .ok ["object"]
  | function .. => .ok ["func"]

/-- The operands of the node. Literal text is returned as a string, a missing property name or
filter as `undefined`. -/
def values : Predicate → Except Fault (List Operand)
  | unset => .error (.unsetNode .values)
  | type _ => .ok []
  | regex .. => .ok []
  | charset _ set => .ok [.literal (.str set)]
  | string start => .ok [.literal (.str (String.ofList (Text.Utf8.decodeLossy start)))]
  | unary _ x => .ok [x]
  | shift _ x => .ok [x]
  | compare _ stored => .ok [.literal stored]
  | binary _ left right => .ok [left, right]
  | boolean _ xs => .ok xs
  | property name filter =>
    .ok [.literal ((name.map Value.str).getD .undefined), filter.getD (.literal .undefined)]
  | member target => .ok [.literal target]
  | function f _ _ => .ok [.literal (.function f)]

/-- The arguments a property node takes: the object, and the key when it has no name. -/
def propertyArgCount (name : Option String) : Nat := if name.isSome then 1 else 2

end Predicate

mutual

/-- The arguments the slot takes: one when unset, those of a nested tree, none for a literal. -/
def Operand.argCount : Operand → Except Fault Nat
  | .unset => .ok 1
  | .nested p => p.argCount
  | .literal _ => .ok 0

/-- The arguments the tree takes from one cursor. A property filter has a cursor of its own. -/
def Predicate.argCount : Predicate → Except Fault Nat
  | .unset => .error (.unsetNode .recursiveArgCount)
  | .type _ => .ok 1
  | .charset .. => .ok 1
  | .string _ => .ok 1
  | .compare .. => .ok 1
  | .regex .. => .ok 1
  | .member _ => .ok 1
  | .unary _ x => x.argCount
  | .binary _ left right => do
    let l ← left.argCount
    let r ← right.argCount
    return capCount (l + r)
  | .boolean _ xs => Operand.argCounts xs
  | .property name _ => .ok (Predicate.propertyArgCount name)
  | .shift count x => do
    let n ← x.argCount
    return capCount (count + n)
  | .function _ _ arity => .ok (capCount arity)

/-- The arguments that a list of slots takes. -/
def Operand.argCounts : List Operand → Except Fault Nat
  | [] => .ok 0
  | x :: rest => do
    let n ← x.argCount
    let m ← Operand.argCounts rest
    return capCount (n + m)

end

/-- One for an unset slot, which takes an argument. -/
def Operand.directArgCount (x : Operand) : Nat := if x.isUnset then 1 else 0

/-- The arguments the node takes itself, nested trees left out. -/
def Predicate.directArgCount : Predicate → Except Fault Nat
  | .unset => .error (.unsetNode .directArgCount)
  | .unary _ x => .ok x.directArgCount
  | .binary _ left right => .ok (left.directArgCount + right.directArgCount)
  | .boolean _ xs => .ok (xs.filter Operand.isUnset).length
  | .property name _ => .ok (Predicate.propertyArgCount name)
  | .shift count _ => .ok count
  | .function _ _ arity => .ok arity
  | _ => .ok 1

end Criteria
