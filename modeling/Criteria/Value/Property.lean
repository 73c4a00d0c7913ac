import Criteria.Error
import Criteria.Store
import Criteria.Text.Digits

/-!
# Properties, prototypes and instances

Reading a property of a value. Arrays and strings have their length and their elements, byte buffers
and functions a few fixed properties, objects whatever they or their prototypes own.
-/

set_option autoImplicit false

namespace Criteria.Store

open Text (decimal? word?)

/-- The element index that a key denotes. -/
def elementIndex? (key : String) : Option Nat := word? decimal? key.toList

/-- The element of a sequence that a key denotes. -/
def elementAt? {α : Type} (xs : List α) (key : String) : Option α :=
  match elementIndex? key with
  | some i => xs[i]?
  | none => none

/-- A count as a value; counts past the largest integer stop there. -/
def countValue (n : Nat) : Value := .int (Int64.ofNat (min n 0x7fffffffffffffff))

/-- The property `length` of a sequence, or the element a key denotes. -/
def sequenceProperty (elements : List Value) (key : String) : Option Value :=
  if key = "length" then some (countValue elements.length) else elementAt? elements key

/-- The characters of a text, as values. -/
def characters (text : String) : List Value :=
  text.toList.map fun c => .str (String.singleton c)

/-- A property of a function. -/
def functionProperty (f : Function) (key : String) : Option Value :=
  if key = "name" then some (.str f.name)
  else if key = "length" then some (countValue f.arity)
  else if key = "prototype" then f.prototype.map .object
  else none

/-- A property of a value, or nothing when the value does not have it. -/
def property? (s : Store) (key : String) : Value → Option Value
  | .object o => s.get? o key
  | .array a => sequenceProperty (s.items a) key
  | .str text => sequenceProperty (characters text) key
  | .bytes data => if key = "byteLength" then some (countValue data.length) else none
  | .function f => functionProperty f key
  | _ => none

/-- Reads a property; one that is missing is `undefined`. Only `undefined` and `null` have no
properties to read at all. -/
def getProperty (s : Store) (v : Value) (key : String) : Except EvalError Value :=
  match v with
  | .undefined => .error (.notObject v.typeName)
  | .null => .error (.notObject v.typeName)
  | _ => .ok ((s.property? key v).getD .undefined)

/-- Whether a key denotes an element of a sequence of some length. -/
def hasElement (length : Nat) (key : String) : Bool :=
  match elementIndex? key with
  | some i => i < length
  | none => false

/-- Whether a value has a property. Nothing is read, so the cases are told again. -/
def hasProperty (s : Store) (v : Value) (key : String) : Bool :=
  match v with
  | .object o => s.has o key
  | .array a => key = "length" || hasElement (s.items a).length key
  | .function f => key = "name" || key = "length" || (key = "prototype" && f.prototype.isSome)
  | .str text => key = "length" || hasElement text.length key
  | .bytes _ => key = "byteLength"
  | _ => false

/-- The prototype of a value, `null` when there is none. -/
def prototypeOf (s : Store) : Value → Value
  | .object o =>
    match s.prototype? o with
    | some p => .object p
    | none => .null
  | _ => .null

/-- Whether a value is an instance of a constructor: an object with the constructor's prototype on
its chain. -/
def instanceOf (s : Store) (v ctor : Value) : Except EvalError Bool :=
  match ctor with
  | .function f =>
    match f.prototype, v with
    | some p, .object o => .ok (s.isPrototypeOf p o)
    | _, _ => .ok false
  | _ => .error (.typeMismatch "function" ctor.typeName)

end Criteria.Store

namespace Criteria.Value

/-- Whether two values are the same object, or both `null`. -/
def sameReference : Value → Value → Bool
  | .object a, .object b => a == b
  | .null, .null => true
  | _, _ => false

end Criteria.Value
