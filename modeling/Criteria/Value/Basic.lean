import Criteria.TypeMask

/-!
# Values

The values that predicates observe and produce. Arrays and objects are references into a store, so
a `Value` itself is a flat datum: copying it copies the handle. Symbols and functions carry an
identity of their own.
-/

set_option autoImplicit false

namespace Criteria

/-- The identity of an array in a store. -/
structure ArrayRef where
  index : Nat
  deriving DecidableEq, Repr

/-- The identity of an object in a store. -/
structure ObjectRef where
  index : Nat
  deriving DecidableEq, Repr

/-- The identity of a symbol. -/
structure SymbolRef where
  index : Nat
  deriving DecidableEq, Repr

/-- The identity of the code behind a host callable. -/
structure Closure where
  index : Nat
  deriving DecidableEq, Repr

/-- A host callable. Copies that differ in prototype or source text share the closure, which is
what identifies the callable. -/
structure Function where
  name : String
  arity : Nat
  closure : Closure
  /-- The object that instances of this constructor inherit from. -/
  prototype : Option ObjectRef := none
  /-- Source text, shown in place of the name. -/
  source : Option String := none
  deriving DecidableEq, Repr

/-- A runtime value. -/
inductive Value where
  | undefined
  | null
  | bool (b : Bool)
  | int (n : Int64)
  | float (x : Float)
  | str (s : String)
  | symbol (ref : SymbolRef) (description : String)
  | bytes (data : List UInt8)
  | array (ref : ArrayRef)
  | object (ref : ObjectRef)
  | function (f : Function)

namespace Value

instance : Inhabited Value := ⟨.undefined⟩

/-- The categories a value belongs to. -/
def typeMask : Value → TypeMask
  | undefined => .single .undefined
  | null => .single .null
  | bool _ => .single .bool
  | int _ => .single .int
  | float _ => .single .float64
  | str _ => .single .string
  | symbol .. => .single .symbol
  | bytes _ => .single .object
  | object _ => .single .object
  | array _ => .ofList [.object, .array]
  | function _ => .ofList [.object, .function]

/-- The short type name used in error messages. -/
def typeName : Value → String
  | undefined => "undefined"
  | null => "null"
  | bool _ => "boolean"
  | int _ => "number"
  | float _ => "number"
  | str _ => "string"
  | symbol .. => "symbol"
  | bytes _ => "arraybuffer"
  | array _ => "array"
  | object _ => "object"
  | function _ => "function"

/-- Whether a property node reads properties of the value. -/
def isObject : Value → Bool
  | bytes _ => true
  | array _ => true
  | object _ => true
  | function _ => true
  | _ => false

def isUndefined : Value → Bool
  | undefined => true
  | _ => false

/-- `undefined`, `null`, `false`, the zeros, NaN and the empty string are falsy. -/
def isTruthy : Value → Bool
  | undefined => false
  | null => false
  | bool b => b
  | int n => n != 0
  | float x => x != 0 && !x.isNaN
  | str s => !s.isEmpty
  | _ => true

end Value

end Criteria
