/-!
# Type categories

A `TypeMask` is a set of the thirteen type categories. A type test holds a mask, and every value
belongs to one or more categories.

* `TypeMask.categories` — the members in bit order.
* `TypeMask.names` — the names a type test is written with; the composite masks `primitive`,
  `number` and `all` have a name of their own.
* `TypeMask.label` — the form used in dumps.
-/

set_option autoImplicit false

namespace Criteria

/-- A type category of values. The three wide number categories are tested for by no value. -/
inductive TypeCategory where
  | undefined | null | bool | int | object | string | symbol
  | bigFloat | bigInt | bigDecimal | float64 | function | array
  deriving DecidableEq, Repr

namespace TypeCategory

/-- Every category, in bit order. -/
def all : List TypeCategory :=
  [.undefined, .null, .bool, .int, .object, .string, .symbol,
    .bigFloat, .bigInt, .bigDecimal, .float64, .function, .array]

/-- The position of the category's bit. -/
def index : TypeCategory → Nat
  | .undefined => 0
  | .null => 1
  | .bool => 2
  | .int => 3
  | .object => 4
  | .string => 5
  | .symbol => 6
  | .bigFloat => 7
  | .bigInt => 8
  | .bigDecimal => 9
  | .float64 => 10
  | .function => 11
  | .array => 12

/-- The name in dumps. -/
def label : TypeCategory → String
  | .undefined => "UNDEFINED"
  | .null => "NULL"
  | .bool => "BOOL"
  | .int => "INT"
  | .object => "OBJECT"
  | .string => "STRING"
  | .symbol => "SYMBOL"
  | .bigFloat => "BIG_FLOAT"
  | .bigInt => "BIG_INT"
  | .bigDecimal => "BIG_DECIMAL"
  | .float64 => "FLOAT64"
  | .function => "FUNCTION"
  | .array => "ARRAY"

/-- The name in generated source. -/
def name : TypeCategory → String
  | .undefined => "undefined"
  | .null => "null"
  | .bool => "boolean"
  | .int => "int"
  | .object => "object"
  | .string => "string"
  | .symbol => "symbol"
  | .bigFloat => "bigfloat"
  | .bigInt => "bigint"
  | .bigDecimal => "bigdecimal"
  | .float64 => "float64"
  | .function => "function"
  | .array => "array"

end TypeCategory

/-- A set of type categories, one bit each. -/
structure TypeMask where
  bits : BitVec 13
  deriving DecidableEq, Repr

namespace TypeMask

/-- The mask with the given bits; bits that belong to no category are dropped. -/
def ofNat (n : Nat) : TypeMask := ⟨BitVec.ofNat 13 n⟩

def empty : TypeMask := ⟨0⟩

/-- The mask of one category. -/
def single (c : TypeCategory) : TypeMask := ⟨BitVec.twoPow 13 c.index⟩

def union (a b : TypeMask) : TypeMask := ⟨a.bits ||| b.bits⟩

/-- The categories of `a` that are not in `b`. -/
def without (a b : TypeMask) : TypeMask := ⟨a.bits &&& ~~~b.bits⟩

/-- The mask of some categories. -/
def ofList (cs : List TypeCategory) : TypeMask := cs.foldl (fun m c => m.union (single c)) empty

/-- Whether every category of `b` is in `a`. -/
def contains (a b : TypeMask) : Bool := a.bits &&& b.bits == b.bits

/-- Whether the masks share a category. -/
def intersects (a b : TypeMask) : Bool := a.bits &&& b.bits != 0

/-- The number categories. -/
def number : TypeMask := ofList [.int, .bigFloat, .bigInt, .bigDecimal, .float64]

/-- The categories of values without properties. -/
def primitive : TypeMask :=
  (ofList [.undefined, .null, .bool, .string, .symbol]).union number

/-- Every category. -/
def all : TypeMask := primitive.union (ofList [.object, .function, .array])

/-- The members of the mask, in bit order. -/
def categories (m : TypeMask) : List TypeCategory :=
  TypeCategory.all.filter fun c => m.contains (single c)

/-- The names of the mask in generated source: a composite that is fully set comes first under its
own name, then the names of the remaining categories in bit order. -/
def names (m : TypeMask) : List String :=
  if m = all then ["all"]
  else if m.contains primitive then
    "primitive" :: (m.without primitive).categories.map TypeCategory.name
  else if m.contains number then
    "number" :: (m.without number).categories.map TypeCategory.name
  else m.categories.map TypeCategory.name

/-- The mask in dumps: its labels joined by bars, or `0` for the empty mask. -/
def label (m : TypeMask) : String :=
  match m.categories with
  | [] => "0"
  | cs => String.intercalate "|" (cs.map TypeCategory.label)

end TypeMask

end Criteria
