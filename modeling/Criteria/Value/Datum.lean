import Criteria.Number.Integer
import Criteria.Number.Text
import Criteria.Store
import Criteria.Text.Quoted
import Criteria.Unicode.Identifier

/-!
# Values unfolded

A `Datum` is a value together with the contents of the arrays and objects it refers to, down to
every depth. Text, number, literal and equality of a value are read off its datum, by recursion on
the data.

* `Store.datum` — the datum of a value. It is exact when no array or object contains itself: nested
  containers are then different cells, so there are no more levels than cells.
* `Datum.text`, `Datum.number` — conversion to text and to a number.
* `Datum.literal` — source text that denotes the value.
* `Datum.same` — equality: structural on arrays and objects, by identity on symbols and functions.
-/

set_option autoImplicit false

namespace Criteria

/-- A value with the contents of its containers. The references keep the identity of each. -/
inductive Datum where
  | undefined
  | null
  | bool (b : Bool)
  | int (n : Int64)
  | float (x : Float)
  | str (s : String)
  | symbol (ref : SymbolRef) (description : String)
  | bytes (data : List UInt8)
  | array (ref : ArrayRef) (items : List Datum)
  | object (ref : ObjectRef) (entries : List (String × Datum))
  | function (f : Function)

/-- The datum of a value, with containers opened down to `depth` levels. -/
def Store.unfold (s : Store) : Nat → Value → Datum
  | _, .undefined => .undefined
  | _, .null => .null
  | _, .bool b => .bool b
  | _, .int n => .int n
  | _, .float x => .float x
  | _, .str t => .str t
  | _, .symbol ref description => .symbol ref description
  | _, .bytes data => .bytes data
  | _, .function f => .function f
  | 0, .array ref => .array ref []
  | 0, .object ref => .object ref []
  | depth + 1, .array ref => .array ref ((s.items ref).map (s.unfold depth))
  | depth + 1, .object ref =>
    .object ref ((s.entries ref).map fun (key, v) => (key, s.unfold depth v))

/-- The number of containers. -/
def Store.size (s : Store) : Nat := s.arrays.size + s.objects.size

/-- The datum of a value. -/
def Store.datum (s : Store) (v : Value) : Datum := s.unfold s.size v

namespace Datum

/-! ## Text -/

/-- The text of a callable without source text. -/
def nativeText (name : String) : String := "function " ++ name ++ "() \x7b [native code] \x7d"

mutual

/-- Conversion to text. -/
def text : Datum → String
  | undefined => "undefined"
  | null => "null"
  | bool true => "true"
  | bool false => "false"
  | int n => toString n.toInt
  | float x => Number.format x
  | str s => s
  | symbol _ description => "Symbol(" ++ description ++ ")"
  | bytes _ => "[object ArrayBuffer]"
  | array _ items => String.intercalate "," (elementTexts items)
  | object .. => "[object Object]"
  | function f => f.source.getD (nativeText f.name)

/-- The texts of array elements; `undefined` and `null` leave theirs empty. -/
def elementTexts : List Datum → List String
  | [] => []
  | undefined :: rest => "" :: elementTexts rest
  | null :: rest => "" :: elementTexts rest
  | d :: rest => d.text :: elementTexts rest

end

/-! ## Number -/

/-- Conversion to a number. An array of one element converts like the element, the empty array is
zero, and what has no number is NaN. -/
def number : Datum → Float
  | undefined => Number.nan
  | null => Number.ofDyadic false 0 0
  | bool b => if b then Number.ofDyadic false 1 0 else Number.ofDyadic false 0 0
  | int n => Float.ofInt n.toInt
  | float x => x
  | str s => Number.parse s.toList
  | array _ [] => Number.ofDyadic false 0 0
  | array _ [d] => d.number
  | _ => Number.nan

/-- Conversion to an integer: exact for integers and truth values, else by way of the number. -/
def int64 : Datum → Int64
  | int n => n
  | bool b => if b then 1 else 0
  | d => Number.toInt64 d.number

/-! ## Literal -/

/-- Whether an entry's key needs no quotes. -/
def isBareKey (key : String) : Bool :=
  match key.toList with
  | [] => false
  | c :: rest =>
    (Unicode.isAlphabetic c || c == '_' || c == '$') &&
      rest.all fun c => Unicode.isAlphanumeric c || c == '_' || c == '$'

/-- The name a callable is shown by: its source text, else its name, else a stand-in. -/
def functionLiteral (f : Function) : String :=
  match f.source with
  | some source => source
  | none => if f.name.isEmpty then "anonymous" else f.name

mutual

/-- Source text that denotes the value. -/
def literal : Datum → String
  | undefined => "undefined"
  | null => "null"
  | bool true => "true"
  | bool false => "false"
  | int n => toString n.toInt
  | float x => Number.format x
  | str s => Text.quote s
  | symbol _ description => "Symbol(" ++ Text.quote description ++ ")"
  | bytes data =>
    "new Uint8Array([" ++ String.intercalate ", " (data.map fun b => toString b.toNat) ++
      "]).buffer"
  | array _ items => "[" ++ String.intercalate ", " (itemLiterals items) ++ "]"
  | object _ [] => "\x7b\x7d"
  | object _ entries => "\x7b " ++ String.intercalate ", " (entryLiterals entries) ++ " \x7d"
  | function f => functionLiteral f

def itemLiterals : List Datum → List String
  | [] => []
  | d :: rest => d.literal :: itemLiterals rest

def entryLiterals : List (String × Datum) → List String
  | [] => []
  | (key, d) :: rest =>
    ((if isBareKey key then key else Text.quote key) ++ ": " ++ d.literal) :: entryLiterals rest

end

/-! ## Equality -/

/-- The value under a key. -/
def lookUp (key : String) : List (String × Datum) → Option Datum
  | [] => none
  | (k, d) :: rest => if k = key then some d else lookUp key rest

mutual

/-- Equality of values. Integers and doubles compare as numbers; arrays and objects are equal when
they are the same cell or have equal contents, in whatever order an object has its keys. -/
def same : Datum → Datum → Bool
  | undefined, undefined => true
  | null, null => true
  | bool a, bool b => a == b
  | int a, int b => a == b
  | float a, float b => a == b
  | int a, float b => Float.ofInt a.toInt == b
  | float a, int b => Float.ofInt b.toInt == a
  | str a, str b => a == b
  | symbol a _, symbol b _ => a == b
  | bytes a, bytes b => a == b
  | array r xs, array q ys => r == q || sameItems xs ys
  | object r xs, object q ys => r == q || (xs.length == ys.length && sameEntries xs ys)
  | function f, function g => f.closure == g.closure
  | _, _ => false

def sameItems : List Datum → List Datum → Bool
  | [], [] => true
  | x :: xs, y :: ys => same x y && sameItems xs ys
  | _, _ => false

/-- Whether every entry of the first list has an equal one under its key in the second. -/
def sameEntries : List (String × Datum) → List (String × Datum) → Bool
  | [], _ => true
  | (key, x) :: rest, ys =>
    (match lookUp key ys with
      | some y => same x y
      | none => false) && sameEntries rest ys

end

end Datum

namespace Store

/-- Conversion to text. -/
def text (s : Store) (v : Value) : String := (s.datum v).text

/-- Conversion to a number. -/
def number (s : Store) (v : Value) : Float := (s.datum v).number

/-- Conversion to an integer. -/
def int64 (s : Store) (v : Value) : Int64 := (s.datum v).int64

/-- Source text that denotes the value. -/
def literal (s : Store) (v : Value) : String := (s.datum v).literal

/-- Equality of values. -/
def same (s : Store) (v w : Value) : Bool := (s.datum v).same (s.datum w)

end Store

end Criteria
