import Criteria.Value.Basic

/-!
# The store of arrays and objects

Arrays and objects are shared and mutable: a reference names a cell of the store, and every copy of
the reference sees a change to the cell.

* Arrays grow with `undefined` when written past their end.
* An object keeps its entries in order of first insertion, one per key. Its prototype is fixed when
  it is created and is an older object, so the chain of prototypes is finite.
-/

set_option autoImplicit false

namespace Criteria

/-- Entries in insertion order. -/
abbrev Entries := List (String × Value)

/-- The value stored under a key. -/
def Entries.get? (key : String) : Entries → Option Value
  | [] => none
  | (k, v) :: rest => if k = key then some v else Entries.get? key rest

/-- Stores a value under a key: an old key keeps its place, a new one comes last. -/
def Entries.put (key : String) (value : Value) : Entries → Entries
  | [] => [(key, value)]
  | (k, v) :: rest => if k = key then (k, value) :: rest else (k, v) :: Entries.put key value rest

/-- Entries from a list of pairs; a repeated key keeps its first place and its last value. -/
def Entries.ofPairs (pairs : List (String × Value)) : Entries :=
  pairs.foldl (fun entries (k, v) => Entries.put k v entries) []

/-- The contents of an object. -/
structure ObjectCell where
  entries : Entries
  prototype : Option ObjectRef

/-- The cells behind array and object references, and the number of symbols made so far. -/
structure Store where
  arrays : Array (List Value) := #[]
  objects : Array ObjectCell := #[]
  symbols : Nat := 0

namespace Store

instance : Inhabited Store := ⟨{}⟩

/-! ## Creation -/

def newArray (s : Store) (items : List Value) : ArrayRef × Store :=
  (⟨s.arrays.size⟩, { s with arrays := s.arrays.push items })

def newObject (s : Store) (pairs : List (String × Value)) (prototype : Option ObjectRef) :
    ObjectRef × Store :=
  (⟨s.objects.size⟩, { s with objects := s.objects.push ⟨Entries.ofPairs pairs, prototype⟩ })

def newSymbol (s : Store) : SymbolRef × Store :=
  (⟨s.symbols⟩, { s with symbols := s.symbols + 1 })

/-! ## Arrays -/

/-- The elements of an array. -/
def items (s : Store) (a : ArrayRef) : List Value := s.arrays[a.index]?.getD []

/-- Replaces the elements of an array. -/
def setItems (s : Store) (a : ArrayRef) (items : List Value) : Store :=
  { s with arrays := s.arrays.setIfInBounds a.index items }

/-- The elements cut or padded with `undefined` to exactly `n`. -/
def resized (n : Nat) (items : List Value) : List Value :=
  items.take n ++ List.replicate (n - items.length) .undefined

/-- Stores an element, growing the array as needed. -/
def setItem (s : Store) (a : ArrayRef) (i : Nat) (v : Value) : Store :=
  let items := s.items a
  s.setItems a ((resized (max items.length (i + 1)) items).set i v)

/-- Cuts or pads an array to a length. -/
def setLength (s : Store) (a : ArrayRef) (n : Nat) : Store := s.setItems a (resized n (s.items a))

def pushItem (s : Store) (a : ArrayRef) (v : Value) : Store := s.setItems a (s.items a ++ [v])

/-! ## Objects -/

/-- The own entries of an object. -/
def entries (s : Store) (o : ObjectRef) : Entries :=
  match s.objects[o.index]? with
  | some cell => cell.entries
  | none => []

def prototype? (s : Store) (o : ObjectRef) : Option ObjectRef :=
  match s.objects[o.index]? with
  | some cell => cell.prototype
  | none => none

/-- An own property; the prototype chain is not consulted. -/
def getOwn? (s : Store) (o : ObjectRef) (key : String) : Option Value := (s.entries o).get? key

/-- Sets an own property. -/
def setOwn (s : Store) (o : ObjectRef) (key : String) (v : Value) : Store :=
  match s.objects[o.index]? with
  | some cell =>
    let cell := { cell with entries := cell.entries.put key v }
    { s with objects := s.objects.setIfInBounds o.index cell }
  | none => s

/-- At most `fuel` prototypes of an object, nearest first. -/
def prototypesUpTo (s : Store) : Nat → ObjectRef → List ObjectRef
  | 0, _ => []
  | fuel + 1, o =>
    match s.prototype? o with
    | some p => p :: s.prototypesUpTo fuel p
    | none => []

/-- The prototypes of an object, nearest first. A prototype is older than the objects that inherit
from it, so there are at most as many as older objects. -/
def prototypes (s : Store) (o : ObjectRef) : List ObjectRef := s.prototypesUpTo o.index o

/-- A property of an object or of the nearest prototype that owns it. -/
def get? (s : Store) (o : ObjectRef) (key : String) : Option Value :=
  (o :: s.prototypes o).findSome? fun p => s.getOwn? p key

/-- Whether an object or one of its prototypes owns a property. -/
def has (s : Store) (o : ObjectRef) (key : String) : Bool := (s.get? o key).isSome

/-- Whether `p` is on the prototype chain of `o`. -/
def isPrototypeOf (s : Store) (p o : ObjectRef) : Bool := (s.prototypes o).contains p

end Store

end Criteria
