import Criteria.Predicate.Query

/-!
# Parameter names

The names that generated source gives to the arguments a predicate takes. Names are handed out in
order from a list; past its end a fresh name is made from a hint. After a rewind the same names are
handed out again.

* `ParamNames.next` — hands out a name.
* `ParamNames.seeded` — the list `a, b, …, z, a1, b1, …`.
-/

set_option autoImplicit false

namespace Criteria

/-- Why source could not be generated. -/
inductive RenderFailure where
  /-- The list of names cannot grow to the requested length. -/
  | allocation (requested : Nat)
  | fault (f : Fault)
  deriving DecidableEq, Repr

/-- The text of a failed allocation. -/
def allocationMessage (requested : Nat) : String :=
  "failed to reserve " ++ toString requested ++ " parameter name slots"

/-- The length that a list of names can have: a name takes 24 bytes, and a list takes fewer than
`2^63`. -/
def nameCapacity : Nat := 0x7fffffffffffffff / 24

/-- Parameter names in order, and how many of them were handed out. -/
structure ParamNames where
  names : Array String := #[]
  /-- The names in use, to look them up. -/
  taken : List String := []
  position : Nat := 0
  deriving DecidableEq, Repr

/-- Steps that hand out names. -/
abbrev Naming := EStateM RenderFailure ParamNames

namespace ParamNames

/-- Appends a name that is not in use yet; one that is changes nothing. -/
def insert (ns : ParamNames) (name : String) : ParamNames :=
  if ns.taken.contains name then ns
  else { ns with names := ns.names.push name, taken := name :: ns.taken }

/-- The first of `hint2, hint3, …` from `n` on that is not taken, among `fuel` of them. -/
def freshFrom (taken : List String) (hint : String) : Nat → Nat → String
  | 0, _ => hint
  | fuel + 1, n =>
    let candidate := hint ++ toString n
    if taken.contains candidate then freshFrom taken hint fuel (n + 1) else candidate

/-- A name that is not in use: the hint, or the hint with the least number from 2 on. One more
candidate than there are names in use is enough. -/
def fresh (ns : ParamNames) (hint : String) : String :=
  if ns.taken.contains hint then freshFrom ns.taken hint (ns.taken.length + 1) 2 else hint

/-- The generated name of an argument: a letter, with the number of the round after the first
round of letters. -/
def letterName (index : Nat) : String :=
  let letter := String.singleton (Char.ofNat ('a'.toNat + index % 26))
  if index < 26 then letter else letter ++ toString (index / 26)

/-- Inserts the generated names from `index` on. -/
def insertLetters (ns : ParamNames) : Nat → Nat → ParamNames
  | 0, _ => ns
  | count + 1, index => (ns.insert (letterName index)).insertLetters count (index + 1)

/-- A list of so many generated names. -/
def seeded (count : Nat) : Except RenderFailure ParamNames :=
  if nameCapacity < count then .error (.allocation count)
  else .ok (({} : ParamNames).insertLetters count 0)

/-- A list of given names; a repeated one is kept once. -/
def ofNames (names : List String) : ParamNames := names.foldl insert {}

/-- Starts handing out from the beginning again. -/
def rewind (ns : ParamNames) : ParamNames := { ns with position := 0 }

/-- The names handed out since an earlier position. -/
def since (ns : ParamNames) (start : Nat) : List String :=
  (ns.names.toList.take ns.position).drop start

end ParamNames

namespace Naming

open ParamNames

/-- Hands out the next name, made from the hint when the list is used up. -/
def next (hint : String) : Naming String := do
  let ns ← get
  if ns.names.size ≤ ns.position ∧ nameCapacity < ns.names.size + 1 then
    throw (.allocation (ns.names.size + 1))
  let ns := if ns.position < ns.names.size then ns else ns.insert (ns.fresh hint)
  set { ns with position := ns.position + 1 }
  return ns.names.getD ns.position hint

/-- Makes sure that `count` more names can be handed out. -/
def reserve (count : Nat) : Naming Unit := do
  let ns ← get
  let needed := capCount (ns.position + count)
  if ns.names.size < needed ∧ nameCapacity < needed then throw (.allocation needed)

/-- Hands out so many names. -/
def nextMany (hint : String) : Nat → Naming (List String)
  | 0 => return []
  | count + 1 => do
    let name ← next hint
    return name :: (← nextMany hint count)

def ofExcept {α : Type} : Except Fault α → Naming α
  | .ok a => return a
  | .error f => throw (.fault f)

end Naming

end Criteria
