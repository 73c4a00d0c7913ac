import Criteria.Error
import Criteria.Predicate.Query
import Criteria.Regex.Program
import Criteria.Store

/-!
# What evaluation changes

Beside the cursor, an evaluation can change the store of arrays and objects and fill the caches of
nodes, and it can call host callables, which is recorded. All of this is a `World`.

A cache cell is empty until its node first needs the prepared form, and then keeps it for good. A
pattern that does not compile is kept as its error.
-/

set_option autoImplicit false

namespace Criteria

/-- What pattern preparation came to. -/
abbrev Prepared := Except Regex.PatternError Regex.Program

/-- The cache cells of character-set and pattern nodes. -/
structure Caches where
  charsets : Array (Option (List Char)) := #[]
  patterns : Array (Option Prepared) := #[]

namespace Caches

/-- A new cell for a character-set node. -/
def newCharset (c : Caches) (decoded : Option (List Char)) : CharsetCell × Caches :=
  (⟨c.charsets.size⟩, { c with charsets := c.charsets.push decoded })

/-- A new, empty cell for a pattern node. -/
def newPattern (c : Caches) : RegexCell × Caches :=
  (⟨c.patterns.size⟩, { c with patterns := c.patterns.push none })

/-- The characters of a set, if they were decoded before. -/
def decoded? (c : Caches) (cell : CharsetCell) : Option (List Char) :=
  c.charsets[cell.index]?.join

/-- The result of preparing a pattern, if that was tried before. -/
def prepared? (c : Caches) (cell : RegexCell) : Option Prepared :=
  c.patterns[cell.index]?.join

/-- The characters of a set, from the cell or else decoded into it. -/
def decode (c : Caches) (cell : CharsetCell) (set : String) : List Char × Caches :=
  match c.decoded? cell with
  | some chars => (chars, c)
  | none =>
    let chars := set.toList
    (chars, { c with charsets := c.charsets.setIfInBounds cell.index (some chars) })

/-- The prepared pattern, from the cell or else compiled into it. -/
def prepare (c : Caches) (cell : RegexCell) (source : String) (flags : Regex.Flags) :
    Prepared × Caches :=
  match c.prepared? cell with
  | some prepared => (prepared, c)
  | none =>
    let prepared := Regex.compile source flags
    (prepared, { c with patterns := c.patterns.setIfInBounds cell.index (some prepared) })

end Caches

/-- A call of a host callable, with the store as it was then. -/
structure Call where
  callee : Function
  receiver : Value
  args : List Value
  store : Store

/-- Everything but the cursor that an evaluation can change. -/
structure World where
  store : Store := {}
  caches : Caches := {}
  /-- The calls of host callables, in order. -/
  calls : Array Call := #[]

instance : Inhabited World := ⟨{}⟩

/-- Actions on the world. What was changed before a failure stays changed. -/
abbrev Action := EStateM Failure World

/-- What host callables do, given the receiver and the arguments. -/
abbrev Host := Closure → Value → List Value → Action Value

namespace Action

def raise {α : Type} (e : EvalError) : Action α := throw (.error e)

def fault {α : Type} (f : Fault) : Action α := throw (.fault f)

def ofExcept {α : Type} : Except EvalError α → Action α
  | .ok a => pure a
  | .error e => raise e

/-- What a function of the store gives now. -/
def read {α : Type} (f : Store → α) : Action α := return f (← get).store

/-- Changes the store. -/
def change {α : Type} (f : Store → α × Store) : Action α :=
  modifyGet fun w => let (a, store) := f w.store; (a, { w with store })

/-- Uses the caches. -/
def useCaches {α : Type} (f : Caches → α × Caches) : Action α :=
  modifyGet fun w => let (a, caches) := f w.caches; (a, { w with caches })

/-- The characters of a set. -/
def decode (cell : CharsetCell) (set : String) : Action (List Char) :=
  useCaches fun c => c.decode cell set

/-- The compiled pattern; an error when it does not compile. -/
def prepare (cell : RegexCell) (source : String) (flags : Regex.Flags) :
    Action Regex.Program := do
  match ← useCaches fun c => c.prepare cell source flags with
  | .ok program => return program
  | .error e => raise (.regexCompile source e.message)

/-- Calls a host callable and records the call. -/
def invoke (host : Host) (f : Function) (receiver : Value) (args : List Value) : Action Value := do
  modify fun w => { w with calls := w.calls.push ⟨f, receiver, args, w.store⟩ }
  host f.closure receiver args

end Action

/-! ## Making and copying nodes -/

namespace World

/-- A character-set node with a cell of its own. -/
def newCharset (w : World) (set : String) : Predicate × World :=
  let (cell, caches) := w.caches.newCharset none
  (.charset cell set, { w with caches })

/-- A pattern node with a cell of its own. -/
def newRegex (w : World) (source : String) (flags : Regex.Flags) : Predicate × World :=
  let (cell, caches) := w.caches.newPattern
  (.regex cell source flags, { w with caches })

/-- A copy of a node, which shares the nested trees. The copy of a character-set node keeps what is
decoded, the copy of a pattern node starts uncompiled. -/
def clone (w : World) : Predicate → Predicate × World
  | .charset cell set =>
    let (cell, caches) := w.caches.newCharset (w.caches.decoded? cell)
    (.charset cell set, { w with caches })
  | .regex _ source flags => w.newRegex source flags
  | p => (p, w)

end World

namespace Predicate

/-- Compiles the pattern of a pattern node; the number of its groups, the whole match included. -/
def compileRegex : Predicate → Action Nat
  | regex cell source flags => return (← Action.prepare cell source flags).groupCount
  | p =>
    match p.kind with
    | .ok kind => Action.fault (.notRegex kind)
    | .error _ => Action.fault (.unsetNode .compileRegex)

end Predicate

end Criteria
