import Criteria.Regex.Expr.Choice
import Criteria.Unicode.ByteSequence

/-!
# The size of automata

A pattern stands for two automata: one reads a text forwards and records the captures, the other
reads it backwards and records none. A pattern with an automaton of more than `sizeLimit` bytes is
refused before anything is built.

A state takes 32 bytes, an edge with a byte range 8 more, a branch of a choice 4 more. A repetition
takes a copy of what it repeats for each round that is counted.

* `Tally` — the states and edges that were built so far.
* `Expr.footprint` — what the automaton of an expression adds to them.
* `Expr.isTooLarge` — whether one of the two automata is too large.
-/

set_option autoImplicit false

namespace Criteria.Regex

open Unicode (ByteRange CodeSet)

/-- The bytes that an automaton may take. -/
def sizeLimit : Nat := 10 * 1024 * 1024

/-- How an automaton reads. -/
inductive Direction where
  | forward
  | backward
  deriving DecidableEq, Repr

/-- What was built so far. States are numbered in the order in which they are built. -/
structure Tally where
  states : Nat := 0
  /-- The bytes of edges and branches. -/
  edges : Nat := 0
  deriving DecidableEq, Repr

namespace Tally

/-- The bytes that an automaton takes. -/
def bytes (t : Tally) : Nat := 32 * t.states + t.edges

/-- Adds some states and the bytes of some edges. -/
def add (t : Tally) (states edges : Nat) : Tally := ⟨t.states + states, t.edges + edges⟩

/-- Adds all that another tally counts. -/
def join (t other : Tally) : Tally := t.add other.states other.edges

/-- Builds `count` copies one by one, until there is no room for more. -/
def repeatedly (step : Tally → Tally) : Nat → Tally → Tally
  | 0, t => t
  | count + 1, t => if sizeLimit < t.bytes then t else repeatedly step count (step t)

/-- Builds `count` copies. Forwards all of them are of one size. -/
def copies (d : Direction) (step : Tally → Tally) (count : Nat) (t : Tally) : Tally :=
  match d with
  | .forward =>
    let one := step {}
    t.add (count * one.states) (count * one.edges)
  | .backward => repeatedly step count t

end Tally

/-! ## Sets of characters, forwards

The automaton of a set reads the byte sequences of its members. It is the smallest one: what two of
its states read on from differs. So a state is given by what is left to be read. -/

/-- Byte sequences by their first range, each range with what may follow it. -/
def byFirstRange : List (List ByteRange) → List (ByteRange × List (List ByteRange))
  | [] => []
  | [] :: rest => byFirstRange rest
  | (range :: tail) :: rest =>
    match byFirstRange rest with
    | [] => [(range, [tail])]
    | (next, tails) :: others =>
      if range = next then (next, tail :: tails) :: others
      else (range, [tail]) :: (next, tails) :: others

/-- What may be left to be read after one byte of some sequences, the end apart. -/
def afterOne (left : List (List ByteRange)) : List (List (List ByteRange)) :=
  ((byFirstRange left).map Prod.snd).filter fun tails => !tails.all List.isEmpty

/-- What may be left to be read after at most `count` bytes. -/
def afterAtMost : Nat → List (List (List ByteRange)) → List (List (List ByteRange))
  | 0, states => states
  | count + 1, states => states ++ afterAtMost count (states.flatMap afterOne).eraseDups

/-- The automaton of a set, forwards. -/
def forwardSet (set : CodeSet) : Tally :=
  let states := (afterAtMost 3 [set.byteSequences]).eraseDups
  let edges := states.foldl (fun n left => n + (byFirstRange left).length) 0
  ⟨states.length + 1, 8 * edges⟩

/-! ## Sets of characters, backwards

Here each byte sequence is a branch of its own, and branches share the states of what their
sequences begin with. The states to share are kept in a table in which a new state takes the place
of an old one, so that now and then one is built again. -/

/-- A state that reads one byte and leads to another state. -/
structure Step where
  target : Nat
  range : ByteRange
  deriving DecidableEq, Repr

/-- The number of places in the table. -/
def placeCount : Nat := 1000

/-- The place of a state in the table: a hash of the numbers that it consists of. -/
def Step.place (s : Step) : Nat :=
  let mix (hash : UInt64) (n : Nat) : UInt64 := (hash ^^^ UInt64.ofNat n) * 0x100000001b3
  (mix (mix (mix 0xcbf29ce484222325 s.target) s.range.low) s.range.high).toNat % placeCount

/-- The table of states to share, with their numbers. -/
abbrev SharedSteps := Array (Option (Step × Nat))

/-- The number of a state in the table. -/
def SharedSteps.find? (table : SharedSteps) (s : Step) : Option Nat :=
  match table[s.place]? with
  | some (some (other, number)) => if other = s then some number else none
  | _ => none

/-- Builds what reads a sequence backwards and goes on at the state `target`. -/
def backwardSequence : List ByteRange → Nat → SharedSteps × Tally → SharedSteps × Tally
  | [], _, built => built
  | range :: rest, target, (table, t) =>
    let step : Step := ⟨target, range⟩
    match table.find? step with
    | some number => backwardSequence rest number (table, t)
    | none =>
      let table := table.setIfInBounds step.place (some (step, t.states))
      backwardSequence rest t.states (table, t.add 1 0)

/-- Builds the automaton of a set, backwards: the choice, its end, and the branches. -/
def backwardSet (set : CodeSet) (t : Tally) : Tally :=
  let table : SharedSteps := Array.replicate placeCount none
  let finish := t.states + 1
  (set.byteSequences.foldl
    (fun built sequence =>
      let (table, t) := backwardSequence sequence finish built
      (table, t.add 0 4))
    (table, t.add 2 0)).2

/-! ## Choices between texts

A choice between texts is a tree: texts that begin alike share what they begin with. Where a text
ends inside another one, those after it are kept apart from those before it, as it is preferred to
them. -/

/-- The bytes of an expression that matches a single text. -/
def Expr.text? : Expr → Option (List Nat)
  | .char ⟨[(low, high)]⟩ => if low = high then some (Unicode.utf8Bytes low) else none
  | .byte ⟨[(low, high)]⟩ => if low = high then some [low] else none
  | .cat a b => do return (← a.text?) ++ (← b.text?)
  | _ => none

/-- Texts in groups, cut where one is at its end. -/
def cutAtEnds : List (List Nat) → List (List (List Nat))
  | [] => [[]]
  | [] :: rest => [] :: cutAtEnds rest
  | text :: rest =>
    match cutAtEnds rest with
    | group :: others => (text :: group) :: others
    | [] => [[text]]

/-- What follows each first byte of some texts. -/
def afterFirst (texts : List (List Nat)) : List (List (List Nat)) :=
  (texts.filterMap List.head?).eraseDups.map fun byte =>
    texts.filterMap fun text => if text.head? = some byte then some text.tail else none

/-- The tree of some texts, which are no longer than `depth`. -/
def textTree : Nat → List (List Nat) → Tally
  | 0, _ => {}
  | depth + 1, texts =>
    if texts.all List.isEmpty then {}
    else
      let groups := (cutAtEnds texts).map afterFirst
      let own := groups.foldl
        (fun t below =>
          if below.isEmpty then t
          else if below.length = 1 then t.add 1 4
          else t.add 1 (4 + 8 * below.length))
        ⟨1, 4 * (groups.length - 1)⟩
      groups.flatten.foldl (fun t texts => t.join (textTree depth texts)) own

/-! ## Expressions -/

/-- Where an expression stands in a choice. The choice itself is built after its second branch. -/
inductive Standing where
  | alone
  | first
  | second
  | later
  deriving DecidableEq, Repr

/-- Adds a finished branch to its choice. -/
def Standing.finish (s : Standing) (t : Tally) : Tally :=
  match s with
  | alone => t
  | first => t.add 0 4
  | second => t.add 2 4
  | later => t.add 0 4

namespace Expr

/-- The automaton of a set of characters. An ASCII set needs two states, a single character one for
each byte of its form. -/
def setFootprint (d : Direction) (set : CodeSet) (t : Tally) : Tally :=
  match (char set).text? with
  | some bytes => t.add bytes.length 0
  | none =>
    if set.isAscii then t.add 2 (8 * set.ranges.length)
    else
      match d with
      | .forward => t.join (forwardSet set)
      | .backward => backwardSet set t

/-- What is built after the states and edges of a tally for an expression. -/
def footprint (d : Direction) : Expr → Standing → Tally → Tally
  | empty, s, t => s.finish (t.add 1 0)
  | look _, s, t => s.finish (t.add 1 0)
  | char set, s, t => s.finish (setFootprint d set t)
  | byte set, s, t =>
    s.finish (if (byte set).text?.isSome then t.add 1 0 else t.add 2 (8 * set.ranges.length))
  | cat a b, s, t =>
    s.finish <| match d with
      | .forward => b.footprint d .alone (a.footprint d .alone t)
      | .backward => a.footprint d .alone (b.footprint d .alone t)
  | alt a b, .alone, t =>
    match (alt a b).branches.mapM text? with
    | some texts =>
      let texts := match d with
        | .forward => texts
        | .backward => texts.map List.reverse
      (t.add 1 0).join (textTree ((texts.map List.length).foldl max 0) texts)
    | none => b.footprint d .second (a.footprint d .first t)
  | alt a b, .second, t => b.footprint d .later (a.footprint d .second t)
  | alt a b, _, t => b.footprint d .later (a.footprint d .later t)
  | repetition 0 (some 1) _ sub, s, t =>
    s.finish ((sub.footprint d .alone (t.add 1 8)).add 1 0)
  | repetition 0 none _ sub, s, t =>
    s.finish <|
      if sub.canBeEmpty then (sub.footprint d .alone t).add 3 16
      else sub.footprint d .alone (t.add 1 8)
  | repetition min none _ sub, s, t =>
    s.finish ((Tally.copies d (sub.footprint d .alone) min t).add 1 8)
  | repetition min (some most) _ sub, s, t =>
    let counted := Tally.copies d (sub.footprint d .alone) min t
    s.finish <|
      if min = most then counted
      else
        let t := (if min = 0 then t.add 1 0 else counted).add 1 0
        Tally.copies d (fun t => sub.footprint d .alone (t.add 1 8)) (most - min) t
  | capture _ sub, s, t =>
    s.finish <| match d with
      | .forward => (sub.footprint d .alone (t.add 1 0)).add 1 0
      | .backward => sub.footprint d .alone t

/-- The automaton of a pattern. It skips bytes before a match unless no match can come after others,
and it ends in a state of its own. -/
def automaton (d : Direction) (e : Expr) : Tally :=
  let anchored := match d with
    | .forward => e.startsAnchored
    | .backward => e.endsAnchored
  let t : Tally := if anchored then ⟨1, 0⟩ else ⟨3, 16⟩
  ((capture 0 e).footprint d .alone t).add 1 0

/-- Whether an automaton of the pattern is larger than allowed. -/
def isTooLarge (e : Expr) : Bool :=
  sizeLimit < (e.automaton .forward).bytes || sizeLimit < (e.automaton .backward).bytes

end Expr

end Criteria.Regex
