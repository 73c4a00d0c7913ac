import Criteria.Text.Digits

/-!
# Sets of code points

A set of code points as a list of closed ranges in increasing order. Union and complement are the
base operations; intersection and the differences are built from them.
-/

set_option autoImplicit false

namespace Criteria.Unicode

/-- Closed ranges of code points, in increasing order and with gaps between them. -/
structure CodeSet where
  ranges : List (Nat × Nat)
  deriving DecidableEq, Repr

/-- The last code point. -/
def lastCode : Nat := 0x10ffff

namespace CodeSet

def empty : CodeSet := ⟨[]⟩

def range (low high : Nat) : CodeSet := ⟨[(low, high)]⟩

def single (n : Nat) : CodeSet := range n n

def isEmpty (s : CodeSet) : Bool := s.ranges.isEmpty

/-- Membership in ranges; the search ends at the first range beyond `n`. -/
def inRanges (n : Nat) : List (Nat × Nat) → Bool
  | [] => false
  | (low, high) :: rest => if n < low then false else n ≤ high || inRanges n rest

def contains (s : CodeSet) (n : Nat) : Bool := inRanges n s.ranges

/-- Joins ranges that touch or overlap, in a list sorted by its low ends, onto an open range. -/
def joinFrom (low high : Nat) : List (Nat × Nat) → List (Nat × Nat)
  | [] => [(low, high)]
  | (a, b) :: rest =>
    if a ≤ high + 1 then joinFrom low (max high b) rest else (low, high) :: joinFrom a b rest

/-- The set of all code points in some ranges, given in any order. -/
def ofRanges (ranges : List (Nat × Nat)) : CodeSet :=
  match ranges.mergeSort fun a b => a.1 ≤ b.1 with
  | [] => empty
  | (low, high) :: rest => ⟨joinFrom low high rest⟩

def union (a b : CodeSet) : CodeSet := ofRanges (a.ranges ++ b.ranges)

def unions (sets : List CodeSet) : CodeSet := ofRanges (sets.flatMap CodeSet.ranges)

/-- The gaps between ranges, from the code point `next` on. -/
def gapsFrom (next : Nat) : List (Nat × Nat) → List (Nat × Nat)
  | [] => if next ≤ lastCode then [(next, lastCode)] else []
  | (low, high) :: rest =>
    if next < low then (next, low - 1) :: gapsFrom (high + 1) rest else gapsFrom (high + 1) rest

/-- The code points that are not in the set. -/
def complement (s : CodeSet) : CodeSet := ⟨gapsFrom 0 s.ranges⟩

def difference (a b : CodeSet) : CodeSet := (a.complement.union b).complement

def intersection (a b : CodeSet) : CodeSet := (a.complement.union b.complement).complement

def symmetricDifference (a b : CodeSet) : CodeSet :=
  (a.difference b).union (b.difference a)

/-- The code points that characters have: all but the surrogates. -/
def scalars : CodeSet := ⟨[(0, 0xd7ff), (0xe000, lastCode)]⟩

/-- The values of a byte. -/
def bytes : CodeSet := range 0 0xff

def ascii : CodeSet := range 0 0x7f

/-- Whether all members are ASCII. -/
def isAscii (s : CodeSet) : Bool := s.ranges.all fun (_, high) => high < 0x80

/-! ## Tables -/

/-- A range of a table: one hexadecimal number, or two joined by a hyphen. -/
def parseRange? (text : String) : Option (Nat × Nat) :=
  match text.splitOn "-" with
  | [one] => (Text.hex? one.toList).map fun n => (n, n)
  | [low, high] =>
    match Text.hex? low.toList, Text.hex? high.toList with
    | some a, some b => some (a, b)
    | _, _ => none
  | _ => none

/-- The set written as ranges separated by spaces and line ends. -/
def ofTable (text : String) : CodeSet :=
  ⟨((text.splitOn "\n").flatMap fun line => line.splitOn " ").filterMap parseRange?⟩

/-- The union of the sets of some tables. -/
def ofTables (tables : List String) : CodeSet := unions (tables.map ofTable)

end CodeSet

end Criteria.Unicode
