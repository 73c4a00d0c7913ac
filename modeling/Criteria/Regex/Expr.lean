import Criteria.Unicode.CodeSet

/-!
# Pattern expressions

What a pattern means once its flags are resolved: sets of characters or bytes, conditions on a
position, sequence, choice, repetition and capture.

* `Expr.canBeEmpty` — whether a match may consume nothing.
* `Expr.captureCount`, `Expr.lastCapture` — the capture groups that are left in the expression.
* `Expr.startsAnchored`, `Expr.endsAnchored` — whether every match begins at the start of the text,
  or ends at its end.
-/

set_option autoImplicit false

namespace Criteria.Regex

open Unicode (CodeSet)

/-- Conditions on a position. Word conditions take the Unicode or the ASCII word characters. -/
inductive Look where
  | textStart
  | textEnd
  | lineStart
  | lineEnd
  /-- Line boundaries where a carriage return ends a line too, and a pair ends it once. -/
  | lineStartCrlf
  | lineEndCrlf
  | word (unicode : Bool)
  | notWord (unicode : Bool)
  | wordStart (unicode : Bool)
  | wordEnd (unicode : Bool)
  | wordStartHalf (unicode : Bool)
  | wordEndHalf (unicode : Bool)
  deriving DecidableEq, Repr

/-- A pattern with its flags resolved. -/
inductive Expr where
  | empty
  /-- One character of a set, in UTF-8. -/
  | char (set : CodeSet)
  /-- One byte of a set. -/
  | byte (set : CodeSet)
  | look (l : Look)
  | cat (first second : Expr)
  /-- The first alternative is preferred. -/
  | alt (first second : Expr)
  | repetition (min : Nat) (max : Option Nat) (greedy : Bool) (sub : Expr)
  | capture (index : Nat) (sub : Expr)
  deriving DecidableEq

namespace Expr

/-- Whether every match consumes nothing. -/
def isZeroWidth : Expr → Bool
  | empty => true
  | look _ => true
  | char _ => false
  | byte _ => false
  | cat a b => a.isZeroWidth && b.isZeroWidth
  | alt a b => a.isZeroWidth && b.isZeroWidth
  | repetition _ max _ sub => max.isSome && sub.isZeroWidth
  | capture _ sub => sub.isZeroWidth

/-- Repeats an expression. One that consumes nothing is repeated at most once, no repetition at all
is the empty expression, and exactly one is the expression itself. -/
def repeated (min : Nat) (max : Option Nat) (greedy : Bool) (sub : Expr) : Expr :=
  let (min, max) :=
    if sub.isZeroWidth then (Nat.min min 1, some (Nat.min (max.getD 1) 1)) else (min, max)
  if max = some 0 then empty
  else if min = 1 ∧ max = some 1 then sub
  else repetition min max greedy sub

/-- Whether a match may consume nothing. -/
def canBeEmpty : Expr → Bool
  | empty => true
  | look _ => true
  | char _ => false
  | byte _ => false
  | cat a b => a.canBeEmpty && b.canBeEmpty
  | alt a b => a.canBeEmpty || b.canBeEmpty
  | repetition min _ _ sub => min == 0 || sub.canBeEmpty
  | capture _ sub => sub.canBeEmpty

/-- The number of capture groups. -/
def captureCount : Expr → Nat
  | cat a b => a.captureCount + b.captureCount
  | alt a b => a.captureCount + b.captureCount
  | repetition _ _ _ sub => sub.captureCount
  | capture _ sub => sub.captureCount + 1
  | _ => 0

/-- The largest index of a capture group, zero when there is none. -/
def lastCapture : Expr → Nat
  | cat a b => max a.lastCapture b.lastCapture
  | alt a b => max a.lastCapture b.lastCapture
  | repetition _ _ _ sub => sub.lastCapture
  | capture index sub => max index sub.lastCapture
  | _ => 0

/-- Whether every match begins at the start of the text. -/
def startsAnchored : Expr → Bool
  | look l => l = .textStart
  | cat a b => a.startsAnchored || (a.isZeroWidth && b.startsAnchored)
  | alt a b => a.startsAnchored && b.startsAnchored
  | repetition min _ _ sub => 0 < min && sub.startsAnchored
  | capture _ sub => sub.startsAnchored
  | _ => false

/-- Whether every match ends at the end of the text. -/
def endsAnchored : Expr → Bool
  | look l => l = .textEnd
  | cat a b => b.endsAnchored || (b.isZeroWidth && a.endsAnchored)
  | alt a b => a.endsAnchored && b.endsAnchored
  | repetition min _ _ sub => 0 < min && sub.endsAnchored
  | capture _ sub => sub.endsAnchored
  | _ => false

end Expr

end Criteria.Regex
