import Criteria.Regex.Expr

/-!
# Sequences and choices

Expressions are put together in a short form, which matches what the long one does.

* `Expr.sequence` — the parts one after the other, without empty ones.
* `Expr.choice` — the first branch that matches. A choice between single characters is a set, and
  what all branches begin with is written once, before the choice.
-/

set_option autoImplicit false

namespace Criteria.Regex

open Unicode (CodeSet)

namespace Expr

/-! ## Sequences -/

/-- The parts of a sequence; the empty expression has none. -/
def parts : Expr → List Expr
  | empty => []
  | cat a b => a.parts ++ b.parts
  | e => [e]

/-- A sequence of parts that are no sequences themselves. -/
def ofParts : List Expr → Expr
  | [] => empty
  | [e] => e
  | e :: rest => cat e (ofParts rest)

/-- Some expressions one after the other. -/
def sequence (es : List Expr) : Expr := ofParts (es.flatMap parts)

/-- Whether the expression matches a single character or byte and nothing else. -/
def isLiteral : Expr → Bool
  | char ⟨[(low, high)]⟩ => low = high
  | byte ⟨[(low, high)]⟩ => low = high
  | _ => false

/-- Parts with each run of literals joined. -/
def joinLiterals : List Expr → List (List Expr)
  | [] => []
  | e :: rest =>
    match joinLiterals rest with
    | (next :: run) :: others =>
      if e.isLiteral && next.isLiteral then (e :: next :: run) :: others
      else [e] :: (next :: run) :: others
    | others => [e] :: others

/-! ## Choices -/

/-- The branches of a choice. -/
def branches : Expr → List Expr
  | alt a b => a.branches ++ b.branches
  | e => [e]

/-- A choice between branches that are no choices themselves. -/
def ofBranches : List Expr → Expr
  | [] => empty
  | [e] => e
  | e :: rest => alt e (ofBranches rest)

/-- The characters of a set. -/
def charSet? : Expr → Option CodeSet
  | char set => some set
  | _ => none

/-- The bytes of a set; an ASCII character is a byte. -/
def byteSet? : Expr → Option CodeSet
  | byte set => some set
  | char set => if set.isAscii then some set else none
  | _ => none

/-- A choice between branches, as one set where all of them are sets of one kind. -/
def merge (es : List Expr) : Expr :=
  match es with
  | [e] => e
  | es =>
    match es.mapM charSet?, es.mapM byteSet? with
    | some sets, _ => char (CodeSet.unions sets)
    | none, some sets => byte (CodeSet.unions sets)
    | none, none => ofBranches es

/-- What two lists begin with alike. -/
def commonStart {α : Type} [DecidableEq α] : List α → List α → List α
  | a :: as, b :: bs => if a = b then a :: commonStart as bs else []
  | _, _ => []

/-- The first branch that matches. Branches are compared part by part, a run of literals as one part;
only sequences of several parts share a start. -/
def choice (es : List Expr) : Expr :=
  let es := es.flatMap branches
  match es.map fun e => joinLiterals e.parts with
  | [] => merge es
  | first :: others =>
    let start := others.foldl commonStart first
    if others.isEmpty || start.isEmpty || (first :: others).any (·.length < 2) then merge es
    else
      let rests := (first :: others).map fun joined => ofParts (joined.drop start.length).flatten
      sequence (start.flatten ++ [merge (rests.flatMap branches)])

end Expr

end Criteria.Regex
