import Criteria.Text.Blank

/-!
# Splicing a filter

A filter written `x => x.trim()` can be spliced onto the expression that it filters: what follows
the parameter in the body is appended to the expression. This needs exactly one parameter, and a
body that is the parameter followed by nothing or by a member access.
-/

set_option autoImplicit false

namespace Criteria.Render

open Text (trimLeft)

/-- Whether an identifier can start with the character. -/
def isIdentStart (c : Char) : Bool := c.isAlpha || c == '_' || c == '$'

/-- Whether an identifier can go on with the character. -/
def isIdentChar (c : Char) : Bool := c.isAlphanum || c == '_' || c == '$'

/-- Splits an identifier off the start. -/
def splitIdent? (cs : List Char) : Option (List Char × List Char) :=
  match cs with
  | [] => none
  | c :: _ =>
    if isIdentStart c then some (cs.takeWhile isIdentChar, cs.dropWhile isIdentChar) else none

/-- What follows an expected start. -/
def after? : List Char → List Char → Option (List Char)
  | [], cs => some cs
  | _, [] => none
  | e :: expected, c :: cs => if e = c then after? expected cs else none

/-- The parameter of an arrow function with one parameter, and what follows it. -/
def splitParam? (cs : List Char) : Option (List Char × List Char) :=
  match trimLeft cs with
  | '(' :: inner =>
    match splitIdent? (trimLeft inner) with
    | some (param, rest) => (after? [')'] (trimLeft rest)).map fun rest => (param, rest)
    | none => none
  | cs => splitIdent? cs

/-- Whether a tail may follow the expression a filter is spliced onto. -/
def isTail : List Char → Bool
  | [] => true
  | c :: _ => c == '.' || c == '['

/-- What follows the parameter in the body of an arrow function `x => x…` or `(x) => x…`, when that
is nothing or starts with a member access. -/
def tailOfArrow? (cs : List Char) : Option (List Char) :=
  match splitParam? cs with
  | none => none
  | some (param, rest) =>
    match after? ['=', '>'] (trimLeft rest) with
    | none => none
    | some body =>
      match after? param (trimLeft body) with
      | some tail => if isTail tail then some tail else none
      | none => none

/-- The tail of an arrow function that can be spliced. -/
def stripHeader? (source : String) : Option String :=
  (tailOfArrow? source.toList).map String.ofList

end Criteria.Render
