/-!
# Patterns between slashes

A pattern is written between slashes, where neither a bare slash nor a line end can stand. Escapes
that are there already are copied.
-/

set_option autoImplicit false

namespace Criteria.Render

/-- The escape of a line end. -/
def lineEscape? (c : Char) : Option (List Char) :=
  if c = '\n' then some ['\\', 'n']
  else if c = '\r' then some ['\\', 'r']
  else if c = '\u2028' then some "\\u2028".toList
  else if c = '\u2029' then some "\\u2029".toList
  else none

/-- A character after a backslash; a line end takes its escape instead of the backslash. -/
def escapeAfterBackslash (c : Char) : List Char := (lineEscape? c).getD ['\\', c]

/-- A character that no backslash precedes. -/
def escapePlain (c : Char) : List Char :=
  if c = '/' then ['\\', '/'] else (lineEscape? c).getD [c]

/-- The characters of a pattern as they stand between the slashes. -/
def escapeBody : List Char → List Char
  | [] => []
  | '\\' :: c :: rest => escapeAfterBackslash c ++ escapeBody rest
  | c :: rest => escapePlain c ++ escapeBody rest

/-- A pattern as it stands between the slashes; the empty one is written as a group, since two
slashes would start a comment. -/
def escapeRegex (source : String) : String :=
  if source.isEmpty then "(?:)" else String.ofList (escapeBody source.toList)

end Criteria.Render
