import Criteria.Regex.Search
import Criteria.Store

/-!
# Captures as values

The spans of a match, exported as an array of pairs of offsets. A group that took no part is `null`.
-/

set_option autoImplicit false

namespace Criteria

/-- The spans of the groups of a match, the whole match first. -/
abbrev Spans := List (Option (Nat × Nat))

namespace Store

/-- A span as a pair of offsets. -/
def exportSpan (s : Store) : Option (Nat × Nat) → Value × Store
  | some (a, b) =>
    let (ref, s) := s.newArray [.int (Int64.ofNat a), .int (Int64.ofNat b)]
    (.array ref, s)
  | none => (.null, s)

/-- Spans as a list of values. -/
def exportSpans (s : Store) : Spans → List Value × Store
  | [] => ([], s)
  | span :: rest =>
    let (v, s) := s.exportSpan span
    let (vs, s) := s.exportSpans rest
    (v :: vs, s)

/-- At most `limit` spans in a new array. -/
def exportCaptures (s : Store) (spans : Spans) (limit : Nat) : Value × Store :=
  let (vs, s) := s.exportSpans (spans.take limit)
  let (ref, s) := s.newArray vs
  (.array ref, s)

/-- Replaces the contents of an array by at most `limit` spans. -/
def fillCaptures (s : Store) (sink : ArrayRef) (spans : Spans) (limit : Nat) : Store :=
  let (vs, s) := s.exportSpans (spans.take limit)
  s.setItems sink vs

end Store

end Criteria
