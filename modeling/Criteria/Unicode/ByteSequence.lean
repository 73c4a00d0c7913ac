import Criteria.Unicode.CodeSet

/-!
# Sets of code points as sequences of byte ranges

The UTF-8 forms of a range of code points are not a range of byte strings. But a range falls into
pieces whose forms are all the strings with each byte in a range of its own, and `byteSequences`
lists those: of a set, in increasing order.
-/

set_option autoImplicit false

namespace Criteria.Unicode

/-- The bytes from `low` to `high`. -/
structure ByteRange where
  low : Nat
  high : Nat
  deriving DecidableEq, Repr, Hashable

/-- The UTF-8 form of a code point. -/
def utf8Bytes (n : Nat) : List Nat :=
  let tail (shift : Nat) : Nat := 0x80 + (n >>> shift) % 64
  if n < 0x80 then [n]
  else if n < 0x800 then [0xc0 + (n >>> 6), tail 0]
  else if n < 0x10000 then [0xe0 + (n >>> 12), tail 6, tail 0]
  else [0xf0 + (n >>> 18), tail 12, tail 6, tail 0]

/-- Cuts a range at each block of which it holds a part: what stands before the first whole block,
the whole blocks, and what stands after the last. The whole blocks are cut again at larger blocks,
64 times the size, `levels` times at most. A range within one block is not cut. -/
def cutAtBlocks : Nat → Nat → Nat → Nat → List (Nat × Nat)
  | 0, _, low, high => [(low, high)]
  | levels + 1, block, low, high =>
    if low / block = high / block then [(low, high)]
    else
      let first := (low + block - 1) / block * block
      let after := (high + 1) / block * block
      (if low < first then [(low, first - 1)] else []) ++
        (if first < after then cutAtBlocks levels (64 * block) first (after - 1) else []) ++
        (if after ≤ high then [(after, high)] else [])

/-- The code points between which UTF-8 forms differ in length, and the surrogates, which have
none. -/
def formLimits : List (Nat × Nat) :=
  [(0, 0x7f), (0x80, 0x7ff), (0x800, 0xd7ff), (0xe000, 0xffff), (0x10000, lastCode)]

/-- The byte ranges of the forms of a range of code points, which has to be a piece. -/
def pieceBytes (low high : Nat) : List ByteRange :=
  List.zipWith ByteRange.mk (utf8Bytes low) (utf8Bytes high)

/-- The sequences of byte ranges that make up the UTF-8 forms of a range of code points. -/
def rangeSequences (low high : Nat) : List (List ByteRange) :=
  formLimits.flatMap fun (least, greatest) =>
    let low := max low least
    let high := min high greatest
    if high < low then []
    else if greatest < 0x80 then [[⟨low, high⟩]]
    else (cutAtBlocks 3 64 low high).map fun (a, b) => pieceBytes a b

/-- The sequences of byte ranges that make up the UTF-8 forms of a set. -/
def CodeSet.byteSequences (s : CodeSet) : List (List ByteRange) :=
  s.ranges.flatMap fun (low, high) => rangeSequences low high

end Criteria.Unicode
