import Criteria.Number.Parts

/-!
# The shortest decimal of a double

The reals that round to a double form an interval around it, ends included when the mantissa is
even. Among the decimal grids `…, 10², 10, 1, 10⁻¹, …` the coarsest one with a point in the
interval fixes the number of digits, and of its points next to the value the nearer one is taken,
the upper one on a tie. All of it is exact integer arithmetic.
-/

set_option autoImplicit false

namespace Criteria.Number

/-- A value with the ends of its rounding interval, all over one denominator. -/
structure Interval where
  low : Nat
  value : Nat
  high : Nat
  denominator : Nat
  /-- Whether the ends themselves round to the value. -/
  closed : Bool
  deriving DecidableEq, Repr

/-- The rounding interval of `m · 2^e`. Below a power of two the next double is half as far. -/
def Interval.ofParts (m : Nat) (e : Int) : Interval :=
  let below := if m = hiddenBit then 1 else 2
  let scale (n : Nat) : Nat := if 2 ≤ e then n <<< (e - 2).toNat else n
  { low := scale (4 * m - below), value := scale (4 * m), high := scale (4 * m + 2)
    denominator := if 2 ≤ e then 1 else 1 <<< (2 - e).toNat
    closed := m % 2 = 0 }

/-- The interval measured in units of `10^k`. -/
def Interval.inUnits (i : Interval) (k : Int) : Interval :=
  if 0 ≤ k then { i with denominator := i.denominator * Nat.pow 10 k.toNat }
  else
    let factor := Nat.pow 10 (-k).toNat
    { i with low := i.low * factor, value := i.value * factor, high := i.high * factor }

/-- Whether the integer `n` lies in the interval. -/
def Interval.holds (i : Interval) (n : Nat) : Bool :=
  let scaled := n * i.denominator
  if i.closed then i.low ≤ scaled && scaled ≤ i.high else i.low < scaled && scaled < i.high

/-- The integer next to the value that lies in the interval: the nearer of two, and the upper one
when both are equally near. -/
def Interval.nearest? (i : Interval) : Option Nat :=
  let down := i.value / i.denominator
  match i.holds down, i.holds (down + 1) with
  | false, false => none
  | true, false => some down
  | false, true => some (down + 1)
  | true, true =>
    if 2 * (i.value - down * i.denominator) < i.denominator then some down else some (down + 1)

/-- The first grid at or below `10^k` with a point in the interval, tried for `fuel` grids. -/
def Interval.coarsest? (i : Interval) : Nat → Int → Option (Nat × Int)
  | 0, _ => none
  | fuel + 1, k =>
    match (i.inUnits k).nearest? with
    | some n => some (n, k)
    | none => i.coarsest? fuel (k - 1)

/-- A power of ten that no double of mantissa `m` and exponent `e` reaches, close to the value:
`log10 2` lies just below `30103 / 100000`. -/
def decimalCeiling (m : Nat) (e : Int) : Int :=
  (e + m.log2 + 1) * 30103 / 100000 + 1

/-- The shortest decimal `n · 10^k` that reads back as `m · 2^e`, for `0 < m`. Twenty-one grids
suffice: seventeen digits always do, and the first grid is at most three digits too coarse. -/
def shortest (m : Nat) (e : Int) : Nat × Int :=
  ((Interval.ofParts m e).coarsest? 21 (decimalCeiling m e)).getD (0, 0)

end Criteria.Number
