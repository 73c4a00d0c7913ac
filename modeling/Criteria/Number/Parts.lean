/-!
# Doubles as exact binary numbers

A double is read into sign, integer mantissa and binary exponent, and written back from them.
Text, remainder and integer conversion are computed on these parts in exact `Nat` and `Int`
arithmetic.

* `Parts.ofFloat` — the class of a double and, when it is finite, its value `±m · 2^e`.
* `ofDyadic` — the double with a given dyadic value, which has to be representable.
-/

set_option autoImplicit false

namespace Criteria.Number

/-- What the bits of a double denote. -/
inductive Parts where
  | nan
  | infinite (negative : Bool)
  /-- The value `mantissa · 2^exponent`, negated when `negative`. -/
  | finite (negative : Bool) (mantissa : Nat) (exponent : Int)
  deriving DecidableEq, Repr

/-- The hidden bit of a normal mantissa. -/
def hiddenBit : Nat := 0x10000000000000

/-- The weight of the sign bit. -/
def signBit : Nat := 0x8000000000000000

/-- The exponent of the subnormal doubles, which is also the least one. -/
def leastExponent : Int := -1074

/-- Reads a double: subnormals share the least exponent, normal ones add the hidden bit. -/
def Parts.ofFloat (x : Float) : Parts :=
  let bits := x.toBits.toNat
  let negative := decide (signBit ≤ bits)
  let biased := bits / hiddenBit % 2048
  let fraction := bits % hiddenBit
  if biased = 2047 then
    if fraction = 0 then .infinite negative else .nan
  else if biased = 0 then .finite negative fraction leastExponent
  else .finite negative (hiddenBit + fraction) (leastExponent + (biased - 1 : Nat))

/-- The bits of the magnitude `m · 2^e`, for a value that a finite double holds exactly. -/
def magnitudeBits (m : Nat) (e : Int) : Nat :=
  if m = 0 then 0
  else
    let top := m.log2
    -- Scale the mantissa to 53 bits, or as far as the least exponent allows.
    let target := max leastExponent (e + top - 52)
    let scaled := if target ≤ e then m <<< (e - target).toNat else m >>> (target - e).toNat
    if scaled < hiddenBit then scaled
    else ((target - leastExponent).toNat + 1) * hiddenBit + (scaled - hiddenBit)

/-- The double `±m · 2^e`. -/
def ofDyadic (negative : Bool) (m : Nat) (e : Int) : Float :=
  Float.ofBits (UInt64.ofNat ((if negative then signBit else 0) + magnitudeBits m e))

/-- Not a number. -/
def nan : Float := Float.ofBits 0x7ff8000000000000

/-- Positive or negative infinity. -/
def infinity (negative : Bool) : Float :=
  Float.ofBits (if negative then 0xfff0000000000000 else 0x7ff0000000000000)

/-- The magnitude of a finite value, rounded toward zero to an integer. -/
def truncated (m : Nat) (e : Int) : Nat :=
  if 0 ≤ e then m <<< e.toNat else m >>> (-e).toNat

end Criteria.Number
