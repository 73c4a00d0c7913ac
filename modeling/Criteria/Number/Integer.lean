import Criteria.Number.Parts

/-!
# Integers from doubles and remainders of doubles

* `toInt64` — truncation toward zero, wrapped modulo `2^64`; NaN and the infinities give zero.
* `remainder` — the truncated remainder, exact, with the sign of the dividend.
-/

set_option autoImplicit false

namespace Criteria.Number

/-- The integer part of a finite double, and zero for the others. -/
def toInt (x : Float) : Int :=
  match Parts.ofFloat x with
  | .finite negative m e =>
    let magnitude : Int := truncated m e
    if negative then -magnitude else magnitude
  | _ => 0

/-- The integer part, wrapped into 64 bits. -/
def toInt64 (x : Float) : Int64 := Int64.ofInt (toInt x)

/-- `x - y · trunc (x / y)`, computed without rounding. -/
def remainder (x y : Float) : Float :=
  match Parts.ofFloat x, Parts.ofFloat y with
  | .finite negative m e, .finite _ n f =>
    if n = 0 then nan
    else
      let shared := min e f
      let dividend := m <<< (e - shared).toNat
      let divisor := n <<< (f - shared).toNat
      ofDyadic negative (dividend % divisor) shared
  | .finite .., .infinite _ => x
  | _, _ => nan

end Criteria.Number
