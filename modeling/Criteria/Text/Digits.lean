/-!
# Digits

Reading digit strings in base ten and sixteen, and writing hexadecimal.
-/

set_option autoImplicit false

namespace Criteria.Text

/-- The value of a hexadecimal digit, in either case. -/
def hexValue? (c : Char) : Option Nat :=
  if '0' ≤ c ∧ c ≤ '9' then some (c.toNat - '0'.toNat)
  else if 'a' ≤ c ∧ c ≤ 'f' then some (c.toNat - 'a'.toNat + 10)
  else if 'A' ≤ c ∧ c ≤ 'F' then some (c.toNat - 'A'.toNat + 10)
  else none

/-- The lower-case hexadecimal digit of a value below sixteen. -/
def hexDigit (n : Nat) : Char :=
  if n < 10 then Char.ofNat ('0'.toNat + n) else Char.ofNat ('a'.toNat + (n - 10))

/-- The last `width` hexadecimal digits of a number. -/
def hexFixed : Nat → Nat → List Char
  | 0, _ => []
  | width + 1, n => hexFixed width (n / 16) ++ [hexDigit (n % 16)]

/-- The value of a string of decimal digits, appended to `acc`. -/
def decimalFrom? (acc : Nat) : List Char → Option Nat
  | [] => some acc
  | c :: rest => if c.isDigit then decimalFrom? (10 * acc + (c.toNat - '0'.toNat)) rest else none

/-- The value of a nonempty string of decimal digits. -/
def decimal? (cs : List Char) : Option Nat :=
  if cs.isEmpty then none else decimalFrom? 0 cs

/-- The value of a string of hexadecimal digits, appended to `acc`. -/
def hexFrom? (acc : Nat) : List Char → Option Nat
  | [] => some acc
  | c :: rest =>
    match hexValue? c with
    | some d => hexFrom? (16 * acc + d) rest
    | none => none

/-- The value of a nonempty string of hexadecimal digits. -/
def hex? (cs : List Char) : Option Nat :=
  if cs.isEmpty then none else hexFrom? 0 cs

/-- One past the largest count and index: they are 64-bit words. -/
def wordLimit : Nat := 0x10000000000000000

/-- A word read by `read`, after an optional plus sign; too large a number is refused. -/
def word? (read : List Char → Option Nat) (cs : List Char) : Option Nat :=
  let digits := match cs with
    | '+' :: rest => rest
    | _ => cs
  match read digits with
  | some n => if n < wordLimit then some n else none
  | none => none

end Criteria.Text
