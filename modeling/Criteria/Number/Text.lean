import Criteria.Number.Shortest
import Criteria.Text.Blank
import Criteria.Text.Digits

/-!
# The text of a number

* `format` — integers below `2^53` as such, every other double with the fewest digits that read
  back, always positional; both zeros are `0`.
* `parse` — the number that a text denotes: blanks around it are dropped, the empty text is zero,
  and a text that is no numeral is NaN.
-/

set_option autoImplicit false

namespace Criteria.Number

open Criteria.Text

/-- The digits of `n · 10^k` in positional notation. -/
def positional (n : Nat) (k : Int) : List Char :=
  let digits := Nat.toDigits 10 n
  if 0 ≤ k then digits ++ List.replicate k.toNat '0'
  else
    let places := (-k).toNat
    if digits.length ≤ places then
      '0' :: '.' :: (List.replicate (places - digits.length) '0' ++ digits)
    else digits.take (digits.length - places) ++ '.' :: digits.drop (digits.length - places)

/-- The text of a finite magnitude. -/
def formatMagnitude (m : Nat) (e : Int) : List Char :=
  let whole := truncated m e
  let integral : Bool := 0 ≤ e || whole <<< (-e).toNat = m
  if integral && whole < 2 * hiddenBit then Nat.toDigits 10 whole
  else
    let (n, k) := shortest m e
    positional n k

/-- The text of a double. -/
def format (x : Float) : String :=
  match Parts.ofFloat x with
  | .nan => "NaN"
  | .infinite false => "Infinity"
  | .infinite true => "-Infinity"
  | .finite negative m e =>
    if m = 0 then "0"
    else
      let text := String.ofList (formatMagnitude m e)
      if negative then "-" ++ text else text

/-! ## Reading -/

/-- The value `n · 10^k`. Beyond the range of doubles the result is known without computing the
power: `n · 10^k` lies between `10^(d - 1 + k)` and `10^(d + k)` for a number `n` of `d` digits. -/
def ofDecimal (negative : Bool) (n : Nat) (k : Int) : Float :=
  let size : Int := (Nat.toDigits 10 n).length + k
  let magnitude :=
    if n = 0 || size < -330 then ofDyadic false 0 0
    else if 330 < size then infinity false
    else if 0 ≤ k then Float.ofScientific (n * Nat.pow 10 k.toNat) false 0
    else Float.ofScientific n true (-k).toNat
  if negative then -magnitude else magnitude

/-- An optional sign: whether it is a minus, and what follows it. -/
def splitSign : List Char → Bool × List Char
  | '+' :: rest => (false, rest)
  | '-' :: rest => (true, rest)
  | cs => (false, cs)

/-- The exponent part of a numeral: nothing, or `e` and a signed integer. -/
def exponent? : List Char → Option Int
  | [] => some 0
  | c :: rest =>
    if c = 'e' ∨ c = 'E' then
      let (negative, digits) := splitSign rest
      (decimal? digits).map fun n => if negative then -n else n
    else none

/-- A signed decimal numeral: digits with an optional fraction, or a fraction alone, then an
optional exponent. -/
def decimalNumeral? (cs : List Char) : Option Float :=
  let (negative, body) := splitSign cs
  let whole := body.takeWhile Char.isDigit
  let (fraction, tail) := match body.dropWhile Char.isDigit with
    | '.' :: rest => (rest.takeWhile Char.isDigit, rest.dropWhile Char.isDigit)
    | rest => ([], rest)
  match decimal? (whole ++ fraction), exponent? tail with
  | some n, some e => some (ofDecimal negative n (e - fraction.length))
  | _, _ => none

/-- The digits after `0x` or `0X`. -/
def hexBody? : List Char → Option (List Char)
  | '0' :: 'x' :: rest => some rest
  | '0' :: 'X' :: rest => some rest
  | _ => none

/-- The number a trimmed text denotes. -/
def parseTrimmed (cs : List Char) : Float :=
  if cs.isEmpty then ofDyadic false 0 0
  else if cs = "Infinity".toList ∨ cs = "+Infinity".toList then infinity false
  else if cs = "-Infinity".toList then infinity true
  else
    match hexBody? cs with
    | some digits =>
      match word? hex? digits with
      | some n => Float.ofInt n
      | none => nan
    | none => (decimalNumeral? cs).getD nan

/-- The number a text denotes. -/
def parse (cs : List Char) : Float := parseTrimmed (trim cs)

end Criteria.Number
