/-!
# UTF-8

* `Utf8.encode` — the bytes of a text.
* `Utf8.scan` — the character at the start of a byte sequence, or the ill-formed start of one.
* `Utf8.decodeLossy` — the text of any bytes, each ill-formed part replaced by U+FFFD.
-/

set_option autoImplicit false

namespace Criteria.Text.Utf8

/-- The bytes of a text. -/
def encode (cs : List Char) : List UInt8 := cs.flatMap String.utf8EncodeChar

/-- What a first byte announces: its own bits, the number of tail bytes, and the range of the first
of them, which excludes overlong forms, surrogates and values past U+10FFFF. -/
structure Lead where
  bits : Nat
  tails : Nat
  low : UInt8 := 0x80
  high : UInt8 := 0xbf
  deriving DecidableEq, Repr

/-- Reads a first byte. -/
def Lead.ofByte? (b : UInt8) : Option Lead :=
  if b ≤ 0x7f then some { bits := b.toNat, tails := 0 }
  else if b < 0xc2 then none
  else if b ≤ 0xdf then some { bits := b.toNat % 32, tails := 1 }
  else if b = 0xe0 then some { bits := 0, tails := 2, low := 0xa0 }
  else if b = 0xed then some { bits := 13, tails := 2, high := 0x9f }
  else if b ≤ 0xef then some { bits := b.toNat % 16, tails := 2 }
  else if b = 0xf0 then some { bits := 0, tails := 3, low := 0x90 }
  else if b ≤ 0xf3 then some { bits := b.toNat % 8, tails := 3 }
  else if b = 0xf4 then some { bits := 4, tails := 3, high := 0x8f }
  else none

/-- Adds `tails` tail bytes to the bits so far: the character, or nothing when a byte is no tail,
with the bytes that follow what was read. -/
def scanTails (bits : Nat) : Nat → UInt8 → UInt8 → List UInt8 → Option Char × List UInt8
  | 0, _, _, rest => (some (Char.ofNat bits), rest)
  | _ + 1, _, _, [] => (none, [])
  | tails + 1, low, high, b :: rest =>
    if low ≤ b ∧ b ≤ high then scanTails (64 * bits + b.toNat % 64) tails 0x80 0xbf rest
    else (none, b :: rest)

/-- The character at the start of `b :: rest`, or nothing for an ill-formed start; with the bytes
after it. An ill-formed start is as long as some well-formed character could begin like it. -/
def scan (b : UInt8) (rest : List UInt8) : Option Char × List UInt8 :=
  match Lead.ofByte? b with
  | some lead => scanTails lead.bits lead.tails lead.low lead.high rest
  | none => (none, rest)

/-- Decodes at most `fuel` characters. -/
def decodeUpTo : Nat → List UInt8 → List Char
  | 0, _ => []
  | _, [] => []
  | fuel + 1, b :: bytes =>
    let (c, rest) := scan b bytes
    c.getD '\ufffd' :: decodeUpTo fuel rest

/-- The text of any bytes; each ill-formed part becomes one U+FFFD. -/
def decodeLossy (bytes : List UInt8) : List Char := decodeUpTo bytes.length bytes

end Criteria.Text.Utf8
