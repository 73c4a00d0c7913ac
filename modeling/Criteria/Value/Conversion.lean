import Criteria.Text.Utf8
import Criteria.Value.Datum

/-!
# What tests read from an argument

String and pattern tests read bytes, character-set tests read characters. A string gives its own, a
byte buffer gives its bytes, and anything else is converted to text first.
-/

set_option autoImplicit false

namespace Criteria.Store

/-- The bytes a string or pattern test reads. -/
def inputBytes (s : Store) : Value → List UInt8
  | .bytes data => data
  | v => Text.Utf8.encode (s.text v).toList

/-- The characters a character-set test reads; a byte counts as the code point of its value. -/
def inputChars (s : Store) : Value → List Char
  | .bytes data => data.map fun b => Char.ofNat b.toNat
  | v => (s.text v).toList

end Criteria.Store
