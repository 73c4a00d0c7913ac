import Criteria.Unicode.Category
import Criteria.Unicode.PropertyTable

/-!
# Characters of identifiers

Identifiers follow Unicode 17, one edition after the classes of patterns. That edition added letters
and numbers and took none away.

* `isAlphabetic` — the characters that an identifier may start with.
* `isAlphanumeric` — the characters that it may go on with.
-/

set_option autoImplicit false

namespace Criteria.Unicode

/-- The alphabetic code points that Unicode 17 added. -/
def newAlphabetic : String :=
  "88f c5c cdc a7ce-a7cf a7d2 a7d4 a7f1 10940-10959 10ec5-10ec7 10efa-10efb 11b60-11b67
   11db0-11ddb 16ea0-16eb8 16ebb-16ed3 16ff2-16ff6 187f8-187ff 18d09-18d1e 18d80-18df2
   1e6c0-1e6de 1e6e0-1e6f5 1e6fe-1e6ff 2b73a-2b73f 2cea2-2cead 323b0-33479"

/-- The numbers that Unicode 17 added. -/
def newNumber : String := "11de0-11de9 16ff4-16ff6"

/-- The alphabetic code points. -/
def alphabeticSet : CodeSet :=
  CodeSet.ofTables [PropertyTable.alphabetic.members, newAlphabetic]

/-- The alphabetic code points and the numbers of any kind. -/
def alphanumericSet : CodeSet :=
  CodeSet.ofTables
    ([PropertyTable.alphabetic.members, newAlphabetic, newNumber] ++ categoryTables "n")

/-- Whether a character is alphabetic; the tables are asked past ASCII only. -/
def isAlphabetic (c : Char) : Bool :=
  if c.toNat < 0x80 then c.isAlpha else alphabeticSet.contains c.toNat

/-- Whether a character is alphabetic or a number; the tables are asked past ASCII only. -/
def isAlphanumeric (c : Char) : Bool :=
  if c.toNat < 0x80 then c.isAlphanum else alphanumericSet.contains c.toNat

end Criteria.Unicode
