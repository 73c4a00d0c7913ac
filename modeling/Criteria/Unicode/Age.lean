import Criteria.Unicode.AgeTable
import Criteria.Unicode.CodeSet

/-!
# The age of code points

A code point has the age of the edition that assigned it. The class of an age holds all that the
edition knows: what it assigned itself and what the editions before it did.
-/

set_option autoImplicit false

namespace Criteria.Unicode

/-- The tables of the editions up to the one with a given name, in a list of editions. -/
def addedUpTo? (name : String) : List Edition → Option (List String)
  | [] => none
  | e :: later =>
    if e.names.contains name then some [e.added]
    else (addedUpTo? name later).map fun tables => e.added :: tables

/-- The code points assigned in an edition or before it, by one of the edition's names. -/
def ageNamed? (name : String) : Option CodeSet :=
  (addedUpTo? name editions).map CodeSet.ofTables

end Criteria.Unicode
