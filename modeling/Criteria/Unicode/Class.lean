import Criteria.Unicode.Age
import Criteria.Unicode.Break
import Criteria.Unicode.Category
import Criteria.Unicode.CodeSet
import Criteria.Unicode.PropertyTable
import Criteria.Unicode.ScriptTable

/-!
# Unicode classes

The classes of characters that patterns are about, and the look-up of a class by name. Names are
compared loosely: case, blanks, underscores, hyphens and a leading `is` do not count.

* `wordSet`, `digitSet`, `blankSet` — the classes behind `\w`, `\d` and `\s`.
* `classNamed?`, `classByValue?` — the class behind `\p`.
-/

set_option autoImplicit false

namespace Criteria.Unicode

/-- The class behind `\d`: decimal digits of every script. -/
def digitSet : CodeSet := categorySet "nd"

/-- The class behind `\s`. -/
def blankSet : CodeSet := PropertyTable.whiteSpace.set

/-- The class behind `\w`: letters, marks, decimal digits, connectors and joiners. -/
def wordSet : CodeSet :=
  CodeSet.ofTables ([PropertyTable.alphabetic.members, PropertyTable.joinControl.members] ++
    categoryTables "m" ++ categoryTables "nd" ++ categoryTables "pc")

def isWord (c : Char) : Bool := wordSet.contains c.toNat

/-! ## Look-up by name -/

/-- A name in the form in which names are compared. -/
def looseName (name : String) : String :=
  let cs := name.toList
  let (hadIs, cs) := match cs with
    | a :: b :: rest =>
      if (a = 'i' ∨ a = 'I') ∧ (b = 's' ∨ b = 'S') then (true, rest) else (false, cs)
    | _ => (false, cs)
  let kept := cs.filterMap fun c =>
    if c = ' ' ∨ c = '_' ∨ c = '-' ∨ 0x7f < c.toNat then none else some c.toLower
  -- `isc` names a property, not the category `c`.
  if hadIs ∧ kept = ['c'] then "isc" else String.ofList kept

def scriptNamed? (name : String) : Option Script :=
  ScriptTable.all.find? fun s => s.names.contains name

def propertyNamed? (name : String) : Option CodeSet :=
  (PropertyTable.all.find? fun p => p.names.contains name).map Property.set

/-- The class with a given name: a binary property, a general category or a script. Three short
names of categories are names of other properties too, and mean the category. -/
def classNamed? (name : String) : Option CodeSet :=
  let name := looseName name
  let property :=
    if name = "cf" ∨ name = "sc" ∨ name = "lc" then none else propertyNamed? name
  property <|> categoryNamed? name <|> (scriptNamed? name).map Script.ownSet

/-- The properties that a class may be asked for by value. -/
inductive ValuedProperty where
  | generalCategory
  | script
  | scriptExtensions
  | age
  | graphemeBreak
  | wordBreak
  | sentenceBreak
  deriving DecidableEq, Repr

def ValuedProperty.ofName? : String → Option ValuedProperty
  | "gc" | "generalcategory" => some generalCategory
  | "sc" | "script" => some script
  | "scx" | "scriptextensions" => some scriptExtensions
  | "age" => some age
  | "gcb" | "graphemeclusterbreak" => some graphemeBreak
  | "wb" | "wordbreak" => some wordBreak
  | "sb" | "sentencebreak" => some sentenceBreak
  | _ => none

/-- The code points with a value of a property, by a name of the value. -/
def ValuedProperty.valueNamed? (value : String) : ValuedProperty → Option CodeSet
  | generalCategory => categoryNamed? value
  | script => (scriptNamed? value).map Script.ownSet
  | scriptExtensions => (scriptNamed? value).map Script.extendedSet
  | age => ageNamed? value
  | graphemeBreak => (GraphemeBreak.ofName? value).map GraphemeBreak.members
  | wordBreak => (WordBreak.ofName? value).map WordBreak.members
  | sentenceBreak => (SentenceBreak.ofName? value).map SentenceBreak.members

/-- The class of the code points for which a property has a value. -/
def classByValue? (property value : String) : Option CodeSet := do
  (← ValuedProperty.ofName? (looseName property)).valueNamed? (looseName value)

end Criteria.Unicode
