import Criteria.Unicode.CategoryTable
import Criteria.Unicode.CodeSet

/-!
# Categories by name

The general categories and the one-letter groups of them, each under its names. Names are in the
form in which names are compared: lower-case letters and digits alone.

* `categorySet` — the code points of a category or of a group.
* `assigned`, `unassigned` — the code points that are a character's, and those that are not.
* `categoryNamed?` — a category, a group, or one of three special classes.
-/

set_option autoImplicit false

namespace Criteria.Unicode

/-- The general categories and the groups of them, each with its names and its tables. -/
def categories : List (List String × List String) :=
  let lu := [CategoryTable.uppercaseLetter]
  let ll := [CategoryTable.lowercaseLetter]
  let lt := [CategoryTable.titlecaseLetter]
  let lm := [CategoryTable.modifierLetter]
  let lo := [CategoryTable.otherLetter]
  let mn := [CategoryTable.nonspacingMark]
  let mc := [CategoryTable.spacingMark]
  let me := [CategoryTable.enclosingMark]
  let nd := [CategoryTable.decimalNumber]
  let nl := [CategoryTable.letterNumber]
  let no := [CategoryTable.otherNumber]
  let pc := [CategoryTable.connectorPunctuation]
  let pd := [CategoryTable.dashPunctuation]
  let ps := [CategoryTable.openPunctuation]
  let pe := [CategoryTable.closePunctuation]
  let pi := [CategoryTable.initialPunctuation]
  let pf := [CategoryTable.finalPunctuation]
  let po := [CategoryTable.otherPunctuation]
  let sm := [CategoryTable.mathSymbol]
  let sc := [CategoryTable.currencySymbol]
  let sk := [CategoryTable.modifierSymbol]
  let so := [CategoryTable.otherSymbol]
  let zs := [CategoryTable.spaceSeparator]
  let zl := [CategoryTable.lineSeparator]
  let zp := [CategoryTable.paragraphSeparator]
  let cc := [CategoryTable.control]
  let cf := [CategoryTable.format]
  let co := [CategoryTable.privateUse]
  [(["lu", "uppercaseletter"], lu), (["ll", "lowercaseletter"], ll),
    (["lt", "titlecaseletter"], lt), (["lm", "modifierletter"], lm), (["lo", "otherletter"], lo),
    (["mn", "nonspacingmark"], mn), (["mc", "spacingmark"], mc), (["me", "enclosingmark"], me),
    (["nd", "decimalnumber", "digit"], nd), (["nl", "letternumber"], nl),
    (["no", "othernumber"], no),
    (["pc", "connectorpunctuation"], pc), (["pd", "dashpunctuation"], pd),
    (["ps", "openpunctuation"], ps), (["pe", "closepunctuation"], pe),
    (["pi", "initialpunctuation"], pi), (["pf", "finalpunctuation"], pf),
    (["po", "otherpunctuation"], po),
    (["sm", "mathsymbol"], sm), (["sc", "currencysymbol"], sc), (["sk", "modifiersymbol"], sk),
    (["so", "othersymbol"], so),
    (["zs", "spaceseparator"], zs), (["zl", "lineseparator"], zl),
    (["zp", "paragraphseparator"], zp),
    (["cc", "control", "cntrl"], cc), (["cf", "format"], cf), (["co", "privateuse"], co),
    (["l", "letter"], lu ++ ll ++ lt ++ lm ++ lo), (["lc", "casedletter"], lu ++ ll ++ lt),
    (["m", "mark", "combiningmark"], mn ++ mc ++ me), (["n", "number"], nd ++ nl ++ no),
    (["p", "punctuation", "punct"], pc ++ pd ++ ps ++ pe ++ pi ++ pf ++ po),
    (["s", "symbol"], sm ++ sc ++ sk ++ so), (["z", "separator"], zs ++ zl ++ zp)]

/-- The tables of a category or of a group, by one of its names. -/
def categoryTables (name : String) : List String :=
  match categories.find? fun c => c.1.contains name with
  | some c => c.2
  | none => []

/-- The code points of a category or of a group, by one of its names. -/
def categorySet (name : String) : CodeSet := CodeSet.ofTables (categoryTables name)

/-- The code points that are assigned to a character. -/
def assigned : CodeSet := CodeSet.ofTables (categories.flatMap Prod.snd)

/-- The code points that are neither assigned nor surrogates. -/
def unassigned : CodeSet := CodeSet.scalars.difference assigned

/-- A general category, a group of them, or one of three special classes. -/
def categoryNamed? (name : String) : Option CodeSet :=
  if name = "any" then some CodeSet.scalars
  else if name = "assigned" then some assigned
  else if name = "ascii" then some CodeSet.ascii
  else if name = "cn" ∨ name = "unassigned" then some unassigned
  else if name = "c" ∨ name = "other" then
    some (CodeSet.unions (unassigned :: ["cc", "cf", "co"].map categorySet))
  else
    match categoryTables name with
    | [] => none
    | tables => some (CodeSet.ofTables tables)

end Criteria.Unicode
