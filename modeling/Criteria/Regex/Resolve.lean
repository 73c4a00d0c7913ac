import Criteria.Regex.Ast
import Criteria.Regex.Error
import Criteria.Regex.Expr.Choice
import Criteria.Unicode.Class
import Criteria.Unicode.Folding

/-!
# Resolving flags

`Ast.resolve` turns a pattern tree into an expression. Flags switched inside the pattern hold from
there to the end of the enclosing group, across its branches.

With Unicode on, sets are sets of characters and case is folded by simple case folding. With Unicode
off they are sets of bytes and case is folded for ASCII letters only. A set is folded before it is
negated.
-/

set_option autoImplicit false

namespace Criteria.Regex

open Unicode (CodeSet)

/-- The flags that bear on the meaning of a part of a pattern. -/
structure Mode where
  ignoreCase : Bool := false
  multiline : Bool := false
  dotAll : Bool := false
  swapGreed : Bool := false
  unicode : Bool := true
  crlf : Bool := false
  deriving DecidableEq, Repr

namespace Mode

/-- The mode after a change of flags. -/
def switch (mode : Mode) (change : FlagChange) : Mode :=
  { ignoreCase := (change.setting? .ignoreCase).getD mode.ignoreCase
    multiline := (change.setting? .multiline).getD mode.multiline
    dotAll := (change.setting? .dotAll).getD mode.dotAll
    swapGreed := (change.setting? .swapGreed).getD mode.swapGreed
    unicode := (change.setting? .unicode).getD mode.unicode
    crlf := (change.setting? .crlf).getD mode.crlf }

/-- Everything that a set is a part of. -/
def domain (mode : Mode) : CodeSet := if mode.unicode then .scalars else .bytes

def negate (mode : Mode) (set : CodeSet) : CodeSet := mode.domain.difference set

/-- The set with the ASCII letters of the other case. -/
def foldAscii (set : CodeSet) : CodeSet :=
  let moved (low high : Nat) (shift : Nat → Nat) :=
    (set.intersection (.range low high)).ranges.map fun (a, b) => (shift a, shift b)
  CodeSet.ofRanges (set.ranges ++ moved 0x41 0x5a (· + 32) ++ moved 0x61 0x7a (· - 32))

/-- The set with the case variants of its members, where case is ignored. -/
def fold (mode : Mode) (set : CodeSet) : CodeSet :=
  if !mode.ignoreCase then set else if mode.unicode then set.foldCase else foldAscii set

/-- Folds a set and negates it if asked to. -/
def foldNegate (mode : Mode) (negated : Bool) (set : CodeSet) : CodeSet :=
  let folded := mode.fold set
  if negated then mode.negate folded else folded

/-- One byte of a set. A byte below 0x80 is a character of its own. -/
def byte (set : CodeSet) : Expr := if set.isAscii then .char set else .byte set

/-- The expression for one member of a set. -/
def member (mode : Mode) (set : CodeSet) : Expr := if mode.unicode then .char set else byte set

/-! ## Sets -/

/-- The class behind `\d`, `\s` or `\w`; it is closed under case folding. -/
def perlSet (mode : Mode) (cls : PerlClass) (negated : Bool) : CodeSet :=
  let set := match mode.unicode, cls with
    | true, .digit => Unicode.digitSet
    | true, .space => Unicode.blankSet
    | true, .word => Unicode.wordSet
    | false, .digit => ⟨AsciiClass.digit.ranges⟩
    | false, .space => ⟨AsciiClass.space.ranges⟩
    | false, .word => ⟨AsciiClass.word.ranges⟩
  if negated then mode.negate set else set

/-- The class behind `\p`. -/
def unicodeSet (mode : Mode) (name : ClassName) (negated : Bool) : Except PatternError CodeSet :=
  if !mode.unicode then .error .unicodeNotAllowed
  else
    let found := match name with
      | .named name => Unicode.classNamed? name
      | .valued property value => Unicode.classByValue? property value
    match found with
    | some set => .ok (mode.foldNegate negated set)
    | none => .error .unknownClass

/-- The code point that a literal adds to a set. -/
def literalCode (mode : Mode) (l : Literal) : Except PatternError Nat :=
  if mode.unicode || l.byteEscape || l.char.toNat < 0x80 then .ok l.char.toNat
  else .error .unicodeNotAllowed

/-- The result of an operator on two sets. -/
def combine (mode : Mode) (op : SetOp) (left right : CodeSet) : CodeSet :=
  let left := mode.fold left
  let right := mode.fold right
  match op with
  | .intersection => left.intersection right
  | .difference => left.difference right
  | .symmetricDifference => left.symmetricDifference right

mutual

def classSet (mode : Mode) : ClassSet → Except PatternError CodeSet
  | .union items => mode.classItems items
  | .combine op left right => do
    let l ← mode.classSet left
    let r ← mode.classSet right
    return mode.combine op l r

def classItem (mode : Mode) : ClassItem → Except PatternError CodeSet
  | .literal l => return .single (← mode.literalCode l)
  | .range first last => return .range (← mode.literalCode first) (← mode.literalCode last)
  | .ascii cls negated => return mode.foldNegate negated ⟨cls.ranges⟩
  | .perl cls negated => return mode.perlSet cls negated
  | .unicode name negated => mode.unicodeSet name negated
  | .nested negated set => return mode.foldNegate negated (← mode.classSet set)

def classItems (mode : Mode) : List ClassItem → Except PatternError CodeSet
  | [] => return .empty
  | item :: rest => return (← mode.classItem item).union (← mode.classItems rest)

end

/-! ## Parts -/

/-- One literal character. -/
def literal (mode : Mode) (l : Literal) : Expr :=
  let set := CodeSet.single l.char.toNat
  if !mode.unicode && l.byteEscape then byte (mode.fold set) else .char (mode.fold set)

/-- Any character or byte but, as the flags have it, line ends. -/
def dot (mode : Mode) : Expr :=
  let lineEnds : CodeSet :=
    if mode.dotAll then .empty
    else if mode.crlf then .ofRanges [(0x0a, 0x0a), (0x0d, 0x0d)]
    else .single 0x0a
  mode.member (mode.negate lineEnds)

def assertion (mode : Mode) : Assertion → Look
  | .startText => .textStart
  | .endText => .textEnd
  | .startLine =>
    if !mode.multiline then .textStart else if mode.crlf then .lineStartCrlf else .lineStart
  | .endLine => if !mode.multiline then .textEnd else if mode.crlf then .lineEndCrlf else .lineEnd
  | .word => .word mode.unicode
  | .notWord => .notWord mode.unicode
  | .wordStart => .wordStart mode.unicode
  | .wordEnd => .wordEnd mode.unicode
  | .wordStartHalf => .wordStartHalf mode.unicode
  | .wordEndHalf => .wordEndHalf mode.unicode

end Mode

mutual

/-- The expression of a pattern, and the mode that holds after it. -/
def Ast.resolve (mode : Mode) : Ast → Except PatternError (Expr × Mode)
  | .empty => return (.empty, mode)
  | .flags change => return (.empty, mode.switch change)
  | .literal l => return (mode.literal l, mode)
  | .dot => return (mode.dot, mode)
  | .assertion a => return (.look (mode.assertion a), mode)
  | .perl cls negated => return (mode.member (mode.perlSet cls negated), mode)
  | .unicode name negated => return (.char (← mode.unicodeSet name negated), mode)
  | .bracket negated set =>
    return (mode.member (mode.foldNegate negated (← mode.classSet set)), mode)
  | .repetition min max greedy sub => do
    let (sub, mode) ← sub.resolve mode
    return (.repeated min max (greedy != mode.swapGreed) sub, mode)
  | .capture index sub => do
    let (sub, _) ← sub.resolve mode
    return (.capture index sub, mode)
  | .group change sub => do
    let (sub, _) ← sub.resolve (mode.switch change)
    return (sub, mode)
  | .concat parts => do
    let (es, mode) ← resolveAll mode parts
    return (.sequence es, mode)
  | .alternation branches => do
    let (es, mode) ← resolveAll mode branches
    return (.choice es, mode)

/-- The expressions of some patterns, each in the mode that the one before leaves. -/
def resolveAll (mode : Mode) : List Ast → Except PatternError (List Expr × Mode)
  | [] => return ([], mode)
  | ast :: rest => do
    let (e, mode) ← ast.resolve mode
    let (es, mode) ← resolveAll mode rest
    return (e :: es, mode)

end

end Criteria.Regex
