import Criteria.Regex.Ast
import Criteria.Regex.Error
import Criteria.Text.Blank
import Criteria.Unicode.Identifier

/-!
# Reading a pattern

`parse` reads the text of a pattern into its tree. It works through the characters from left to
right with a stack of open groups; every step consumes a character, so the length of the text bounds
their number.

Under the flag `x`, blanks between the parts of a pattern are skipped, and so is a comment from `#`
to the end of its line.
-/

set_option autoImplicit false

namespace Criteria.Regex

open Text (isBlank decimal? hexValue?)

/-- What is left of the pattern, and what was seen of it. -/
structure Scanner where
  rest : List Char
  /-- Whether blanks and comments are skipped. -/
  ignoreSpace : Bool := false
  /-- How many capture groups were opened. -/
  groups : Nat := 0
  /-- The names of capture groups. -/
  names : List String := []

/-- Steps of reading. -/
abbrev Scan := EStateM PatternError Scanner

mutual

/-- Drops blanks and comments. -/
def skipBlanks : List Char → List Char
  | [] => []
  | c :: rest =>
    if isBlank c then skipBlanks rest
    else if c = '#' then skipComment rest
    else c :: rest

/-- Drops the rest of a comment, and the blanks and comments after it. -/
def skipComment : List Char → List Char
  | [] => []
  | c :: rest => if c = '\n' then skipBlanks rest else skipComment rest

end

/-- Takes characters with a property, with blanks between them where these are skipped. -/
def gather (skip : Bool) (keep : Char → Bool) : Nat → List Char → List Char × List Char
  | fuel + 1, c :: rest =>
    if keep c then
      let (taken, rest) := gather skip keep fuel (if skip then skipBlanks rest else rest)
      (c :: taken, rest)
    else ([], c :: rest)
  | _, cs => ([], cs)

namespace Scan

def rest : Scan (List Char) := return (← get).rest

def setRest (cs : List Char) : Scan Unit := modify fun s => { s with rest := cs }

/-- The next character. -/
def peek? : Scan (Option Char) := return (← get).rest.head?

/-- Drops blanks and comments where these are skipped. -/
def skipSpace : Scan Unit :=
  modify fun s => if s.ignoreSpace then { s with rest := skipBlanks s.rest } else s

/-- Drops one character. -/
def bump : Scan Unit := modify fun s => { s with rest := s.rest.drop 1 }

/-- Drops one character and the blanks after it. -/
def bumpSpace : Scan Unit := do
  bump
  skipSpace

/-- The next character, which has to be there. -/
def next (missing : PatternError) : Scan Char := do
  match ← peek? with
  | some c => return c
  | none => throw missing

/-- Drops an expected text, if it comes next. -/
def accept (expected : String) : Scan Bool := do
  let cs ← rest
  let wanted := expected.toList
  if wanted.isPrefixOf cs then
    setRest (cs.drop wanted.length)
    return true
  else return false

/-- Takes characters with a property. -/
def takeWhile (keep : Char → Bool) : Scan (List Char) := do
  let s ← get
  let (taken, rest) := gather s.ignoreSpace keep s.rest.length s.rest
  setRest rest
  return taken

end Scan

open Scan

/-! ## Escapes -/

/-- One part of a pattern that is neither a group, a set in brackets nor an operator. -/
inductive Primitive where
  | literal (l : Literal)
  | dot
  | assertion (a : Assertion)
  | perl (cls : PerlClass) (negated : Bool)
  | unicode (name : ClassName) (negated : Bool)

def Primitive.toAst : Primitive → Ast
  | literal l => .literal l
  | dot => .dot
  | assertion a => .assertion a
  | perl cls negated => .perl cls negated
  | unicode name negated => .unicode name negated

/-- The characters that have a meaning of their own somewhere in a pattern. -/
def isMeta (c : Char) : Bool := "\\.+*?()|[]\x7b\x7d^$#&-~".toList.contains c

/-- Whether a backslash before the character means the character itself: any ASCII character but
letters, digits and angle brackets. -/
def isEscapable (c : Char) : Bool :=
  isMeta c || (c.toNat < 0x80 && !c.isAlphanum && c != '<' && c != '>')

/-- The character with a given number. -/
def charOfNat (n : Nat) : Scan Char :=
  if n.isValidChar then return Char.ofNat n else throw .badHex

/-- The number that hexadecimal digits write. -/
def hexNumber (digits : List Char) : Scan Nat :=
  match Text.hex? digits with
  | some n => return n
  | none => throw .badHex

/-- Exactly `count` hexadecimal digits, with blanks between them where these are skipped. -/
def hexDigits : Nat → Scan (List Char)
  | 0 => return []
  | 1 => do
    let c ← next .unexpectedEnd
    if (hexValue? c).isNone then throw .badHex
    bumpSpace
    return [c]
  | count + 1 => do
    let c ← next .unexpectedEnd
    if (hexValue? c).isNone then throw .badHex
    bumpSpace
    return c :: (← hexDigits count)

/-- The rest of an escape after `\x`, `\u` or `\U`: so many digits, or any number in braces. -/
def hexEscape (digits : Nat) : Scan Literal := do
  bumpSpace
  let c ← next .unexpectedEnd
  if c = '\x7b' then
    bumpSpace
    let body ← Scan.takeWhile fun c => c != '\x7d'
    let _ ← next .unexpectedEnd
    bumpSpace
    return { char := ← charOfNat (← hexNumber body) }
  else
    let body ← hexDigits digits
    return { char := ← charOfNat (← hexNumber body), byteEscape := digits = 2 }

/-- Splits a class name at its first separator: `!=` before `:` before `=`. The result also says
whether the separator is `!=`, which asks for all code points without the value. -/
def splitClassName (name : String) : ClassName × Bool :=
  match name.splitOn "!=", name.splitOn ":", name.splitOn "=" with
  | property :: value :: more, _, _ =>
    (.valued property (String.intercalate "!=" (value :: more)), true)
  | _, property :: value :: more, _ =>
    (.valued property (String.intercalate ":" (value :: more)), false)
  | _, _, property :: value :: more =>
    (.valued property (String.intercalate "=" (value :: more)), false)
  | _, _, _ => (.named name, false)

/-- The rest of an escape after `\p` or, for a negated class, `\P`: one letter, or a name in
braces. -/
def unicodeClass (negated : Bool) : Scan Primitive := do
  bumpSpace
  let c ← next .unexpectedEnd
  if c = '\x7b' then
    bumpSpace
    let body ← Scan.takeWhile fun c => c != '\x7d'
    let _ ← next .unexpectedEnd
    bump
    let (name, differs) := splitClassName (String.ofList body)
    return .unicode name (negated != differs)
  else if c = '\\' then throw .badClassName
  else
    bumpSpace
    return .unicode (.named (String.singleton c)) negated

/-- The word boundary with a given name in braces. -/
def wordBoundaryNamed? : String → Option Assertion
  | "start" => some .wordStart
  | "end" => some .wordEnd
  | "start-half" => some .wordStartHalf
  | "end-half" => some .wordEndHalf
  | _ => none

/-- What follows `\b`: a name in braces, unless the braces can only be a repetition. -/
def wordBoundary : Scan Assertion := do
  let before ← rest
  if before.head? != some '\x7b' then return .word
  bumpSpace
  let isNameChar (c : Char) : Bool := c.isAlpha || c == '-'
  if !isNameChar (← next .badWordBoundary) then
    setRest before
    return .word
  let name ← Scan.takeWhile isNameChar
  if (← peek?) != some '\x7d' then throw .badWordBoundary
  bump
  match wordBoundaryNamed? (String.ofList name) with
  | some a => return a
  | none => throw .badWordBoundary

/-- An escape, from its backslash on. -/
def escape : Scan Primitive := do
  bump
  let c ← next .unexpectedEnd
  match c with
  | 'x' => return .literal (← hexEscape 2)
  | 'u' => return .literal (← hexEscape 4)
  | 'U' => return .literal (← hexEscape 8)
  | 'p' => unicodeClass false
  | 'P' => unicodeClass true
  | _ =>
    bump
    match c with
    | 'd' => return .perl .digit false
    | 'D' => return .perl .digit true
    | 's' => return .perl .space false
    | 'S' => return .perl .space true
    | 'w' => return .perl .word false
    | 'W' => return .perl .word true
    | 'a' => return .literal { char := '\x07' }
    | 'f' => return .literal { char := '\x0c' }
    | 't' => return .literal { char := '\t' }
    | 'n' => return .literal { char := '\n' }
    | 'r' => return .literal { char := '\r' }
    | 'v' => return .literal { char := '\x0b' }
    | 'A' => return .assertion .startText
    | 'z' => return .assertion .endText
    | 'b' => return .assertion (← wordBoundary)
    | 'B' => return .assertion .notWord
    | '<' => return .assertion .wordStart
    | '>' => return .assertion .wordEnd
    | _ =>
      if c.isDigit then throw .backreference
      else if isEscapable c then return .literal { char := c }
      else throw (.badEscape c)

/-! ## Sets in brackets -/

/-- A named ASCII class, from its bracket on; nothing is consumed when there is none. -/
def asciiClass? : Scan (Option ClassItem) := do
  let before ← rest
  match before with
  | '[' :: ':' :: body =>
    let (negated, body) := match body with
      | '^' :: body => (true, body)
      | _ => (false, body)
    let name := body.takeWhile fun c => c != ':'
    match body.drop name.length with
    | ':' :: ']' :: after =>
      match AsciiClass.ofName? (String.ofList name) with
      | some cls =>
        setRest after
        return some (.ascii cls negated)
      | none => return none
    | _ => return none
  | _ => return none

/-- One member of a set, before it is known whether a range follows. -/
def classPrimitive : Scan Primitive := do
  let c ← next .unclosedClass
  if c = '\\' then escape
  else
    bump
    return .literal { char := c }

def Primitive.toItem : Primitive → Scan ClassItem
  | literal l => return .literal l
  | perl cls negated => return .perl cls negated
  | unicode name negated => return .unicode name negated
  | dot => throw .badClassEscape
  | assertion _ => throw .badClassEscape

def Primitive.toLiteral : Primitive → Scan Literal
  | literal l => return l
  | _ => throw .badClassRange

/-- What a look past blanks finds next: a comment is entered at its first character that is not
blank, not passed over. -/
def pastBlanks (cs : List Char) : List Char :=
  match cs.dropWhile isBlank with
  | '#' :: comment => comment.dropWhile isBlank
  | rest => rest

/-- A member of a set, or a range of two. A hyphen before the closing bracket or before another
hyphen makes no range. -/
def classRange : Scan ClassItem := do
  let first ← classPrimitive
  skipSpace
  let s ← get
  match s.rest with
  | [] => throw .unclosedClass
  | '-' :: after =>
    let following := (if s.ignoreSpace then pastBlanks after else after).head?
    if following = some ']' ∨ following = some '-' then first.toItem
    else
      bumpSpace
      let last ← classPrimitive
      let low ← first.toLiteral
      let high ← last.toLiteral
      if low.char ≤ high.char then return .range low high else throw .badClassRange
  | _ => first.toItem

/-- The hyphens at the start of a set, which stand for themselves. -/
def leadingHyphens : Nat → Scan (List ClassItem)
  | 0 => return []
  | fuel + 1 => do
    if (← next .unclosedClass) = '-' then
      bumpSpace
      return .literal { char := '-' } :: (← leadingHyphens fuel)
    else return []

/-- The opening of a set, from its bracket on: whether it is negated, and its first members. -/
def classOpening : Scan (Bool × List ClassItem) := do
  bumpSpace
  let negated := (← next .unclosedClass) = '^'
  if negated then bumpSpace
  let hyphens ← leadingHyphens (← rest).length
  if hyphens.isEmpty ∧ (← next .unclosedClass) = ']' then
    bumpSpace
    return (negated, [.literal { char := ']' }])
  else return (negated, hyphens.reverse)

/-- An operator between sets. -/
def setOperator? : Scan (Option SetOp) := do
  if ← accept "&&" then return some .intersection
  else if ← accept "--" then return some .difference
  else if ← accept "~~" then return some .symmetricDifference
  else return none

/-- Closes the operand after an operator; operators group to the left. -/
def combineSets : Option (SetOp × ClassSet) → List ClassItem → ClassSet
  | none, items => .union items.reverse
  | some (op, left), items => .combine op left (.union items.reverse)

/-- The rest of a set, up to and with its closing bracket. `pending` is what stands before the last
operator, `items` the members after it, last one first. -/
def classBody : Nat → Option (SetOp × ClassSet) → List ClassItem → Scan ClassSet
  | 0, _, _ => throw .unclosedClass
  | fuel + 1, pending, items => do
    skipSpace
    let c ← next .unclosedClass
    if c = ']' then
      bump
      return combineSets pending items
    else if c = '[' then
      match ← asciiClass? with
      | some item => classBody fuel pending (item :: items)
      | none =>
        let (negated, first) ← classOpening
        let set ← classBody fuel none first
        classBody fuel pending (.nested negated set :: items)
    else
      match ← setOperator? with
      | some op => classBody fuel (some (op, combineSets pending items)) []
      | none => classBody fuel pending ((← classRange) :: items)

/-- A set, from its opening bracket on. -/
def bracket : Scan Ast := do
  let (negated, first) ← classOpening
  let set ← classBody (← rest).length none first
  return .bracket negated set

/-! ## Repetitions -/

/-- A question mark makes a repetition lazy. -/
def lazyMark : Scan Bool := accept "?"

/-- A number in a repetition, with blanks around it. -/
def repetitionCount : Scan Nat := do
  setRest ((← rest).dropWhile isBlank)
  let digits ← Scan.takeWhile Char.isDigit
  setRest ((← rest).dropWhile isBlank)
  match decimal? digits with
  | some n => if n < 0x100000000 then return n else throw .badRepetitionCount
  | none => throw .badRepetitionCount

/-- The bounds in braces, from the opening brace on. -/
def repetitionBounds : Scan (Nat × Option Nat) := do
  bumpSpace
  let _ ← next .badRepetitionCount
  let min ← repetitionCount
  let bounds ←
    if (← next .badRepetitionCount) = ',' then do
      bumpSpace
      if (← next .badRepetitionCount) = '\x7d' then pure (min, none)
      else do
        let max ← repetitionCount
        pure (min, some max)
    else pure (min, some min)
  if (← next .badRepetitionCount) != '\x7d' then throw .badRepetitionCount
  bumpSpace
  match bounds with
  | (min, some max) => if max < min then throw .badRepetitionCount
  | _ => pure ()
  return bounds

/-- Takes the last part of a sequence as what an operator repeats. -/
def repeated : List Ast → Scan (Ast × List Ast)
  | [] => throw .missingRepetition
  | .empty :: _ => throw .missingRepetition
  | .flags _ :: _ => throw .missingRepetition
  | part :: parts => return (part, parts)

/-! ## Groups -/

/-- The flags up to a colon or a closing parenthesis, `on` until a hyphen. -/
def flagChange (on : Bool) (seen : FlagChange) : Nat → Scan FlagChange
  | 0 => throw .unexpectedEnd
  | fuel + 1 => do
    let c ← next .unexpectedEnd
    if c = ':' ∨ c = ')' then return seen.reverse
    else if c = '-' then
      if !on then throw .duplicateFlag
      bump
      let following ← next .unexpectedEnd
      if following = ':' ∨ following = ')' then throw .danglingNegation
      flagChange false seen fuel
    else
      match InlineFlag.ofLetter? c with
      | none => throw (.badFlag c)
      | some flag =>
        if seen.any fun (f, _) => f = flag then throw .duplicateFlag
        bump
        flagChange on ((flag, on) :: seen) fuel

/-- Whether a character may stand in the name of a group, or start it. -/
def isNameChar (first : Bool) (c : Char) : Bool :=
  if first then c == '_' || Unicode.isAlphabetic c
  else c == '_' || c == '.' || c == '[' || c == ']' || Unicode.isAlphanumeric c

/-- The name of a group, up to and with its closing angle bracket. -/
def groupName : Scan Unit := do
  let s ← get
  let name := s.rest.takeWhile fun c => c != '>'
  if name.length = s.rest.length then throw .badGroupName
  match name with
  | [] => throw .badGroupName
  | c :: more =>
    if !(isNameChar true c && more.all (isNameChar false)) then throw .badGroupName
  let text := String.ofList name
  if s.names.contains text then throw (.duplicateGroupName text)
  set { s with rest := s.rest.drop (name.length + 1), names := text :: s.names }

/-- The start of a group, after its opening parenthesis. -/
inductive Opening where
  | capture (index : Nat)
  | group (change : FlagChange)
  | flags (change : FlagChange)

/-- Counts a capture group. -/
def newCapture : Scan Opening := do
  let s ← get
  set { s with groups := s.groups + 1 }
  return .capture (s.groups + 1)

/-- Reads the start of a group, from its parenthesis on. -/
def opening : Scan Opening := do
  bumpSpace
  for mark in ["?=", "?!", "?<=", "?<!"] do
    if ← accept mark then throw .lookaround
  if (← accept "?P<") || (← accept "?<") then
    let group ← newCapture
    groupName
    return group
  else if ← accept "?" then
    let _ ← next .unclosedGroup
    let change ← flagChange true [] ((← rest).length + 1)
    let c ← next .unexpectedEnd
    bump
    if c = ':' then return .group change
    else if change.isEmpty then throw .missingRepetition
    else return .flags change
  else newCapture

/-! ## The whole pattern -/

/-- A group that is not closed yet: what wraps its contents, the sequence and the branches around
it, and whether blanks were skipped outside. -/
structure OpenGroup where
  wrap : Ast → Ast
  parts : List Ast
  branches : List Ast
  ignoreSpace : Bool

/-- Reads on, with the open groups, the finished branches of the innermost one and the parts of its
current branch, each last one first. -/
def parseFrom : Nat → List OpenGroup → List Ast → List Ast → Scan Ast
  | 0, _, _, _ => throw .unexpectedEnd
  | fuel + 1, stack, branches, parts => do
    skipSpace
    match ← peek? with
    | none =>
      if stack.isEmpty then return Ast.ofBranches (Ast.ofParts parts :: branches)
      else throw .unclosedGroup
    | some '(' =>
      let outer := (← get).ignoreSpace
      match ← opening with
      | .flags change =>
        match change.setting? .ignoreSpace with
        | some on => modify fun s => { s with ignoreSpace := on }
        | none => pure ()
        parseFrom fuel stack branches (.flags change :: parts)
      | .capture index => parseFrom fuel (⟨.capture index, parts, branches, outer⟩ :: stack) [] []
      | .group change =>
        let inner := (change.setting? .ignoreSpace).getD outer
        modify fun s => { s with ignoreSpace := inner }
        parseFrom fuel (⟨.group change, parts, branches, outer⟩ :: stack) [] []
    | some ')' =>
      match stack with
      | [] => throw .unopenedGroup
      | group :: stack =>
        modify fun s => { s with ignoreSpace := group.ignoreSpace }
        bump
        let contents := Ast.ofBranches (Ast.ofParts parts :: branches)
        parseFrom fuel stack group.branches (group.wrap contents :: group.parts)
    | some '|' =>
      bump
      parseFrom fuel stack (Ast.ofParts parts :: branches) []
    | some '[' => parseFrom fuel stack branches ((← bracket) :: parts)
    | some '?' =>
      let (part, parts) ← repeated parts
      bump
      let lazy ← lazyMark
      parseFrom fuel stack branches (.repetition 0 (some 1) (!lazy) part :: parts)
    | some '*' =>
      let (part, parts) ← repeated parts
      bump
      let lazy ← lazyMark
      parseFrom fuel stack branches (.repetition 0 none (!lazy) part :: parts)
    | some '+' =>
      let (part, parts) ← repeated parts
      bump
      let lazy ← lazyMark
      parseFrom fuel stack branches (.repetition 1 none (!lazy) part :: parts)
    | some '\x7b' =>
      let (part, parts) ← repeated parts
      let (min, max) ← repetitionBounds
      let lazy ← lazyMark
      parseFrom fuel stack branches (.repetition min max (!lazy) part :: parts)
    | some '\\' => parseFrom fuel stack branches ((← escape).toAst :: parts)
    | some '.' =>
      bump
      parseFrom fuel stack branches (.dot :: parts)
    | some '^' =>
      bump
      parseFrom fuel stack branches (.assertion .startLine :: parts)
    | some '$' =>
      bump
      parseFrom fuel stack branches (.assertion .endLine :: parts)
    | some c =>
      bump
      parseFrom fuel stack branches (.literal { char := c } :: parts)

/-- How deep a pattern may be nested. -/
def nestLimit : Nat := 250

/-- Reads a pattern. -/
def parse (pattern : String) : Except PatternError Ast :=
  let cs := pattern.toList
  match (parseFrom (cs.length + 1) [] [] []).run { rest := cs } with
  | .ok ast _ => if nestLimit < ast.depth then .error (.tooDeep nestLimit) else .ok ast
  | .error e _ => .error e

end Criteria.Regex
