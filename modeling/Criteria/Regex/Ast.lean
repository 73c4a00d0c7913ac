/-!
# Pattern trees

The structure of a pattern as it is written, before flags are resolved.
-/

set_option autoImplicit false

namespace Criteria.Regex

/-- The named classes of ASCII characters. -/
inductive AsciiClass where
  | alnum | alpha | ascii | blank | cntrl | digit | graph | lower | print | punct | space | upper
  | word | xdigit
  deriving DecidableEq, Repr

namespace AsciiClass

/-- The class with a given name between `[:` and `:]`. -/
def ofName? : String → Option AsciiClass
  | "alnum" => some alnum
  | "alpha" => some alpha
  | "ascii" => some ascii
  | "blank" => some blank
  | "cntrl" => some cntrl
  | "digit" => some digit
  | "graph" => some graph
  | "lower" => some lower
  | "print" => some print
  | "punct" => some punct
  | "space" => some space
  | "upper" => some upper
  | "word" => some word
  | "xdigit" => some xdigit
  | _ => none

/-- The code points of the class. -/
def ranges : AsciiClass → List (Nat × Nat)
  | alnum => [(0x30, 0x39), (0x41, 0x5a), (0x61, 0x7a)]
  | alpha => [(0x41, 0x5a), (0x61, 0x7a)]
  | ascii => [(0x00, 0x7f)]
  | blank => [(0x09, 0x09), (0x20, 0x20)]
  | cntrl => [(0x00, 0x1f), (0x7f, 0x7f)]
  | digit => [(0x30, 0x39)]
  | graph => [(0x21, 0x7e)]
  | lower => [(0x61, 0x7a)]
  | print => [(0x20, 0x7e)]
  | punct => [(0x21, 0x2f), (0x3a, 0x40), (0x5b, 0x60), (0x7b, 0x7e)]
  | space => [(0x09, 0x0d), (0x20, 0x20)]
  | upper => [(0x41, 0x5a)]
  | word => [(0x30, 0x39), (0x41, 0x5a), (0x5f, 0x5f), (0x61, 0x7a)]
  | xdigit => [(0x30, 0x39), (0x41, 0x46), (0x61, 0x66)]

end AsciiClass

/-- The classes behind `\d`, `\s` and `\w`. -/
inductive PerlClass where
  | digit | space | word
  deriving DecidableEq, Repr

/-- The class that `\p` names. -/
inductive ClassName where
  | named (name : String)
  | valued (property value : String)
  deriving DecidableEq, Repr

/-- A character, and whether it was written as `\x` with two digits. Where Unicode is off that
escape means the byte of this value. -/
structure Literal where
  char : Char
  byteEscape : Bool := false
  deriving DecidableEq, Repr

/-- The operators between sets in brackets. -/
inductive SetOp where
  | intersection | difference | symmetricDifference
  deriving DecidableEq, Repr

mutual

/-- A set in brackets. -/
inductive ClassSet where
  | union (items : List ClassItem)
  | combine (op : SetOp) (left right : ClassSet)

/-- A member of a set in brackets. -/
inductive ClassItem where
  | literal (l : Literal)
  | range (first last : Literal)
  | ascii (cls : AsciiClass) (negated : Bool)
  | perl (cls : PerlClass) (negated : Bool)
  | unicode (name : ClassName) (negated : Bool)
  | nested (negated : Bool) (set : ClassSet)

end

/-- Conditions on a position. -/
inductive Assertion where
  | startLine | endLine | startText | endText | word | notWord
  | wordStart | wordEnd | wordStartHalf | wordEndHalf
  deriving DecidableEq, Repr

/-- Flags that a pattern can switch inside itself. -/
inductive InlineFlag where
  | ignoreCase | multiline | dotAll | swapGreed | unicode | crlf | ignoreSpace
  deriving DecidableEq, Repr

def InlineFlag.ofLetter? : Char → Option InlineFlag
  | 'i' => some .ignoreCase
  | 'm' => some .multiline
  | 's' => some .dotAll
  | 'U' => some .swapGreed
  | 'u' => some .unicode
  | 'R' => some .crlf
  | 'x' => some .ignoreSpace
  | _ => none

/-- Which flags to switch, and to what. -/
abbrev FlagChange := List (InlineFlag × Bool)

/-- What a change makes of a flag, if it names it. -/
def FlagChange.setting? (flag : InlineFlag) : FlagChange → Option Bool
  | [] => none
  | (f, on) :: rest => if f = flag then some on else FlagChange.setting? flag rest

/-- A pattern as it is written. -/
inductive Ast where
  | empty
  /-- A switch of flags for the rest of the enclosing group. -/
  | flags (change : FlagChange)
  | literal (l : Literal)
  | dot
  | assertion (a : Assertion)
  | perl (cls : PerlClass) (negated : Bool)
  | unicode (name : ClassName) (negated : Bool)
  | bracket (negated : Bool) (set : ClassSet)
  | repetition (min : Nat) (max : Option Nat) (greedy : Bool) (sub : Ast)
  | capture (index : Nat) (sub : Ast)
  /-- A group that captures nothing, with flags of its own. -/
  | group (change : FlagChange) (sub : Ast)
  | concat (parts : List Ast)
  | alternation (branches : List Ast)

instance : Inhabited Ast := ⟨.empty⟩

/-- A sequence, given last part first. -/
def Ast.ofParts : List Ast → Ast
  | [] => empty
  | [part] => part
  | parts => concat parts.reverse

/-- A choice, given last branch first. -/
def Ast.ofBranches : List Ast → Ast
  | [] => empty
  | [branch] => branch
  | branches => alternation branches.reverse

/-! ## Nesting -/

mutual

/-- How deep a set in brackets is nested. -/
def ClassSet.depth : ClassSet → Nat
  | .union items => if items.length < 2 then itemsDepth items else itemsDepth items + 1
  | .combine _ left right => max left.depth right.depth + 1

def ClassItem.depth : ClassItem → Nat
  | .nested _ set => set.depth + 1
  | _ => 0

def itemsDepth : List ClassItem → Nat
  | [] => 0
  | item :: rest => max item.depth (itemsDepth rest)

end

mutual

/-- How deep a pattern is nested. -/
def Ast.depth : Ast → Nat
  | .bracket _ set => set.depth + 1
  | .repetition _ _ _ sub => sub.depth + 1
  | .capture _ sub => sub.depth + 1
  | .group _ sub => sub.depth + 1
  | .concat parts => partsDepth parts + 1
  | .alternation branches => partsDepth branches + 1
  | _ => 0

def partsDepth : List Ast → Nat
  | [] => 0
  | part :: rest => max part.depth (partsDepth rest)

end

end Criteria.Regex
