/-!
# Pattern flags

A set of the six flags `gimsuy`, read from a string of letters in any order and written in that
order.
-/

set_option autoImplicit false

namespace Criteria.Regex

/-- A flag of a pattern. -/
inductive Flag where
  /-- Accepted and without effect: a predicate always searches once. -/
  | global
  | ignoreCase
  /-- `^` and `$` match at line boundaries. -/
  | multiline
  /-- `.` matches line feeds. -/
  | dotAll
  /-- Empty matches do not split a character. -/
  | unicode
  /-- A match starts at the first byte. -/
  | sticky
  deriving DecidableEq, Repr

namespace Flag

/-- Every flag, in writing order. -/
def all : List Flag := [global, ignoreCase, multiline, dotAll, unicode, sticky]

def letter : Flag → Char
  | global => 'g'
  | ignoreCase => 'i'
  | multiline => 'm'
  | dotAll => 's'
  | unicode => 'u'
  | sticky => 'y'

def ofLetter? (c : Char) : Option Flag := all.find? fun f => f.letter = c

end Flag

/-- A set of flags. -/
structure Flags where
  global : Bool := false
  ignoreCase : Bool := false
  multiline : Bool := false
  dotAll : Bool := false
  unicode : Bool := false
  sticky : Bool := false
  deriving DecidableEq, Repr

/-- A letter that is no flag. -/
structure FlagError where
  flag : Char
  deriving DecidableEq, Repr

def FlagError.message (e : FlagError) : String :=
  "invalid regular expression flag '" ++ String.singleton e.flag ++ "'"

namespace Flags

def has (flags : Flags) : Flag → Bool
  | .global => flags.global
  | .ignoreCase => flags.ignoreCase
  | .multiline => flags.multiline
  | .dotAll => flags.dotAll
  | .unicode => flags.unicode
  | .sticky => flags.sticky

def insert (flags : Flags) : Flag → Flags
  | .global => { flags with global := true }
  | .ignoreCase => { flags with ignoreCase := true }
  | .multiline => { flags with multiline := true }
  | .dotAll => { flags with dotAll := true }
  | .unicode => { flags with unicode := true }
  | .sticky => { flags with sticky := true }

/-- Adds the flags of some letters; the first letter that is no flag is the error. -/
def addLetters (flags : Flags) : List Char → Except FlagError Flags
  | [] => .ok flags
  | c :: rest =>
    match Flag.ofLetter? c with
    | some f => (flags.insert f).addLetters rest
    | none => .error ⟨c⟩

/-- Reads flag letters; a letter may be repeated. -/
def parse (s : String) : Except FlagError Flags := ({} : Flags).addLetters s.toList

/-- The letters of the flags, in writing order. -/
def letters (flags : Flags) : String :=
  String.ofList ((Flag.all.filter flags.has).map Flag.letter)

end Flags

end Criteria.Regex
