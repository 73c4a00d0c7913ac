/-!
# Why a pattern does not compile
-/

set_option autoImplicit false

namespace Criteria.Regex

/-- Why a pattern does not compile. -/
inductive PatternError where
  | unexpectedEnd
  | unclosedGroup
  | unopenedGroup
  | unclosedClass
  | lookaround
  | backreference
  | badEscape (c : Char)
  | badHex
  | badGroupName
  | duplicateGroupName (name : String)
  | badFlag (c : Char)
  | duplicateFlag
  | danglingNegation
  | missingRepetition
  | badRepetitionCount
  | badWordBoundary
  | badClassRange
  | badClassEscape
  | badClassName
  | unknownClass
  | unicodeNotAllowed
  | tooDeep (limit : Nat)
  | tooLarge (limit : Nat)
  deriving DecidableEq, Repr

def PatternError.message : PatternError → String
  | unexpectedEnd => "the pattern ends inside an escape or a group"
  | unclosedGroup => "unclosed group"
  | unopenedGroup => "unopened group"
  | unclosedClass => "unclosed character class"
  | lookaround => "look-around is not supported"
  | backreference => "backreferences are not supported"
  | badEscape c => "unrecognized escape sequence of " ++ String.singleton c
  | badHex => "invalid hexadecimal escape"
  | badGroupName => "invalid capture group name"
  | duplicateGroupName name => "duplicate capture group name " ++ name
  | badFlag c => "unrecognized flag " ++ String.singleton c
  | duplicateFlag => "duplicate flag"
  | danglingNegation => "dangling flag negation operator"
  | missingRepetition => "repetition operator missing expression"
  | badRepetitionCount => "invalid repetition count"
  | badWordBoundary => "invalid special word boundary"
  | badClassRange => "invalid character class range"
  | badClassEscape => "invalid escape sequence in a character class"
  | badClassName => "invalid Unicode class name"
  | unknownClass => "Unicode class not found"
  | unicodeNotAllowed => "Unicode is not allowed here"
  | tooDeep limit => "nested deeper than " ++ toString limit ++ " levels"
  | tooLarge limit => "compiled form exceeds " ++ toString limit ++ " bytes"

end Criteria.Regex
