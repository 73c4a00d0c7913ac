import Criteria.Text.Digits

/-!
# Quoted text

A text in double quotes. The quote, the backslash, line feed, carriage return and tab have short
escapes; every other control character is written as `\u` and four hexadecimal digits.
-/

set_option autoImplicit false

namespace Criteria.Text

/-- The control characters: the two blocks `U+0000–U+001F` and `U+007F–U+009F`. -/
def isControl (c : Char) : Bool :=
  c.toNat < 0x20 || (0x7f ≤ c.toNat && c.toNat ≤ 0x9f)

/-- A character as it stands between the quotes. -/
def quoteChar (c : Char) : List Char :=
  if c = '"' then ['\\', '"']
  else if c = '\\' then ['\\', '\\']
  else if c = '\n' then ['\\', 'n']
  else if c = '\r' then ['\\', 'r']
  else if c = '\t' then ['\\', 't']
  else if isControl c then '\\' :: 'u' :: hexFixed 4 c.toNat
  else [c]

/-- The characters of a text as they stand between the quotes. -/
def quoteBody : List Char → List Char
  | [] => []
  | c :: rest => quoteChar c ++ quoteBody rest

/-- A text in double quotes. -/
def quote (s : String) : String := String.ofList ('"' :: quoteBody s.toList ++ ['"'])

end Criteria.Text
