import Criteria.Eval.World
import Criteria.Value.Datum

/-!
# Dumps

A tree as `Predicate.kind(detail)`, for logs. Nested predicates are dumped in place, unset operands
are `undefined`, literals are written as source. Dumping a character-set node decodes its set.
-/

set_option autoImplicit false

namespace Criteria

namespace Dump

/-- A character as an escape would write it in source: tab, line ends, quotes and the backslash by
their letter, other control characters by number. -/
def escapeAscii (c : Char) : List Char :=
  if c = '\t' then ['\\', 't']
  else if c = '\r' then ['\\', 'r']
  else if c = '\n' then ['\\', 'n']
  else if c = '\'' then ['\\', '\'']
  else if c = '"' then ['\\', '"']
  else if c = '\\' then ['\\', '\\']
  else if c.toNat < 0x20 ∨ c.toNat = 0x7f then
    "\\u\x7b".toList ++ Nat.toDigits 16 c.toNat ++ ['\x7d']
  else [c]

/-- A member of a character set: as it is or escaped when ASCII, else by number. -/
def setMember (c : Char) : String :=
  let body :=
    if c.toNat < 0x80 then escapeAscii c
    else '\\' :: 'u' :: Text.hexFixed (if c.toNat < 0x10000 then 4 else 6) c.toNat
  String.ofList ('\'' :: body ++ ['\''])

/-- A byte of a string. -/
def stringByte (b : UInt8) : List Char :=
  if b = 0x27 then ['\\', '\'']
  else if b = 0x5c then ['\\', '\\']
  else if b = 0x0a then ['\\', 'n']
  else if b = 0x0d then ['\\', 'r']
  else if b = 0x09 then ['\\', 't']
  else if 0x20 ≤ b ∧ b ≤ 0x7e then [Char.ofNat b.toNat]
  else '\\' :: 'x' :: Text.hexFixed 2 b.toNat

/-- The bytes of a string. -/
def stringBytes : List UInt8 → List Char
  | [] => []
  | b :: rest => stringByte b ++ stringBytes rest

/-- What stands before the operand of a unary operator. -/
def unaryOpening : UnaryOp → String
  | .notNot => "!!( "
  | .not => "!( "
  | .bitNot => "~( "
  | .sqrt => "sqrt( "

/-- The members of a character set and their number. -/
def setDetail (chars : List Char) : String :=
  "[ " ++ String.intercalate ", " (chars.map setMember) ++ " (len = " ++ toString chars.length ++
    ") ]"

/-- The stored value of a comparison; a constructor is shown by its name. -/
def stored (s : Store) : CompareOp → Value → String
  | .instanceOf, .function f => f.name
  | _, v => s.literal v

/-- A node of some kind with its detail. -/
def node (kind : Kind) (detail : String) : String :=
  "Predicate." ++ kind.name ++ "(" ++ detail ++ ")"

end Dump

open Dump

mutual

/-- The dump of an operand. -/
def Operand.dump : Operand → Action String
  | .unset => return "undefined"
  | .nested p => p.dump
  | .literal v => Action.read fun s => s.literal v

/-- The dump of a tree. -/
def Predicate.dump : Predicate → Action String
  | .unset => Action.fault (.unsetNode .dump)
  | .type mask => return node .type ("type == " ++ mask.label)
  | .charset cell set => return node .charset (setDetail (← Action.decode cell set))
  | .string start => return node .string (String.ofList ('\'' :: stringBytes start ++ ['\'']))
  | .unary op x => return node op.kind (unaryOpening op ++ (← x.dump) ++ " )")
  | .binary op left right => do
    let l ← left.dump
    let r ← right.dump
    return node op.kind ("(" ++ l ++ " " ++ op.symbol ++ " " ++ r ++ ")")
  | .boolean op xs => return node op.kind (String.intercalate ", " (← Operand.dumps xs))
  | .regex _ source flags => return node .regex ("/" ++ source ++ "/" ++ flags.letters)
  | .compare op v => return node op.kind (← Action.read fun s => stored s op v)
  | .property name filter => do
    let access := match name with
      | some name => "'" ++ name ++ "'"
      | none => "[key]"
    match filter with
    | some x => return node .property (access ++ ", " ++ (← x.dump))
    | none => return node .property access
  | .member target => return node .member (← Action.read fun s => s.literal target)
  | .shift count x => return node .shift (">> " ++ toString count ++ " " ++ (← x.dump))
  | .function _ _ arity => return node .function ("func(" ++ toString arity ++ ")")

/-- The dumps of some operands. -/
def Operand.dumps : List Operand → Action (List String)
  | [] => return []
  | x :: rest => do
    let text ← x.dump
    return text :: (← Operand.dumps rest)

end

end Criteria
