import Criteria.Operator
import Criteria.Render.Header
import Criteria.Text.Blank
import Criteria.Text.Digits

/-!
# The grammar of generated expressions

How generated source is read: a text is cut into tokens, and the tokens are grouped by the grammar
whose levels are the precedence classes.

* `Token.read` — the longest token at the start of a text.
* `Derives` — the tokens form an expression at a level.
* `Parses` — the text is an expression.

Operators between operands group to the left, except the exponentiation, which groups to the right
and whose left operand may not start with an operator.
-/

set_option autoImplicit false

namespace Criteria

/-! ## Expressions -/

/-- The level above; there is none above the last. -/
def Precedence.next : Precedence → Precedence
  | logicalOr => logicalAnd
  | logicalAnd => bitwiseOr
  | bitwiseOr => bitwiseXor
  | bitwiseXor => bitwiseAnd
  | bitwiseAnd => equality
  | equality => relational
  | relational => additive
  | additive => multiplicative
  | multiplicative => exponentiation
  | exponentiation => unary
  | unary => memberAccess
  | memberAccess => memberAccess

namespace Grammar

/-- Operators before an operand. -/
inductive PrefixOp where
  | not | bitNot | minus | typeOf
  deriving DecidableEq, Repr

def PrefixOp.all : List PrefixOp := [.not, .bitNot, .minus, .typeOf]

def PrefixOp.symbol : PrefixOp → String
  | not => "!"
  | bitNot => "~"
  | minus => "-"
  | typeOf => "typeof"

/-- Operators between two operands. -/
inductive InfixOp where
  | or | and | bitOr | bitXor | bitAnd | equal | add | sub | mul | div | mod | pow
  deriving DecidableEq, Repr

namespace InfixOp

def all : List InfixOp :=
  [or, and, bitOr, bitXor, bitAnd, equal, add, sub, mul, div, mod, pow]

def symbol : InfixOp → String
  | or => "||"
  | and => "&&"
  | bitOr => "|"
  | bitXor => "^"
  | bitAnd => "&"
  | equal => "=="
  | add => "+"
  | sub => "-"
  | mul => "*"
  | div => "/"
  | mod => "%"
  | pow => "**"

def precedence : InfixOp → Precedence
  | or => .logicalOr
  | and => .logicalAnd
  | bitOr => .bitwiseOr
  | bitXor => .bitwiseXor
  | bitAnd => .bitwiseAnd
  | equal => .equality
  | add => .additive
  | sub => .additive
  | mul => .multiplicative
  | div => .multiplicative
  | mod => .multiplicative
  | pow => .exponentiation

end InfixOp

/-- An expression. -/
inductive Expr where
  /-- A parameter, or a word such as `undefined`, `true` or `Math`. -/
  | name (x : String)
  | number (n : Nat)
  | text (s : String)
  | prefixed (op : PrefixOp) (e : Expr)
  | infixed (op : InfixOp) (left right : Expr)
  | member (object : Expr) (field : String)
  | call (callee : Expr) (args : List Expr)

/-! ## Tokens -/

inductive Token where
  | name (x : String)
  | number (n : Nat)
  | text (s : String)
  /-- A punctuator or an operator word. -/
  | symbol (s : String)
  deriving DecidableEq, Repr

/-- The punctuators, longer ones before their beginnings. The two that open a comment are among them,
but in no rule of the grammar. -/
def punctuators : List String :=
  [">>>=", "...", "===", "!==", "**=", "<<=", ">>=", ">>>", "&&=", "||=", "??=", "=>", "==", "!=",
    "<=", ">=", "&&", "||", "??", "?.", "++", "--", "+=", "-=", "*=", "/=", "%=", "&=", "|=", "^=",
    "<<", ">>", "**", "//", "/*", "(", ")", "[", "]", "\x7b", "\x7d", ".", ",", ";", ":", "?", "<",
    ">", "=", "+", "-", "*", "/", "%", "&", "|", "^", "!", "~"]

/-- What follows an expected start. -/
def stripStart? (start cs : List Char) : Option (List Char) :=
  if start.isPrefixOf cs then some (cs.drop start.length) else none

/-- The first of some punctuators that the text starts with. -/
def readPunctuator : List String → List Char → Option (Token × List Char)
  | [], _ => none
  | s :: others, cs =>
    match stripStart? s.toList cs with
    | some rest => some (.symbol s, rest)
    | none => readPunctuator others cs

/-- The character that a letter after a backslash stands for. -/
def unescape? : Char → Option Char
  | '"' => some '"'
  | '\\' => some '\\'
  | 'n' => some '\n'
  | 'r' => some '\r'
  | 't' => some '\t'
  | _ => none

/-- A quoted text, from after its opening quote. -/
def readQuoted : List Char → Option (List Char × List Char)
  | [] => none
  | '"' :: rest => some ([], rest)
  | '\\' :: 'u' :: a :: b :: c :: d :: rest =>
    match Text.hex? [a, b, c, d] with
    | some n => (readQuoted rest).map (Prod.map (Char.ofNat n :: ·) id)
    | none => none
  | '\\' :: c :: rest =>
    match unescape? c with
    | some c => (readQuoted rest).map (Prod.map (c :: ·) id)
    | none => none
  | c :: rest => (readQuoted rest).map (Prod.map (c :: ·) id)

/-- A word is a name, unless it is an operator. -/
def wordToken (word : String) : Token := if word = "typeof" then .symbol word else .name word

/-- The longest token at the start of a text, after blanks, and what follows it. -/
def Token.read (cs : List Char) : Option (Token × List Char) :=
  match Text.trimLeft cs with
  | [] => none
  | c :: rest =>
    if Render.isIdentStart c then
      let word := (c :: rest).takeWhile Render.isIdentChar
      some (wordToken (String.ofList word), (c :: rest).dropWhile Render.isIdentChar)
    else if c.isDigit then
      let digits := (c :: rest).takeWhile Char.isDigit
      some (.number (Nat.ofDigitChars 10 digits 0), (c :: rest).dropWhile Char.isDigit)
    else if c = '"' then
      (readQuoted rest).map fun (cs, rest) => (.text (String.ofList cs), rest)
    else readPunctuator punctuators (c :: rest)

/-- The text starts with these tokens, and the rest follows them. -/
inductive Reads : List Char → List Token → List Char → Prop where
  | nil (cs : List Char) : Reads cs [] cs
  | cons {cs cs' rest : List Char} {t : Token} {ts : List Token} (h : Token.read cs = some (t, cs'))
      (hrest : Reads cs' ts rest) : Reads cs (t :: ts) rest

/-! ## Grammar -/

mutual

/-- The tokens form an expression at a level. -/
inductive Derives : Precedence → List Token → Expr → Prop where
  | name (x : String) : Derives .memberAccess [.name x] (.name x)
  | number (n : Nat) : Derives .memberAccess [.number n] (.number n)
  | text (s : String) : Derives .memberAccess [.text s] (.text s)
  | parens {ts : List Token} {e : Expr} (h : Derives .logicalOr ts e) :
      Derives .memberAccess (.symbol "(" :: (ts ++ [.symbol ")"])) e
  | member {ts : List Token} {e : Expr} (field : String) (h : Derives .memberAccess ts e) :
      Derives .memberAccess (ts ++ [.symbol ".", .name field]) (.member e field)
  | call {ts us : List Token} {e : Expr} {args : List Expr} (h : Derives .memberAccess ts e)
      (hargs : DerivesArgs us args) :
      Derives .memberAccess (ts ++ .symbol "(" :: (us ++ [.symbol ")"])) (.call e args)
  | prefixed {ts : List Token} {e : Expr} (op : PrefixOp) (h : Derives .unary ts e) :
      Derives .unary (.symbol op.symbol :: ts) (.prefixed op e)
  | power {ts us : List Token} {l r : Expr} (hl : Derives .memberAccess ts l)
      (hr : Derives .exponentiation us r) :
      Derives .exponentiation (ts ++ .symbol InfixOp.pow.symbol :: us) (.infixed .pow l r)
  | infixed {ts us : List Token} {l r : Expr} (op : InfixOp) (hop : op ≠ .pow)
      (hl : Derives op.precedence ts l) (hr : Derives op.precedence.next us r) :
      Derives op.precedence (ts ++ .symbol op.symbol :: us) (.infixed op l r)
  | tighter {p : Precedence} {ts : List Token} {e : Expr} (h : Derives p.next ts e) : Derives p ts e

/-- The tokens form expressions with commas between them, at least one. -/
inductive DerivesArgs : List Token → List Expr → Prop where
  | last {ts : List Token} {e : Expr} (h : Derives .logicalOr ts e) : DerivesArgs ts [e]
  | cons {ts us : List Token} {e : Expr} {es : List Expr} (h : Derives .logicalOr ts e)
      (hrest : DerivesArgs us es) : DerivesArgs (ts ++ .symbol "," :: us) (e :: es)

end

/-- The text is an expression, with blanks between the tokens. -/
def Parses (text : String) (e : Expr) : Prop :=
  ∃ ts rest, Reads text.toList ts rest ∧ Text.trimLeft rest = [] ∧ Derives .logicalOr ts e

/-! ## Tokens one after another -/

theorem Reads.append {cs cs' rest : List Char} {ts us : List Token} (h : Reads cs ts cs')
    (h' : Reads cs' us rest) : Reads cs (ts ++ us) rest := by
  induction h with
  | nil cs => exact h'
  | cons ht _ ih => exact .cons ht (ih h')

theorem Reads.one {cs rest : List Char} {t : Token} (h : Token.read cs = some (t, rest)) :
    Reads cs [t] rest :=
  .cons h (.nil rest)

theorem Token.read_blank {cs : List Char} (h : Text.trimLeft cs = []) : Token.read cs = none := by
  simp only [Token.read, h]

/-- A text is cut into tokens in one way only. -/
theorem Reads.unique {cs rest rest' : List Char} {ts us : List Token} (h : Reads cs ts rest)
    (hrest : Text.trimLeft rest = []) (h' : Reads cs us rest') (hrest' : Text.trimLeft rest' = []) :
    ts = us := by
  induction h generalizing us with
  | nil cs =>
    cases h' with
    | nil => rfl
    | cons ht _ => rw [Token.read_blank hrest] at ht; cases ht
  | cons ht _ ih =>
    cases h' with
    | nil => rw [Token.read_blank hrest'] at ht; cases ht
    | cons ht' hus =>
      rw [ht] at ht'
      cases ht'
      rw [ih hrest hus]

/-! ## Levels -/

theorem strength_next {p : Precedence} (h : p.strength < Precedence.memberAccess.strength) :
    p.next.strength = p.strength + 1 := by
  cases p with
  | memberAccess => exact absurd h (Nat.lt_irrefl _)
  | _ => rfl

theorem strength_le (p : Precedence) : p.strength ≤ Precedence.memberAccess.strength := by
  cases p <;> decide

theorem eq_of_strength {p q : Precedence} (h : p.strength = q.strength) : p = q := by
  cases p <;> cases q <;> first | rfl | exact absurd h (by decide)

/-- What is derived at a level is derived at every looser one. -/
theorem Derives.loosen {p q : Precedence} {ts : List Token} {e : Expr} (h : Derives q ts e)
    (hpq : p.strength ≤ q.strength) : Derives p ts e := by
  obtain ⟨n, hn⟩ : ∃ n, q.strength = p.strength + n := ⟨_, (Nat.add_sub_of_le hpq).symm⟩
  induction n generalizing p with
  | zero => rwa [← eq_of_strength (p := q) (q := p) hn]
  | succ n ih =>
    have hlt := strength_le q
    have hnext := strength_next (p := p) (by omega)
    exact .tighter (ih (by omega) (by omega))

end Grammar

end Criteria
