import Criteria.Proofs.Predicate.Slots
import Criteria.Proofs.Render.Lexing
import Criteria.Proofs.Render.Parser

/-!
# The expression that a tree is written as

A formula is a tree of operators and type tests over unset slots and plain literals.

* `Predicate.written` — the expression that a formula stands for, given the names of its slots. A
  chain keeps its links, since a chain directly inside a chain of the same operator is written without
  parentheses and becomes part of it.
* `Prints` — a text is read as an expression at a level.
-/

set_option autoImplicit false

namespace Criteria

open Grammar

/-! ## Formulas -/

mutual

/-- A slot of a formula. -/
def Operand.isFormula : Operand → Bool
  | .unset => true
  | .nested p => p.isFormula
  | .literal v => v.isPlain

/-- Operators and type tests over unset slots and plain literals. -/
def Predicate.isFormula : Predicate → Bool
  | .type _ => true
  | .unary _ x => x.isFormula
  | .binary _ left right => left.isFormula && right.isFormula
  | .boolean _ xs => Operand.allFormulas xs
  | _ => false

/-- The slots of a combinator. -/
def Operand.allFormulas : List Operand → Bool
  | [] => true
  | x :: rest => x.isFormula && Operand.allFormulas rest

end

mutual

theorem Operand.isComplete_of_isFormula : ∀ {x : Operand}, x.isFormula → x.isComplete
  | .unset, _ => rfl
  | .nested p, h => by
    rw [Operand.isFormula] at h
    rw [Operand.isComplete]
    exact Predicate.isComplete_of_isFormula h
  | .literal _, _ => rfl

theorem Predicate.isComplete_of_isFormula : ∀ {p : Predicate}, p.isFormula → p.isComplete
  | .type _, _ => rfl
  | .unary _ x, h => by
    rw [Predicate.isFormula] at h
    rw [Predicate.isComplete]
    exact Operand.isComplete_of_isFormula h
  | .binary _ left right, h => by
    rw [Predicate.isFormula, Bool.and_eq_true] at h
    rw [Predicate.isComplete, Bool.and_eq_true]
    exact ⟨Operand.isComplete_of_isFormula h.1, Operand.isComplete_of_isFormula h.2⟩
  | .boolean _ xs, h => by
    rw [Predicate.isFormula] at h
    rw [Predicate.isComplete]
    exact Operand.allComplete_of_allFormulas h

theorem Operand.allComplete_of_allFormulas :
    ∀ {xs : List Operand}, Operand.allFormulas xs → Operand.allComplete xs
  | [], _ => rfl
  | x :: rest, h => by
    rw [Operand.allFormulas, Bool.and_eq_true] at h
    rw [Operand.allComplete, Bool.and_eq_true]
    exact ⟨Operand.isComplete_of_isFormula h.1, Operand.allComplete_of_allFormulas h.2⟩

end

/-! ## Expressions -/

/-- An expression, as a chain of links where it is one. -/
inductive Written where
  | single (e : Expr)
  /-- Links with an operator between them, which groups to the left. -/
  | chain (op : InfixOp) (first : Expr) (rest : List Expr)

namespace Written

def expr : Written → Expr
  | single e => e
  | chain op first rest => rest.foldl (.infixed op) first

/-- What becomes of the expression in a chain: its own links when it is a chain of the same operator,
else one link. -/
def links (op : InfixOp) : Written → List Expr
  | single e => [e]
  | chain op' first rest =>
    if op' = op then first :: rest else [(chain op' first rest).expr]

/-- A chain of some links, and an expression in place of none. -/
def ofLinks (op : InfixOp) (none : Expr) : List Expr → Written
  | [] => single none
  | first :: rest => chain op first rest

end Written

/-- A plain literal as an expression; the minus of a negative number is an operator. -/
def Value.expr : Value → Expr
  | null => .name "null"
  | bool true => .name "true"
  | bool false => .name "false"
  | int n =>
    if n.toInt < 0 then .prefixed .minus (.number n.toInt.natAbs) else .number n.toInt.natAbs
  | str s => .text s
  | _ => .name "undefined"

/-- A call of a function of the object `Math`. -/
def mathCall (field : String) (args : List Expr) : Expr := .call (.member (.name "Math") field) args

def UnaryOp.expr (op : UnaryOp) (e : Expr) : Expr :=
  match op with
  | .notNot => .prefixed .not (.prefixed .not e)
  | .not => .prefixed .not e
  | .bitNot => .prefixed .bitNot e
  | .sqrt => mathCall "sqrt" [e]

/-- The operator between the operands; there is none for `atan2`. -/
def BinaryOp.infixOp? : BinaryOp → Option InfixOp
  | add => some .add
  | sub => some .sub
  | mul => some .mul
  | div => some .div
  | mod => some .mod
  | bitOr => some .bitOr
  | bitAnd => some .bitAnd
  | pow => some .pow
  | atan2 => none

def BinaryOp.expr (op : BinaryOp) (left right : Expr) : Expr :=
  match op.infixOp? with
  | some op => .infixed op left right
  | none => mathCall "atan2" [left, right]

def BooleanOp.infixOp : BooleanOp → InfixOp
  | or => .or
  | and => .and
  | xor => .bitXor

/-- The value of an empty combinator. -/
def BooleanOp.emptyExpr : BooleanOp → Expr
  | or => .name "undefined"
  | and => .name "undefined"
  | xor => .number 0

/-- The test of an argument for a type name. -/
def typeTest (arg type : String) : Expr := .infixed .equal (.prefixed .typeOf (.name arg)) (.text type)

mutual

/-- The expression of an operand whose slots have these names. -/
def Operand.written (names : List String) : Operand → Written
  | .unset => .single (.name (names.headD ""))
  | .nested p => p.written names
  | .literal v => .single v.expr

/-- The expression of a formula whose slots, from left to right, have these names. -/
def Predicate.written (names : List String) : Predicate → Written
  | .type mask => .ofLinks .or (.name "false") (mask.names.map (typeTest (names.headD "")))
  | .unary op x => .single (op.expr (x.written names).expr)
  | .binary op left right =>
    .single (op.expr (left.written names).expr (right.written (names.drop left.slots)).expr)
  | .boolean op xs => .ofLinks op.infixOp op.emptyExpr (Operand.links op.infixOp names xs)
  | _ => .single (.name "undefined")

/-- The links of a chain of operands. -/
def Operand.links (op : InfixOp) (names : List String) : List Operand → List Expr
  | [] => []
  | x :: rest => (x.written names).links op ++ Operand.links op (names.drop x.slots) rest

end

/-- The expression of a formula whose slots, from left to right, have these names. -/
def Predicate.expr (names : List String) (p : Predicate) : Expr := (p.written names).expr

namespace Grammar

/-! ## Chains of tokens -/

/-- The tokens form a chain of links with an operator between them. -/
inductive Links (op : InfixOp) : List Token → List Expr → Prop where
  | one {ts : List Token} {e : Expr} (h : Derives op.precedence.next ts e) : Links op ts [e]
  | append {ts us : List Token} {es fs : List Expr} (h : Links op ts es) (h' : Links op us fs) :
      Links op (ts ++ .symbol op.symbol :: us) (es ++ fs)

/-- A chain after an expression of its level goes on with it. -/
theorem Links.derives_after {op : InfixOp} (hop : op ≠ .pow) {us : List Token} {fs : List Expr}
    (h : Links op us fs) {ts : List Token} {e : Expr} (he : Derives op.precedence ts e) :
    Derives op.precedence (ts ++ .symbol op.symbol :: us) (fs.foldl (.infixed op) e) := by
  induction h generalizing ts e with
  | one h => exact .infixed op hop he h
  | append _ _ ih ih' =>
    rw [List.foldl_append, ← List.cons_append, ← List.append_assoc]
    exact ih' (ih he)

/-- A chain groups to the left. -/
theorem Links.derives {op : InfixOp} (hop : op ≠ .pow) {ts : List Token} {es : List Expr}
    (h : Links op ts es) :
    ∃ first rest, es = first :: rest ∧ Derives op.precedence ts (rest.foldl (.infixed op) first) := by
  induction h with
  | one h => exact ⟨_, [], rfl, .tighter h⟩
  | append h h' ih ih' =>
    obtain ⟨first, rest, rfl, hfirst⟩ := ih
    refine ⟨first, rest ++ _, rfl, ?_⟩
    rw [List.foldl_append]
    exact h'.derives_after hop hfirst

/-! ## Printed expressions -/

/-- The text is read as an expression at a level. -/
def Prints (text : String) (p : Precedence) (e : Expr) : Prop := ∃ ts, Printed text ts ∧ Derives p ts e

/-- The text is read as a chain of links. -/
def PrintsLinks (text : String) (op : InfixOp) (es : List Expr) : Prop :=
  ∃ ts, Printed text ts ∧ Links op ts es

/-- The words of generated source that are no names of slots. -/
def otherWords : List String := ["undefined", "null", "true", "false", "typeof", "Math"]

/-- Words that are names of slots. -/
def isName (word : String) : Bool := Render.isDotName word && !otherWords.contains word

namespace Prints

variable {text l r : String} {p : Precedence} {e f : Expr}

theorem loosen (h : Prints text p e) {q : Precedence} (hpq : q.strength ≤ p.strength) :
    Prints text q e := by
  obtain ⟨ts, hts, he⟩ := h
  exact ⟨ts, hts, he.loosen hpq⟩

theorem toLogicalOr (h : Prints text p e) : Prints text .logicalOr e := h.loosen (Nat.zero_le _)

theorem word {word : String} (h : Render.isDotName word) (hop : word ≠ "typeof") :
    Prints word .memberAccess (.name word) := by
  have hword := Printed.word h
  rw [wordToken, if_neg hop] at hword
  exact ⟨_, hword, .name word⟩

theorem slot {name : String} (h : isName name) : Prints name .memberAccess (.name name) := by
  rw [isName, Bool.and_eq_true] at h
  refine word h.1 ?_
  rintro rfl
  exact absurd h.2 (by decide)

theorem parens (h : Prints text p e) : Prints ("(" ++ text ++ ")") .memberAccess e := by
  obtain ⟨ts, hts, he⟩ := h.toLogicalOr
  exact ⟨_, hts.parens, .parens he⟩

theorem bang (h : Prints text .unary e) : Prints ("!" ++ text) .unary (.prefixed .not e) := by
  obtain ⟨ts, hts, he⟩ := h
  exact ⟨_, hts.bang, .prefixed .not he⟩

theorem tilde (h : Prints text .unary e) : Prints ("~" ++ text) .unary (.prefixed .bitNot e) := by
  obtain ⟨ts, hts, he⟩ := h
  exact ⟨_, hts.tilde, .prefixed .bitNot he⟩

theorem typeOf (h : Prints text .unary e) :
    Prints ("typeof " ++ text) .unary (.prefixed .typeOf e) := by
  obtain ⟨ts, hts, he⟩ := h
  exact ⟨_, hts.typeOf, .prefixed .typeOf he⟩

theorem between (op : InfixOp) (hop : op ≠ .pow) (hl : Prints l op.precedence e)
    (hr : Prints r op.precedence.next f) :
    Prints (l ++ " " ++ op.symbol ++ " " ++ r) op.precedence (.infixed op e f) := by
  obtain ⟨ts, hts, he⟩ := hl
  obtain ⟨us, hus, hf⟩ := hr
  exact ⟨_, hts.between op hus, .infixed op hop he hf⟩

theorem power (hl : Prints l .memberAccess e) (hr : Prints r .exponentiation f) :
    Prints (l ++ " " ++ InfixOp.pow.symbol ++ " " ++ r) .exponentiation (.infixed .pow e f) := by
  obtain ⟨ts, hts, he⟩ := hl
  obtain ⟨us, hus, hf⟩ := hr
  exact ⟨_, hts.between .pow hus, .power he hf⟩

theorem mathCall_one {field : String} (hfield : Render.isDotName field) (hop : field ≠ "typeof")
    (h : Prints text p e) :
    Prints ("Math." ++ field ++ "(" ++ text ++ ")") .memberAccess (mathCall field [e]) := by
  obtain ⟨ts, hts, he⟩ := h.toLogicalOr
  exact ⟨_, hts.mathCall hfield hop, .call (.member field (.name "Math")) (.last he)⟩

theorem mathCall_two {field : String} (hfield : Render.isDotName field) (hop : field ≠ "typeof")
    {q : Precedence} (hl : Prints l p e) (hr : Prints r q f) :
    Prints ("Math." ++ field ++ "(" ++ (l ++ ", " ++ r) ++ ")") .memberAccess
      (mathCall field [e, f]) := by
  obtain ⟨ts, hts, he⟩ := hl.toLogicalOr
  obtain ⟨us, hus, hf⟩ := hr.toLogicalOr
  exact ⟨_, (hts.comma hus).mathCall hfield hop,
    .call (.member field (.name "Math")) (.cons he (.last hf))⟩

/-- A text that is read as an expression is that expression alone. -/
theorem parses_iff (h : Prints text p e) (f : Expr) : Parses text f ↔ f = e := by
  obtain ⟨ts, hts, he⟩ := h.toLogicalOr
  have hreads := hts.reads [] trivial
  rw [List.append_nil] at hreads
  have hparses : Parses text e := ⟨ts, [], hreads, rfl, he⟩
  exact ⟨fun hf => hf.unique hparses, fun hf => hf ▸ hparses⟩

end Prints

namespace PrintsLinks

variable {text l r : String} {op : InfixOp} {es fs : List Expr}

theorem one {p : Precedence} {e : Expr} (h : Prints text p e)
    (hp : op.precedence.next.strength ≤ p.strength) : PrintsLinks text op [e] := by
  obtain ⟨ts, hts, he⟩ := h.loosen hp
  exact ⟨ts, hts, .one he⟩

theorem append (hl : PrintsLinks l op es) (hr : PrintsLinks r op fs) :
    PrintsLinks (l ++ " " ++ op.symbol ++ " " ++ r) op (es ++ fs) := by
  obtain ⟨ts, hts, he⟩ := hl
  obtain ⟨us, hus, hf⟩ := hr
  exact ⟨_, hts.between op hus, .append he hf⟩

/-- A chain of links is an expression of the level of its operator. -/
theorem prints (hop : op ≠ .pow) (h : PrintsLinks text op es) (none : Expr) :
    Prints text op.precedence (Written.ofLinks op none es).expr := by
  obtain ⟨ts, hts, hlinks⟩ := h
  obtain ⟨first, rest, rfl, he⟩ := hlinks.derives hop
  exact ⟨ts, hts, he⟩

end PrintsLinks

end Grammar

end Criteria
