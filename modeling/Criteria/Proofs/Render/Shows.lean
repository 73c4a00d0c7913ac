import Criteria.Proofs.Render.Written
import Criteria.Render.Source

/-!
# What a text shows

* `Shows` — a text is read as an expression, and as links in a chain of its class.
* `prints_unary`, `prints_binary` — an operator with its operands, in parentheses where the rules ask
  for them.
* `shows_literal`, `shows_type` — the leaves of a formula.
-/

set_option autoImplicit false

namespace Criteria

open Grammar

/-! ## Parentheses -/

/-- The level at which an operand is written. A negative number counts as an atom, but starts with an
operator. -/
def Operand.level (x : Operand) (inner : Precedence) : Precedence :=
  if x.isNegativeNumber then .unary else inner

theorem Precedence.lt_iff {p q : Precedence} : p < q ↔ p.strength < q.strength := Iff.rfl

/-- An operand at a position. -/
def atPosition (operator : Precedence) (x : Operand) (position : Position) (inner : Precedence)
    (text : String) : String :=
  if position.needsParens operator inner x then "(" ++ text ++ ")" else text

section Parentheses

variable {operator inner : Precedence} {x : Operand} {position : Position}

/-- An operand without parentheses does not bind more loosely than the operator. -/
theorem strength_le_of_needsParens (h : position.needsParens operator inner x = false) :
    operator.strength ≤ inner.strength := by
  by_contra hlt
  have hloose : inner < operator := Precedence.lt_iff.mpr (by omega)
  unfold Position.needsParens at h
  rw [if_pos hloose] at h
  cases h

theorem strength_le_level (h : position.needsParens operator inner x = false)
    (hop : operator.strength ≤ Precedence.unary.strength) :
    operator.strength ≤ (x.level inner).strength := by
  have hge := strength_le_of_needsParens h
  unfold Operand.level
  split <;> omega

/-- On the right of an operator that groups to the left, it binds more tightly. -/
theorem next_strength_le_level (h : Position.right.needsParens operator inner x = false)
    (hop : operator.strength < Precedence.exponentiation.strength) :
    operator.next.strength ≤ (x.level inner).strength := by
  have hge := strength_le_of_needsParens h
  have hne : inner ≠ operator := by
    rintro rfl
    have hassoc : inner.isRightAssociative = false := by
      refine decide_eq_false fun he => ?_
      rw [he] at hop
      exact Nat.lt_irrefl _ hop
    simp [Position.needsParens, Precedence.lt_iff, hassoc] at h
  have hne' : inner.strength ≠ operator.strength := fun he => hne (eq_of_strength he)
  have hunary : Precedence.exponentiation.strength < Precedence.unary.strength := by decide
  have hmax : Precedence.exponentiation.strength < Precedence.memberAccess.strength := by decide
  rw [strength_next (by omega)]
  unfold Operand.level
  split <;> omega

/-- The base of an exponentiation without parentheses is an atom, and no negative number. -/
theorem level_of_base (h : Position.left.needsParens .exponentiation inner x = false) :
    x.level inner = .memberAccess := by
  have hge := strength_le_of_needsParens h
  cases hneg : x.isNegativeNumber with
  | true =>
    cases inner <;> first | exact absurd hge (by decide) |
      simp [Position.needsParens, hneg, Precedence.isRightAssociative] at h
  | false =>
    have hlevel : x.level inner = inner := if_neg (by rw [hneg]; decide)
    rw [hlevel]
    cases inner <;> first | rfl | exact absurd hge (by decide) |
      simp [Position.needsParens, Precedence.isRightAssociative] at h

/-- An operand is read at the level that its position asks for. -/
theorem Grammar.Prints.atPosition {text : String} {e : Expr} (h : Prints text (x.level inner) e)
    {required : Precedence} (hreq : position.needsParens operator inner x = false →
      required.strength ≤ (x.level inner).strength) :
    Prints (atPosition operator x position inner text) required e := by
  unfold Criteria.atPosition
  split
  · exact h.parens.loosen (strength_le required)
  · rename_i hparens
    exact h.loosen (hreq (Bool.eq_false_iff.mpr hparens))

end Parentheses

/-! ## What a text shows -/

theorem BooleanOp.precedence_infixOp (op : BooleanOp) : op.infixOp.precedence = op.precedence := by
  cases op <;> rfl

theorem BooleanOp.symbol_infixOp (op : BooleanOp) : op.infixOp.symbol = op.symbol := by
  cases op <;> rfl

theorem BooleanOp.infixOp_ne_pow (op : BooleanOp) : op.infixOp ≠ .pow := by
  cases op <;> decide

theorem BooleanOp.eq_of_precedence {op op' : BooleanOp} (h : op.precedence = op'.precedence) :
    op = op' := by
  cases op <;> cases op' <;> first | rfl | exact absurd h (by decide)

theorem Written.links_ofLinks {op : InfixOp} {none : Expr} {es : List Expr} (h : es ≠ []) :
    (ofLinks op none es).links op = es := by
  cases es with
  | nil => exact absurd rfl h
  | cons first rest => exact if_pos rfl

theorem Written.links_ofLinks_of_ne {op op' : InfixOp} (h : op ≠ op') (none : Expr)
    (es : List Expr) : (ofLinks op none es).links op' = [(ofLinks op none es).expr] := by
  cases es with
  | nil => rfl
  | cons first rest => exact if_neg h

/-- The text of a formula whose outermost operator is of the class: it is read as the expression, and
in a chain of the class as the links. -/
structure Shows (text : String) (p : Precedence) (w : Written) : Prop where
  expr : Prints text p w.expr
  links : ∀ op : BooleanOp, p = op.precedence → PrintsLinks text op.infixOp (w.links op.infixOp)
  apart : ∀ op : BooleanOp, p ≠ op.precedence → w.links op.infixOp = [w.expr]

namespace Shows

variable {text : String} {p : Precedence} {e : Expr}

/-- An operator that is in no chain. -/
theorem single (h : Prints text p e) (hp : ∀ op : BooleanOp, p ≠ op.precedence) :
    Shows text p (.single e) :=
  ⟨h, fun op hop => absurd hop (hp op), fun _ _ => rfl⟩

/-- An atom, of whatever class it is taken to be. -/
theorem atom (h : Prints text .memberAccess e) (p : Precedence) : Shows text p (.single e) :=
  ⟨h.loosen (strength_le p), fun _ _ => .one h (strength_le _), fun _ _ => rfl⟩

theorem chain {op : BooleanOp} {es : List Expr} (h : PrintsLinks text op.infixOp es) (none : Expr) :
    Shows text op.precedence (.ofLinks op.infixOp none es) := by
  have hne : es ≠ [] := by
    obtain ⟨ts, -, hlinks⟩ := h
    obtain ⟨first, rest, rfl, -⟩ := hlinks.derives op.infixOp_ne_pow
    exact List.cons_ne_nil first rest
  refine ⟨?_, fun op' hop' => ?_, fun op' hop' => ?_⟩
  · rw [← op.precedence_infixOp]
    exact h.prints op.infixOp_ne_pow none
  · rw [← BooleanOp.eq_of_precedence hop', Written.links_ofLinks hne]
    exact h
  · refine Written.links_ofLinks_of_ne (fun he => hop' ?_) none es
    rw [← op.precedence_infixOp, ← op'.precedence_infixOp, he]

/-- A link of a chain. -/
theorem link {x : Operand} {inner : Precedence} {w : Written} (h : Shows text (x.level inner) w)
    (op : BooleanOp) :
    PrintsLinks (atPosition op.precedence x .chain inner text) op.infixOp (w.links op.infixOp) := by
  by_cases hlevel : x.level inner = op.precedence
  · have hinner : inner = op.precedence := by
      unfold Operand.level at hlevel
      split at hlevel
      · cases op <;> cases hlevel
      · exact hlevel
    have hparens : Position.chain.needsParens op.precedence inner x = false := by
      rw [hinner]
      simp [Position.needsParens, Precedence.lt_iff]
    rw [atPosition, if_neg (by rw [hparens]; decide)]
    exact h.links op hlevel
  · rw [h.apart op hlevel]
    have hnext : op.infixOp.precedence.next.strength = op.precedence.strength + 1 := by
      cases op <;> rfl
    have hprints : Prints (atPosition op.precedence x .chain inner text)
        op.infixOp.precedence.next w.expr := by
      refine h.expr.atPosition fun hparens => ?_
      have hge := strength_le_level hparens (by cases op <;> decide)
      have hne : (x.level inner).strength ≠ op.precedence.strength :=
        fun he => hlevel (eq_of_strength he)
      omega
    exact .one hprints (Nat.le_refl _)

end Shows

/-! ## Operators -/

theorem BinaryOp.infixOp?_eq {op : BinaryOp} {o : InfixOp} (h : op.infixOp? = some o) :
    o.symbol = op.symbol ∧ o.precedence = op.precedence := by
  cases op <;> cases h <;> exact ⟨rfl, rfl⟩

/-- Two operands with an operator between them. -/
theorem prints_binary {op : BinaryOp} {o : InfixOp} (ho : op.infixOp? = some o)
    {left right : Operand} {ql qr : Precedence} {l r : String} {e f : Expr}
    (hl : Prints l (left.level ql) e) (hr : Prints r (right.level qr) f) :
    Prints (atPosition op.precedence left .left ql l ++ " " ++ op.symbol ++ " " ++
      atPosition op.precedence right .right qr r) op.precedence (.infixed o e f) := by
  obtain ⟨hsymbol, hprec⟩ := BinaryOp.infixOp?_eq ho
  by_cases hpow : o = .pow
  · subst hpow
    have hbase : Prints (atPosition op.precedence left .left ql l) .memberAccess e := by
      refine hl.atPosition fun hparens => ?_
      rw [← hprec] at hparens
      exact Nat.le_of_eq (by rw [level_of_base hparens])
    have hexp : Prints (atPosition op.precedence right .right qr r) .exponentiation f := by
      refine hr.atPosition fun hparens => ?_
      rw [← hprec] at hparens
      exact strength_le_level hparens (by decide)
    rw [← hsymbol, ← hprec]
    rw [← hprec] at hbase hexp
    exact hbase.power hexp
  · have hlt : op.precedence.strength < Precedence.exponentiation.strength := by
      cases op <;> cases ho <;> first | decide | exact absurd rfl hpow
    have hleft : Prints (atPosition op.precedence left .left ql l) op.precedence e :=
      hl.atPosition fun hparens => strength_le_level hparens (Nat.le_of_lt
        (Nat.lt_trans hlt (by decide)))
    have hright : Prints (atPosition op.precedence right .right qr r) op.precedence.next f :=
      hr.atPosition fun hparens => next_strength_le_level hparens hlt
    rw [← hsymbol]
    rw [← hprec] at hleft hright ⊢
    exact hleft.between o hpow hright

/-- An operator before its operand. -/
theorem prints_unary {op : UnaryOp} (hop : op ≠ .sqrt) {x : Operand} {q : Precedence} {text : String}
    {e : Expr} (h : Prints text (x.level q) e) :
    Prints (op.symbol ++ atPosition .unary x .operand q text) .unary (op.expr e) := by
  have hx : Prints (atPosition .unary x .operand q text) .unary e :=
    h.atPosition fun hparens => strength_le_level hparens (Nat.le_refl _)
  cases op with
  | sqrt => exact absurd rfl hop
  | not => exact hx.bang
  | bitNot => exact hx.tilde
  | notNot =>
    have htwo := hx.bang.bang
    rwa [← String.append_assoc] at htwo

theorem BinaryOp.precedence_ne (op : BinaryOp) (op' : BooleanOp) :
    op.precedence ≠ op'.precedence := by
  cases op <;> cases op' <;> decide

theorem prints_integer (n : Int64) :
    Prints (toString n.toInt) ((Operand.literal (.int n)).level .memberAccess)
      (Value.int n).expr := by
  have hneg : (Operand.literal (.int n)).isNegativeNumber = decide (n.toInt < 0) := by
    simp [Operand.isNegativeNumber, Int64.lt_iff_toInt_lt]
  rw [Operand.level, hneg, Value.expr]
  by_cases hn : n.toInt < 0
  · obtain ⟨k, hk⟩ := Int.eq_negSucc_of_lt_zero hn
    have htext : toString n.toInt = "-" ++ toString (k + 1) := by rw [hk]; rfl
    rw [htext, if_pos hn, if_pos (decide_eq_true hn), hk]
    exact ⟨_, .minus (k + 1), .prefixed .minus (.tighter (.number _))⟩
  · obtain ⟨k, hk⟩ := Int.eq_ofNat_of_zero_le (Int.not_lt.mp hn)
    have htext : toString n.toInt = toString k := by rw [hk]; rfl
    rw [htext, if_neg hn, if_neg (by simpa using hn), hk]
    exact ⟨_, .numeral k, .number _⟩

/-- A plain literal. -/
theorem shows_literal (s : Store) {v : Value} (hv : v.isPlain) :
    Shows (s.literal v) ((Operand.literal v).level .memberAccess) (.single v.expr) := by
  have hword : ∀ {word : String}, Render.isDotName word → word ≠ "typeof" →
      Shows word .memberAccess (.single (.name word)) := fun hdot hop => .atom (.word hdot hop) _
  rw [Store.literal, Store.datum]
  cases v with
  | undefined => rw [Store.unfold]; exact hword rfl (by decide)
  | null => rw [Store.unfold]; exact hword rfl (by decide)
  | bool b => rw [Store.unfold]; cases b <;> exact hword rfl (by decide)
  | str t => rw [Store.unfold]; exact .atom ⟨_, .quote t, .text t⟩ _
  | int n =>
    rw [Store.unfold]
    refine .single (prints_integer n) fun op => ?_
    unfold Operand.level
    split <;> cases op <;> decide
  | _ => cases hv

/-- The value of an empty combinator is an atom. -/
theorem shows_empty (op : BooleanOp) :
    Shows (Render.emptyChain op) op.precedence (.single op.emptyExpr) := by
  have hundefined : Prints "undefined" .memberAccess (.name "undefined") := .word rfl (by decide)
  cases op with
  | or => exact .atom hundefined _
  | and => exact .atom hundefined _
  | xor => exact .atom ⟨_, .numeral 0, .number 0⟩ _

theorem prints_typeTest {arg : String} (harg : isName arg) (type : String) :
    Prints ("typeof " ++ arg ++ " == " ++ Text.quote type) .equality (typeTest arg type) := by
  have htype : Prints (Text.quote type) .memberAccess (.text type) := ⟨_, .quote type, .text type⟩
  have hleft := ((Prints.slot harg).loosen (q := .unary) (by decide)).typeOf
  have htest := (hleft.loosen (q := .equality) (by decide)).between .equal (by decide)
    (htype.loosen (by decide))
  have htext : "typeof " ++ arg ++ " == " ++ Text.quote type =
      "typeof " ++ arg ++ " " ++ InfixOp.equal.symbol ++ " " ++ Text.quote type := by
    simp [String.append_assoc, InfixOp.symbol]
  rw [htext]
  exact htest

/-- A chain with one more part before the others. -/
theorem Grammar.PrintsLinks.cons {op : InfixOp} {text : String} {parts : List String}
    {es fs : List Expr} (h : PrintsLinks text op es) (hparts : parts ≠ [])
    (hrest : PrintsLinks (String.intercalate (" " ++ op.symbol ++ " ") parts) op fs) :
    PrintsLinks (String.intercalate (" " ++ op.symbol ++ " ") (text :: parts)) op (es ++ fs) := by
  rw [String.intercalate_cons_of_ne_nil hparts]
  simpa [String.append_assoc] using h.append hrest

theorem printsLinks_typeTests {arg : String} (harg : isName arg) : ∀ {names : List String},
    names ≠ [] → PrintsLinks (String.intercalate (" " ++ InfixOp.or.symbol ++ " ")
      (names.map fun n => "typeof " ++ arg ++ " == " ++ Text.quote n)) .or
        (names.map (typeTest arg))
  | [], h => absurd rfl h
  | [n], _ => by
    rw [List.map_singleton, List.map_singleton, String.intercalate_singleton]
    exact .one (prints_typeTest harg n) (by decide)
  | n :: m :: rest, _ => by
    have htest : PrintsLinks _ .or [typeTest arg n] := .one (prints_typeTest harg n) (by decide)
    have hne : m :: rest ≠ [] := List.cons_ne_nil m rest
    exact htest.cons (List.cons_ne_nil _ _) (printsLinks_typeTests harg hne)

/-- The tests for the names of a type. -/
theorem shows_type {arg : String} (harg : isName arg) (mask : TypeMask) :
    ∃ q, (Predicate.type mask).precedence = .ok q ∧
      Shows (Render.typeTests arg mask) q
        (.ofLinks .or (.name "false") (mask.names.map (typeTest arg))) := by
  have hfalse : Prints "false" .memberAccess (.name "false") := .word rfl (by decide)
  unfold Predicate.precedence Render.typeTests
  generalize mask.names = names
  rcases names with _ | ⟨n, _ | ⟨m, rest⟩⟩
  · exact ⟨_, rfl, .atom hfalse _⟩
  · have htest := prints_typeTest harg n
    simp only [List.map_singleton, String.intercalate_singleton]
    refine ⟨.equality, rfl, htest, fun op hop => ?_, fun op _ => ?_⟩
    · cases op <;> cases hop
    · cases op <;> rfl
  · have htests := printsLinks_typeTests harg (List.cons_ne_nil n (m :: rest))
    have hchain : Shows _ BooleanOp.or.precedence _ := .chain htests (.name "false")
    exact ⟨.logicalOr, rfl, hchain⟩
end Criteria
