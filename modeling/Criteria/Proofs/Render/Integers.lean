import Criteria.Proofs.Eval.Integers
import Criteria.Proofs.Render.Logic

/-!
# What generated integer expressions mean

* `Expr.integer` — the value of a generated integer expression.
* `integer_predicate` — the body of the source of an integer tree has a value with the integer of the
  tree.
* `toSource_integer` — it has the value of the tree on all arguments, unless the tree is written as one
  slot that is not an integer.

An exclusive or of one operand is written as this operand. Its value in a tree is an integer all the
same.
-/

set_option autoImplicit false

namespace Criteria

open Decision (argAt)
open Grammar ParamNames

/-! ## Values of expressions -/

/-- The exclusive or of the integers of two values. -/
def xorValues (s : Store) (x y : Option Value) : Option Value :=
  x.bind fun v => y.bind fun w => some (.int (s.int64 v ^^^ s.int64 w))

theorem xorValues_assoc (s : Store) (x y z : Option Value) :
    xorValues s (xorValues s x y) z = xorValues s x (xorValues s y z) := by
  cases x with
  | none => rfl
  | some u =>
    cases y with
    | none => rfl
    | some v =>
      cases z with
      | none => rfl
      | some w =>
        change some (Value.int (s.int64 (.int (s.int64 u ^^^ s.int64 v)) ^^^ s.int64 w)) =
          some (.int (s.int64 u ^^^ s.int64 (.int (s.int64 v ^^^ s.int64 w))))
        rw [int64_int, int64_int, Int64.xor_assoc]

namespace Grammar.Expr

/-- The value of an integer expression, where `look` gives the values of parameters: operators read
the integers of their operands. -/
def integer (s : Store) (look : String → Option Value) : Expr → Option Value
  | prefixed .bitNot e => (e.integer s look).map fun v => UnaryOp.bitNot.apply s v
  | infixed .bitXor left right => xorValues s (left.integer s look) (right.integer s look)
  | e => e.value look

theorem integer_infixed (s : Store) (look : String → Option Value) (left right : Expr) :
    (infixed .bitXor left right).integer s look =
      xorValues s (left.integer s look) (right.integer s look) := by
  rw [integer]

/-- A chain after an expression. -/
theorem integer_foldl (s : Store) (look : String → Option Value) (e first : Expr)
    (rest : List Expr) :
    (rest.foldl (infixed .bitXor) (infixed .bitXor e first)).integer s look =
      xorValues s (e.integer s look) ((rest.foldl (infixed .bitXor) first).integer s look) :=
  foldl_infixed (integer_infixed s look) (xorValues_assoc s) e first rest

end Grammar.Expr

/-! ## Trees that are written as one slot -/

mutual

/-- The slot that the operand is written as, if it is written without an operator. -/
def Operand.sole? : Operand → Option Operand
  | .nested p => p.sole?
  | x => some x

/-- The slot that the tree is written as, if it is written without an operator. -/
def Predicate.sole? : Predicate → Option Operand
  | .boolean .xor [x] => x.sole?
  | _ => none

end

/-- The tree is written as one slot that need not hold an integer. -/
def Predicate.IsUnconverted (p : Predicate) : Prop :=
  ∃ x, p.sole? = some x ∧ ∀ n, x ≠ .literal (.int n)

/-! ## The body of the source -/

/-- A plain literal is written as an expression that has its value. -/
theorem integer_literal (s : Store) (look : String → Option Value) {v : Value} (hv : v.isPlain) :
    v.expr.integer s look = some v := by
  have hvalue := value_literal look hv
  cases v with
  | int n =>
    rw [Value.expr] at hvalue ⊢
    split
    · rename_i hn
      rw [if_pos hn] at hvalue
      exact hvalue
    · rename_i hn
      rw [if_neg hn] at hvalue
      exact hvalue
  | bool b => cases b <;> exact hvalue
  | undefined | null | str => exact hvalue
  | _ => cases hv

section InPlace

variable {s : Store} {look : String → Option Value} {all : List String} {arg : Nat → Value}

theorem integer_name (hbinds : Binds look all arg) {first : Nat} (h : first < all.length) :
    (Expr.name ((all.drop first).headD "")).integer s look = some (arg first) := by
  obtain ⟨hname, hlook⟩ := hbinds first h
  rw [List.headD_eq_head?_getD, List.head?_drop, List.getElem?_eq_getElem h]
  change (if isName all[first] then look all[first] else _) = _
  rw [if_pos hname, hlook]

mutual

/-- The expression of an operand has a value with the integer of the operand. -/
theorem integer_operand (hbinds : Binds look all arg) : ∀ {x : Operand}, x.isIntegral →
    ∀ {first : Nat}, first + x.slots ≤ all.length →
      ∃ v, (x.written (all.drop first)).expr.integer s look = some v ∧
        s.int64 v = x.number s arg first ∧ (x.sole? = none → ∃ n, v = .int n)
  | .unset, _, first, hlen => by
    rw [Operand.written]
    exact ⟨_, integer_name hbinds hlen, rfl, nofun⟩
  | .nested p, h, first, hlen => by
    rw [Operand.isIntegral] at h
    rw [Operand.written, Operand.number, Operand.sole?]
    exact integer_predicate hbinds h hlen
  | .literal v, h, first, _ => ⟨v, integer_literal s look h, rfl, nofun⟩

/-- The expression of an integer tree has a value with the integer of the tree. The value is this
integer when there is an operator. -/
theorem integer_predicate (hbinds : Binds look all arg) : ∀ {p : Predicate}, p.isIntegral →
    ∀ {first : Nat}, first + p.slots ≤ all.length →
      ∃ v, (p.written (all.drop first)).expr.integer s look = some v ∧
        s.int64 v = p.number s arg first ∧ (p.sole? = none → ∃ n, v = .int n)
  | .unary .bitNot x, h, first, hlen => by
    rw [Predicate.isIntegral] at h
    obtain ⟨v, hv, hnumber, -⟩ := integer_operand hbinds h hlen
    refine ⟨UnaryOp.bitNot.apply s v, ?_, ?_, fun _ => ⟨_, rfl⟩⟩
    · rw [Predicate.written]
      exact congrArg (Option.map _) hv
    · rw [Predicate.number, ← hnumber]
      exact int64_int s _
  | .boolean .xor xs, h, first, hlen => by
    rw [Predicate.isIntegral] at h
    obtain ⟨v, hv, hnumber, hint⟩ := integer_chain hbinds h hlen
    refine ⟨v, hv, hnumber, fun hsole => hint fun x hx => ?_⟩
    rw [hx, Predicate.sole?] at hsole
    exact hsole

theorem integer_chain (hbinds : Binds look all arg) : ∀ {xs : List Operand},
    Operand.allIntegral xs → ∀ {first : Nat}, first + Operand.slotSum xs ≤ all.length →
      ∃ v, (Written.ofLinks .bitXor (.number 0)
          (Operand.links .bitXor (all.drop first) xs)).expr.integer s look = some v ∧
        s.int64 v = Operand.numberSum s arg first xs ∧
        ((∀ x, xs = [x] → x.sole? = none) → ∃ n, v = .int n)
  | [], _, _, _ => ⟨.int 0, rfl, int64_int s 0, fun _ => ⟨0, rfl⟩⟩
  | [x], h, first, hlen => by
    rw [Operand.allIntegral, Bool.and_eq_true] at h
    obtain ⟨v, hv, hnumber, hint⟩ := integer_operand hbinds h.1 hlen
    refine ⟨v, ?_, ?_, fun hsole => hint (hsole x rfl)⟩
    · rw [Operand.links, Operand.links, Written.expr_ofLinks_append]
      exact hv
    · rw [Operand.numberSum, Operand.numberSum, Int64.xor_zero]
      exact hnumber
  | x :: y :: rest, h, first, hlen => by
    rw [Operand.allIntegral, Bool.and_eq_true] at h
    rw [Operand.slotSum] at hlen
    have hlenx : first + x.slots ≤ all.length := by omega
    have hlenrest : first + x.slots + Operand.slotSum (y :: rest) ≤ all.length := by omega
    obtain ⟨v, hv, hnumber, -⟩ := integer_operand hbinds h.1 hlenx
    obtain ⟨w, hw, hrest, -⟩ := integer_chain hbinds h.2 hlenrest
    obtain ⟨e, es, hlinks⟩ := List.exists_cons_of_ne_nil
      (Operand.links_ne_nil .bitXor (all.drop (first + x.slots)) (List.cons_ne_nil y rest))
    rw [hlinks] at hw
    refine ⟨.int (s.int64 v ^^^ s.int64 w), ?_, ?_, fun _ => ⟨_, rfl⟩⟩
    · rw [Operand.links, List.drop_drop, Written.expr_ofLinks_append, hlinks]
      refine (Expr.integer_foldl s look _ e es).trans ?_
      rw [hv]
      exact congrArg (xorValues s (some v)) hw
    · rw [int64_int, hnumber, hrest]
      rfl

end

end InPlace

mutual

theorem Operand.written_sole (names : List String) : ∀ {x y : Operand}, x.sole? = some y →
    (x.written names).expr = (y.written names).expr ∧ x.slots = y.slots ∧
      (x.isIntegral → y = .unset ∨ ∃ v, y = .literal v ∧ v.isPlain)
  | .unset, _, h => by
    cases h
    exact ⟨rfl, rfl, fun _ => .inl rfl⟩
  | .literal v, _, h => by
    cases h
    exact ⟨rfl, rfl, fun hv => .inr ⟨v, rfl, hv⟩⟩
  | .nested p, y, h => by
    rw [Operand.sole?] at h
    rw [Operand.written, Operand.slots, Operand.isIntegral]
    exact Predicate.written_sole names h

/-- A tree that is written as one slot has the expression of this slot. -/
theorem Predicate.written_sole (names : List String) : ∀ {p : Predicate} {y : Operand},
    p.sole? = some y →
    (p.written names).expr = (y.written names).expr ∧ p.slots = y.slots ∧
      (p.isIntegral → y = .unset ∨ ∃ v, y = .literal v ∧ v.isPlain)
  | .boolean .xor [x], y, h => by
    rw [Predicate.sole?] at h
    obtain ⟨hwritten, hslots, hplain⟩ := Operand.written_sole names h
    refine ⟨?_, ?_, fun hx => ?_⟩
    · rw [Predicate.written, Operand.links, Operand.links, BooleanOp.infixOp,
        Written.expr_ofLinks_append]
      exact hwritten
    · rw [Predicate.slots, Operand.slotSum, Operand.slotSum]
      exact hslots
    · rw [Predicate.isIntegral, Operand.allIntegral, Bool.and_eq_true] at hx
      exact hplain hx.1

end

/-! ## The body and the tree -/

mutual

theorem Operand.isFormula_of_isIntegral : ∀ {x : Operand}, x.isIntegral → x.isFormula
  | .unset, _ => rfl
  | .nested p, h => by
    rw [Operand.isIntegral] at h
    rw [Operand.isFormula]
    exact Predicate.isFormula_of_isIntegral h
  | .literal _, h => h

theorem Predicate.isFormula_of_isIntegral : ∀ {p : Predicate}, p.isIntegral → p.isFormula
  | .unary .bitNot x, h => by
    rw [Predicate.isIntegral] at h
    rw [Predicate.isFormula]
    exact Operand.isFormula_of_isIntegral h
  | .boolean .xor xs, h => by
    rw [Predicate.isIntegral] at h
    rw [Predicate.isFormula]
    exact Operand.allFormulas_of_allIntegral h

theorem Operand.allFormulas_of_allIntegral :
    ∀ {xs : List Operand}, Operand.allIntegral xs → Operand.allFormulas xs
  | [], _ => rfl
  | x :: rest, h => by
    rw [Operand.allIntegral, Bool.and_eq_true] at h
    rw [Operand.allFormulas, Bool.and_eq_true]
    exact ⟨Operand.isFormula_of_isIntegral h.1, Operand.allFormulas_of_allIntegral h.2⟩

end

section Body

variable {t : Predicate} {names : List String} {args : List Value}

/-- The body of the source of an integer tree has a value with the integer of the tree. -/
theorem integer_body (s : Store) (ht : t.isIntegral)
    (hbinds : Binds (bindings names args) names (argAt args)) (hlen : t.slots = names.length) :
    ∃ v, (t.expr names).integer s (bindings names args) = some v ∧
      s.int64 v = t.number s (argAt args) 0 ∧ (¬t.IsUnconverted → v = .int (s.int64 v)) := by
  have hroom : 0 + t.slots ≤ names.length := by omega
  obtain ⟨v, hv, hnumber, hint⟩ := integer_predicate (s := s) hbinds ht hroom
  refine ⟨v, hv, hnumber, fun hconverted => ?_⟩
  cases hsole : t.sole? with
  | none =>
    obtain ⟨n, rfl⟩ := hint hsole
    rw [int64_int]
  | some x =>
    have hx : ∃ n, x = .literal (.int n) := by
      by_contra hnone
      exact hconverted ⟨x, hsole, fun n hn => hnone ⟨n, hn⟩⟩
    obtain ⟨n, rfl⟩ := hx
    rw [(Predicate.written_sole _ hsole).1] at hv
    have hvn := hv.symm.trans (integer_literal s _ (v := .int n) rfl)
    cases hvn
    rw [int64_int]

/-- On some arguments the slot that an unconverted tree is written as is no integer. -/
theorem exists_body_ne (s : Store) (ht : t.isIntegral) (hbare : t.IsUnconverted)
    (hnodup : names.Nodup) (hnames : ∀ name ∈ names, isName name) (hlen : t.slots = names.length) :
    ∃ args, names.length ≤ args.length ∧ (∀ v ∈ args, ∀ f, v ≠ .function f) ∧
      ∀ n, (t.expr names).integer s (bindings names args) ≠ some (.int n) := by
  obtain ⟨x, hsole, hx⟩ := hbare
  obtain ⟨hwritten, hslots, hplain⟩ := Predicate.written_sole names hsole
  rw [Predicate.expr, hwritten]
  rcases hplain ht with rfl | ⟨v, rfl, hv⟩
  · have hone : names.length = 1 := hlen.symm.trans hslots
    have hroom : names.length ≤ [Value.bool true].length := Nat.le_of_eq hone
    refine ⟨[.bool true], hroom, by simp, fun n => ?_⟩
    have hfirst : 0 < names.length := by omega
    have hname := integer_name (s := s) (binds_bindings hnodup hnames hroom) hfirst
    rw [Operand.written]
    change (Expr.name ((names.drop 0).headD "")).integer s _ ≠ _
    rw [hname]
    exact nofun
  · have hzero : names.length = 0 := hlen.symm.trans hslots
    refine ⟨[], Nat.le_of_eq hzero, by simp, fun n => ?_⟩
    rw [Operand.written, Written.expr, integer_literal s _ hv]
    intro he
    exact hx n (congrArg Operand.literal (Option.some.inj he))

end Body

/-- **What the body means.** The source of an integer tree has one parameter for each argument, and its
body is one expression. On enough arguments, the tree gives the integer of the value of the body. They
have the same value on all arguments exactly when the tree is not written as one slot that need not
hold an integer. -/
theorem toSource_integer (i : Interpreter) (s : Store) (t : Predicate) (ht : t.isIntegral) :
    match t.toSource s with
    | .error f => nameCapacity < t.slots ∧ f = .allocation (capCount t.slots)
    | .ok src => t.argCount = .ok src.params.length ∧
      ∃ e, (∀ e', Parses src.body e' ↔ e' = e) ∧
        (∀ args w, src.params.length ≤ args.length →
          ∃ v, e.integer w.store (bindings src.params args) = some v ∧
            (i.callPredicate t args).run w = .ok (.int (w.store.int64 v)) w) ∧
        ((∀ args w, src.params.length ≤ args.length → (∀ v ∈ args, ∀ f, v ≠ .function f) →
          ∃ v, e.integer w.store (bindings src.params args) = some v ∧
            (i.callPredicate t args).run w = .ok v w) ↔ ¬t.IsUnconverted) := by
  have hformula := Predicate.isFormula_of_isIntegral ht
  rcases t.toSource_isFormula s hformula with ⟨hcap, herr⟩ | ⟨src, hsrc⟩
  · rw [herr]
    exact ⟨hcap, rfl⟩
  rw [hsrc]
  obtain ⟨hcount, hlen, hnodup, hnames⟩ := Predicate.params_of_isFormula hformula hsrc
  have hvalue : ∀ args (w : World), src.params.length ≤ args.length →
      ∃ v, (t.expr src.params).integer w.store (bindings src.params args) = some v ∧
        (i.callPredicate t args).run w = .ok (.int (w.store.int64 v)) w ∧
        (¬t.IsUnconverted → v = .int (w.store.int64 v)) := by
    intro args w hargs
    have hbinds := binds_bindings hnodup hnames hargs
    obtain ⟨v, hv, hnumber, hint⟩ := integer_body w.store ht hbinds hlen.symm
    refine ⟨v, hv, ?_, hint⟩
    rw [hnumber]
    exact callPredicate_integral i ht (hlen ▸ hargs) w
  refine ⟨hlen ▸ hcount, t.expr src.params, Predicate.parses_of_toSource hformula hsrc,
    fun args w hargs => ?_, fun hall hbare => ?_, fun hconverted args w hargs _ => ?_⟩
  · obtain ⟨v, hv, hcall, -⟩ := hvalue args w hargs
    exact ⟨v, hv, hcall⟩
  · obtain ⟨args, hargs, hcallable, hne⟩ := exists_body_ne ({} : Store) ht hbare hnodup hnames hlen.symm
    obtain ⟨v, hbody, htree⟩ := hall args {} hargs hcallable
    obtain ⟨u, -, hcall, -⟩ := hvalue args {} hargs
    rw [hcall] at htree
    cases htree
    exact hne _ hbody
  · obtain ⟨v, hv, hcall, hint⟩ := hvalue args w hargs
    exact ⟨v, hv, by rw [hcall, ← hint hconverted]⟩

/-- An exclusive or that takes in another one, with a complement. -/
theorem toSource_integer_nested :
    let i : Interpreter := { host := fun _ _ _ => return .undefined }
    let t : Predicate := .boolean .xor [.nested (.boolean .xor [.unset, .literal (.bool true)]),
      .nested (.unary .bitNot (.nested (.boolean .xor [.unset])))]
    let args : List Value := [.int 6, .bool false]
    t.isIntegral ∧ ¬t.IsUnconverted ∧ ∃ src, t.toSource {} = .ok src ∧
      src.body = "a ^ true ^ ~(b)" ∧ ∃ e, (∀ e', Parses src.body e' ↔ e' = e) ∧
        e.integer {} (bindings src.params args) = some (.int (-8)) ∧
        (i.callPredicate t args).run {} = .ok (.int (-8)) {} := by
  intro i t args
  have hsrc : Predicate.toSource {} (.boolean .xor
      [.nested (.boolean .xor [.unset, .literal (.bool true)]),
        .nested (.unary .bitNot (.nested (.boolean .xor [.unset])))]) =
      .ok ⟨["a", "b"], "a ^ true ^ ~(b)", .bitwiseXor⟩ := by rfl
  have hconverted : ¬t.IsUnconverted := by
    rintro ⟨x, hsole, -⟩
    cases hsole
  have hmeaning := toSource_integer i {} t rfl
  rw [hsrc] at hmeaning
  obtain ⟨-, e, hparses, -, hagree⟩ := hmeaning
  obtain ⟨v, hbody, htree⟩ := hagree.mpr hconverted args {} (by decide) (by simp [args])
  have hnumber : t.number {} (argAt args) 0 = -8 := by
    change ((({} : Store).int64 (.int 6) ^^^ (({} : Store).int64 (.bool true) ^^^ 0)) ^^^
      (~~~(({} : Store).int64 (.bool false) ^^^ 0) ^^^ 0)) = -8
    rw [int64_int, int64_bool, int64_bool]
    decide
  have hcall := callPredicate_integral i (t := t) rfl (by decide : t.slots ≤ args.length) {}
  rw [hnumber] at hcall
  rw [hcall] at htree
  cases htree
  exact ⟨rfl, hconverted, _, hsrc, rfl, e, hparses, hbody, hcall⟩

/-- An exclusive or of one slot: the tree gives the integer of a truth value where the body is the
truth value. -/
theorem toSource_lone_slot :
    let i : Interpreter := { host := fun _ _ _ => return .undefined }
    let t : Predicate := .boolean .xor [.unset]
    t.isIntegral ∧ ∃ src, t.toSource {} = .ok src ∧ src.params = ["a"] ∧ src.body = "a" ∧
      ∃ e, (∀ e', Parses src.body e' ↔ e' = e) ∧
        e.integer {} (bindings src.params [.bool true]) = some (.bool true) ∧
        (i.callPredicate t [.bool true]).run {} = .ok (.int 1) {} := by
  intro i t
  have hsrc : Predicate.toSource {} (.boolean .xor [.unset]) =
      .ok ⟨["a"], "a", .bitwiseXor⟩ := by rfl
  have ht : t.isIntegral := rfl
  have hnumber : t.number {} (argAt [.bool true]) 0 = 1 := by
    change ({} : Store).int64 (.bool true) ^^^ 0 = 1
    rw [int64_bool]
    decide
  have hcall := callPredicate_integral i ht (by decide : t.slots ≤ [Value.bool true].length) {}
  rw [hnumber] at hcall
  exact ⟨ht, _, hsrc, rfl, rfl, _,
    Predicate.parses_of_toSource (Predicate.isFormula_of_isIntegral ht) hsrc, rfl, hcall⟩

end Criteria
