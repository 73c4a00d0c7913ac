import Criteria.Proofs.Eval.Logic
import Criteria.Proofs.Render.Formula

/-!
# What generated logic means

* `Expr.value` — the value of a generated expression of logic.
* `value_predicate` — the body of the source of a tree has the value of the decision of the tree, with
  each question answered by the argument of its parameter.
* `toSource_meaning` — the body and the tree have the same value on all arguments exactly when the
  decision of the tree is aligned.

The parameters belong to slots, while an evaluation takes the next argument. So the two come apart
where a combinator stops before its last slot and arguments are taken after it.
-/

set_option autoImplicit false

namespace Criteria

open Decision (argAt)
open Grammar ParamNames

/-! ## Values of expressions -/

/-- The truth at which an operator between two operands gives the first. -/
def Grammar.InfixOp.stop? : InfixOp → Option Bool
  | or => some true
  | and => some false
  | _ => none

/-- The first value if its truth is `stop`, else the second. -/
def unlessStop (stop : Bool) (first second : Option Value) : Option Value :=
  first.bind fun v => if v.isTruthy = stop then some v else second

theorem unlessStop_assoc (stop : Bool) (x y z : Option Value) :
    unlessStop stop (unlessStop stop x y) z = unlessStop stop x (unlessStop stop y z) := by
  cases x with
  | none => rfl
  | some v =>
    by_cases hv : v.isTruthy = stop <;> simp [unlessStop, hv]

namespace Grammar.Expr

/-- What a word that is not a parameter stands for. -/
def wordValue? (word : String) : Option Value :=
  if word = "undefined" then some .undefined
  else if word = "null" then some .null
  else if word = "true" then some (.bool true)
  else if word = "false" then some (.bool false)
  else none

/-- The value of an expression of logic, where `look` gives the values of parameters. The operators
between operands stop early and give the operand that decides. -/
def value (look : String → Option Value) : Expr → Option Value
  | name x => if isName x then look x else wordValue? x
  | number n => some (.int (Int64.ofInt n))
  | text s => some (.str s)
  | prefixed .not e => (e.value look).map fun v => .bool !v.isTruthy
  | prefixed .minus (number n) => some (.int (Int64.ofInt (-n)))
  | infixed op left right =>
    op.stop?.bind fun stop => unlessStop stop (left.value look) (right.value look)
  | _ => none

variable {look : String → Option Value} {op : InfixOp} {stop : Bool}

theorem value_infixed (hop : op.stop? = some stop) (left right : Expr) :
    (infixed op left right).value look = unlessStop stop (left.value look) (right.value look) := by
  rw [value, hop]
  rfl

/-- A chain after an expression, where the operator has an associative meaning. -/
theorem foldl_infixed {val : Expr → Option Value} {join : Option Value → Option Value → Option Value}
    (hval : ∀ left right, val (infixed op left right) = join (val left) (val right))
    (hassoc : ∀ x y z, join (join x y) z = join x (join y z)) (e first : Expr) (rest : List Expr) :
    val (rest.foldl (infixed op) (infixed op e first)) =
      join (val e) (val (rest.foldl (infixed op) first)) := by
  induction rest generalizing e first with
  | nil => exact hval e first
  | cons second rest ih => rw [List.foldl_cons, List.foldl_cons, ih, ih, hval, hassoc]

theorem value_foldl (hop : op.stop? = some stop) (e first : Expr) (rest : List Expr) :
    (rest.foldl (infixed op) (infixed op e first)).value look =
      unlessStop stop (e.value look) ((rest.foldl (infixed op) first).value look) :=
  foldl_infixed (value_infixed hop) (unlessStop_assoc stop) e first rest

end Grammar.Expr

/-! ## Values of links -/

/-- An expression with more links after its own. -/
theorem Written.expr_ofLinks_append (op : InfixOp) (none : Expr) (w : Written) (es : List Expr) :
    (ofLinks op none (w.links op ++ es)).expr = es.foldl (.infixed op) w.expr := by
  cases w with
  | single e => rfl
  | chain op' first rest =>
    rw [Written.links]
    split
    · rename_i hop
      subst hop
      change (rest ++ es).foldl _ first = _
      rw [List.foldl_append]
      rfl
    · rfl

theorem Written.links_ne_nil (op : InfixOp) (w : Written) : w.links op ≠ [] := by
  cases w with
  | single e => exact List.cons_ne_nil _ _
  | chain op' first rest =>
    rw [Written.links]
    split <;> exact List.cons_ne_nil _ _

theorem Operand.links_ne_nil (op : InfixOp) (names : List String) {xs : List Operand} (h : xs ≠ []) :
    Operand.links op names xs ≠ [] := by
  cases xs with
  | nil => exact absurd rfl h
  | cons x rest =>
    rw [Operand.links]
    exact List.append_ne_nil_of_left_ne_nil (Written.links_ne_nil op _) _

/-! ## Arguments in place -/

/-- The value of the `i`-th name is the `i`-th argument. -/
def Binds (look : String → Option Value) (names : List String) (arg : Nat → Value) : Prop :=
  ∀ i (h : i < names.length), isName names[i] ∧ look names[i] = some (arg i)

/-- A plain literal is written as an expression that has its value. -/
theorem value_literal (look : String → Option Value) {v : Value} (hv : v.isPlain) :
    v.expr.value look = some v := by
  cases v with
  | undefined | null => rfl
  | bool b => cases b <;> rfl
  | str s => rfl
  | int n =>
    rw [Value.expr]
    by_cases hn : n.toInt < 0
    · rw [if_pos hn, Expr.value]
      have hneg : -(n.toInt.natAbs : Int) = n.toInt := by omega
      rw [hneg, Int64.ofInt_toInt]
    · rw [if_neg hn, Expr.value]
      have hpos : (n.toInt.natAbs : Int) = n.toInt := by omega
      rw [hpos, Int64.ofInt_toInt]
  | _ => cases hv

section InPlace

variable {look : String → Option Value} {all : List String} {arg : Nat → Value}

theorem value_not {e : Expr} {d : Decision} (he : e.value look = some (d.inPlace arg .undefined)) :
    (Expr.prefixed .not e).value look = some ((d.test false false).inPlace arg .undefined) := by
  rw [Expr.value, he, Option.map_some, Decision.inPlace_test, beq_false]

theorem value_notNot {e : Expr} {d : Decision} (he : e.value look = some (d.inPlace arg .undefined)) :
    (Expr.prefixed .not (.prefixed .not e)).value look =
      some ((d.test true false).inPlace arg .undefined) := by
  rw [Expr.value, Expr.value, he, Option.map_some, Option.map_some, Decision.inPlace_test, beq_true]
  simp only [Value.isTruthy, Bool.not_not]

theorem some_inPlace_followedBy {d next : Decision} (hnext : next ≠ .same) (stop : Bool) :
    some ((d.followedBy stop next false).inPlace arg .undefined) =
      unlessStop stop (some (d.inPlace arg .undefined)) (some (next.inPlace arg .undefined)) := by
  rw [Decision.inPlace_followedBy arg hnext, unlessStop, Option.bind_some, apply_ite some]

mutual

theorem value_operand (hbinds : Binds look all arg) : ∀ {x : Operand}, x.isLogical →
    ∀ {first : Nat}, first + x.slots ≤ all.length →
      (x.written (all.drop first)).expr.value look =
        some ((x.decision first).inPlace arg .undefined)
  | .unset, _, first, hlen => by
    obtain ⟨hname, hlook⟩ := hbinds first hlen
    rw [Operand.written, List.headD_eq_head?_getD, List.head?_drop, List.getElem?_eq_getElem hlen]
    change (if isName all[first] then look all[first] else _) = _
    rw [if_pos hname, hlook]
    rfl
  | .nested p, h, first, hlen => by
    rw [Operand.isLogical] at h
    rw [Operand.written, Operand.decision]
    exact value_predicate hbinds h hlen
  | .literal v, h, first, _ => value_literal look h

/-- The expression of a tree of logic has the value of its decision, with each question answered by
the argument of the parameter. -/
theorem value_predicate (hbinds : Binds look all arg) : ∀ {p : Predicate}, p.isLogical →
    ∀ {first : Nat}, first + p.slots ≤ all.length →
      (p.written (all.drop first)).expr.value look =
        some ((p.decision first).inPlace arg .undefined)
  | .unary .not x, h, first, hlen => by
    rw [Predicate.isLogical] at h
    rw [Predicate.written, Predicate.decision]
    exact value_not (value_operand hbinds h hlen)
  | .unary .notNot x, h, first, hlen => by
    rw [Predicate.isLogical] at h
    rw [Predicate.written, Predicate.decision]
    exact value_notNot (value_operand hbinds h hlen)
  | .boolean .or xs, h, first, hlen => by
    rw [Predicate.isLogical] at h
    rw [Predicate.written, Predicate.decision]
    exact value_chain hbinds rfl h rfl hlen
  | .boolean .and xs, h, first, hlen => by
    rw [Predicate.isLogical] at h
    rw [Predicate.written, Predicate.decision]
    exact value_chain hbinds rfl h rfl hlen

theorem value_chain (hbinds : Binds look all arg) {op : InfixOp} {stop : Bool}
    (hop : op.stop? = some stop) {none : Expr} : ∀ {xs : List Operand}, Operand.allLogical xs →
    none.value look = some .undefined → ∀ {first : Nat}, first + Operand.slotSum xs ≤ all.length →
      (Written.ofLinks op none (Operand.links op (all.drop first) xs)).expr.value look =
        some ((Operand.chainDecision stop first xs).inPlace arg .undefined)
  | [], _, hnone, _, _ => hnone
  | [x], h, _, first, hlen => by
    rw [Operand.allLogical, Bool.and_eq_true] at h
    rw [Operand.links, Operand.links, Written.expr_ofLinks_append, Operand.chainDecision]
    exact value_operand hbinds h.1 hlen
  | x :: y :: rest, h, hnone, first, hlen => by
    rw [Operand.allLogical, Bool.and_eq_true] at h
    rw [Operand.slotSum] at hlen
    have hlenx : first + x.slots ≤ all.length := by omega
    have hlenrest : first + x.slots + Operand.slotSum (y :: rest) ≤ all.length := by omega
    have hx := value_operand hbinds h.1 hlenx
    have hrest := value_chain hbinds hop h.2 hnone hlenrest
    rw [Operand.links, List.drop_drop, Written.expr_ofLinks_append, Operand.chainDecision,
      some_inPlace_followedBy (Operand.chainDecision_ne_same stop _ _), ← hx, ← hrest]
    obtain ⟨e, es, hlinks⟩ := List.exists_cons_of_ne_nil
      (Operand.links_ne_nil op (all.drop (first + x.slots)) (List.cons_ne_nil y rest))
    rw [hlinks]
    exact Expr.value_foldl hop _ _ _

end

end InPlace

/-! ## The body and the tree -/

mutual

theorem Operand.isFormula_of_isLogical : ∀ {x : Operand}, x.isLogical → x.isFormula
  | .unset, _ => rfl
  | .nested p, h => by
    rw [Operand.isLogical] at h
    rw [Operand.isFormula]
    exact Predicate.isFormula_of_isLogical h
  | .literal _, h => h

theorem Predicate.isFormula_of_isLogical : ∀ {p : Predicate}, p.isLogical → p.isFormula
  | .unary .not x, h | .unary .notNot x, h => by
    rw [Predicate.isLogical] at h
    rw [Predicate.isFormula]
    exact Operand.isFormula_of_isLogical h
  | .boolean .or xs, h | .boolean .and xs, h => by
    rw [Predicate.isLogical] at h
    rw [Predicate.isFormula]
    exact Operand.allFormulas_of_allLogical h

theorem Operand.allFormulas_of_allLogical :
    ∀ {xs : List Operand}, Operand.allLogical xs → Operand.allFormulas xs
  | [], _ => rfl
  | x :: rest, h => by
    rw [Operand.allLogical, Bool.and_eq_true] at h
    rw [Operand.allFormulas, Bool.and_eq_true]
    exact ⟨Operand.isFormula_of_isLogical h.1, Operand.allFormulas_of_allLogical h.2⟩

end

/-- Names bound to values, the `i`-th name to the `i`-th value. -/
def bindings (names : List String) (values : List Value) (name : String) : Option Value :=
  (names.zip values).lookup name

theorem bindings_getElem : ∀ {names : List String} {values : List Value} {i : Nat}, names.Nodup →
    ∀ (h : i < names.length) (h' : i < values.length), bindings names values names[i] = some values[i]
  | _ :: _, [], _, _, _, h' => absurd h' (Nat.not_lt_zero _)
  | _ :: _, _ :: _, 0, _, _, _ => List.lookup_cons_self
  | name :: names, v :: values, i + 1, hnodup, h, h' => by
    obtain ⟨hnotMem, hrest⟩ := List.nodup_cons.mp hnodup
    have hi : i < names.length := Nat.lt_of_succ_lt_succ h
    have hne : names[i] ≠ name := fun he => hnotMem (he ▸ List.getElem_mem hi)
    rw [List.getElem_cons_succ, List.getElem_cons_succ, ← bindings_getElem hrest hi]
    rw [bindings, List.zip_cons_cons, List.lookup_cons, beq_false_of_ne hne]
    rfl

theorem binds_bindings {names : List String} {args : List Value} (hnodup : names.Nodup)
    (hnames : ∀ name ∈ names, isName name) (hlen : names.length ≤ args.length) :
    Binds (bindings names args) names (argAt args) := by
  intro i h
  refine ⟨hnames _ (List.getElem_mem h), ?_⟩
  have hi : i < args.length := by omega
  rw [bindings_getElem hnodup h hi, Decision.argAt_eq_getElem hi]

/-- The value of a tree of logic on enough arguments. -/
theorem callPredicate_isLogical (i : Interpreter) {t : Predicate} (ht : t.isLogical)
    {args : List Value} (hlen : t.slots ≤ args.length) (w : World) :
    (i.callPredicate t args).run w =
      .ok ((t.decision 0).inOrder (argAt args) 0 .undefined) w := by
  have hroom : 0 + t.slots ≤ args.length := by omega
  obtain ⟨v, position, hd, -, hrun⟩ :=
    follows_eval i ht 0 ⟨.start args i.config.underflow, w⟩ hroom
  have hinOrder : (t.decision 0).inOrder (argAt args) 0 .undefined = v := congrArg Prod.fst hd
  rw [hinOrder]
  change i.eval t _ = _ at hrun
  simp only [Interpreter.callPredicate, Interpreter.onArgs, EStateM.run, hrun]

/-- There is a parameter for each slot. The parameters are different names. -/
theorem Predicate.params_of_isFormula {s : Store} {t : Predicate} (ht : t.isFormula) {src : Source}
    (h : t.toSource s = .ok src) : t.argCount = .ok t.slots ∧ src.params.length = t.slots ∧
      src.params.Nodup ∧ ∀ name ∈ src.params, isName name := by
  obtain ⟨hcount, hparams, -⟩ := toSource_params (isComplete_of_isFormula ht) h
  rw [hparams]
  refine ⟨hcount, ?_, nodup_letterNames _, fun name hname => isName_of_mem_letterNames hname⟩
  rw [letterNames, List.length_map, List.length_range]

/-- **What the body means.** The source of a tree of logic has one parameter for each argument, and
its body is one expression. On enough arguments, the body and the tree have the value of one decision:
the body answers a question with the argument of its parameter, the tree with the next argument. They
agree on all arguments exactly when the decision is aligned. -/
theorem toSource_meaning (i : Interpreter) (s : Store) (t : Predicate) (ht : t.isLogical) :
    match t.toSource s with
    | .error f => nameCapacity < t.slots ∧ f = .allocation (capCount t.slots)
    | .ok src => t.argCount = .ok src.params.length ∧
      ∃ e, (∀ e', Parses src.body e' ↔ e' = e) ∧
        (∀ args w, src.params.length ≤ args.length →
          e.value (bindings src.params args) =
            some ((t.decision 0).inPlace (argAt args) .undefined) ∧
          (i.callPredicate t args).run w =
            .ok ((t.decision 0).inOrder (argAt args) 0 .undefined) w) ∧
        ((∀ args w, src.params.length ≤ args.length → (∀ v ∈ args, ∀ f, v ≠ .function f) →
          ∃ v, e.value (bindings src.params args) = some v ∧
            (i.callPredicate t args).run w = .ok v w) ↔ (t.decision 0).Aligned 0) := by
  have hformula := Predicate.isFormula_of_isLogical ht
  rcases t.toSource_isFormula s hformula with ⟨hcap, herr⟩ | ⟨src, hsrc⟩
  · rw [herr]
    exact ⟨hcap, rfl⟩
  rw [hsrc]
  obtain ⟨hcount, hlen, hnodup, hnames⟩ := Predicate.params_of_isFormula hformula hsrc
  have hvalues : ∀ args w, src.params.length ≤ args.length →
      (t.expr src.params).value (bindings src.params args) =
        some ((t.decision 0).inPlace (argAt args) .undefined) ∧
      (i.callPredicate t args).run w =
        .ok ((t.decision 0).inOrder (argAt args) 0 .undefined) w := by
    intro args w hargs
    have hbinds := binds_bindings hnodup hnames hargs
    have hroom : 0 + t.slots ≤ src.params.length := by omega
    exact ⟨value_predicate hbinds ht hroom, callPredicate_isLogical i ht (hlen ▸ hargs) w⟩
  refine ⟨hlen ▸ hcount, t.expr src.params, Predicate.parses_of_toSource hformula hsrc, hvalues,
    fun hall => ?_, fun haligned args w hargs _ => ?_⟩
  · by_contra hnot
    have hordered : (t.decision 0).Ordered t.slots 0 := t.ordered_decision (by omega)
    obtain ⟨args, hargs, hcall, hne⟩ := hordered.exists_args_ne hnot
    have hroom : src.params.length ≤ args.length := by omega
    obtain ⟨v, hbody, htree⟩ := hall args {} hroom hcall
    obtain ⟨hbody', htree'⟩ := hvalues args {} hroom
    rw [hbody'] at hbody
    rw [htree'] at htree
    exact hne ((Option.some.inj hbody).trans (EStateM.Result.ok.inj htree).1.symm)
  · obtain ⟨hbody, htree⟩ := hvalues args w hargs
    exact ⟨_, hbody, by rw [htree, haligned.inPlace_eq]⟩

/-- A negation before a combinator that is stopped by its last slot only. -/
theorem toSource_meaning_negation :
    let i : Interpreter := { host := fun _ _ _ => return .undefined }
    let t : Predicate :=
      .boolean .and [.nested (.unary .not .unset), .nested (.boolean .or [.unset, .literal (.int 0)])]
    t.isLogical ∧ ∃ src, t.toSource {} = .ok src ∧ src.body = "!a && (b || 0)" ∧
      ∃ e, (∀ e', Parses src.body e' ↔ e' = e) ∧
        e.value (bindings src.params [.null, .int 5]) = some (.int 5) ∧
        (i.callPredicate t [.null, .int 5]).run {} = .ok (.int 5) {} := by
  intro i t
  have hsrc : Predicate.toSource {} (.boolean .and [.nested (.unary .not .unset),
      .nested (.boolean .or [.unset, .literal (.int 0)])]) =
        .ok ⟨["a", "b"], "!a && (b || 0)", .logicalAnd⟩ := by rfl
  have haligned : (t.decision 0).Aligned 0 := by
    refine .ask fun b => ?_
    cases b with
    | true => exact .gives .done
    | false =>
      refine .ask fun b => ?_
      cases b with
      | true => exact .same 2
      | false => exact .gives .done
  have hmeaning := toSource_meaning i {} t rfl
  rw [hsrc] at hmeaning
  obtain ⟨-, e, hparses, -, hagree⟩ := hmeaning
  obtain ⟨v, hbody, htree⟩ := hagree.mpr haligned [.null, .int 5] {} (by decide) (by simp)
  have hcall : (i.callPredicate t [.null, .int 5]).run {} = .ok (.int 5) {} := by rfl
  rw [hcall] at htree
  cases htree
  exact ⟨rfl, _, hsrc, rfl, e, hparses, hbody, hcall⟩

/-- A conjunction that is stopped at its first slot: the tree takes the second argument where the body
names the third. -/
theorem toSource_skipped_slot :
    let i : Interpreter := { host := fun _ _ _ => return .undefined }
    let t : Predicate := .boolean .or [.nested (.boolean .and [.unset, .unset]), .unset]
    let args : List Value := [.bool false, .int 1, .int 2]
    t.isLogical ∧ t.argCount = .ok args.length ∧ ∃ src, t.toSource {} = .ok src ∧
      src.params = ["a", "b", "c"] ∧ src.body = "a && b || c" ∧
      ∃ e, (∀ e', Parses src.body e' ↔ e' = e) ∧
        e.value (bindings src.params args) = some (.int 2) ∧
        (i.callPredicate t args).run {} = .ok (.int 1) {} := by
  intro i t args
  have hsrc : Predicate.toSource {} (.boolean .or [.nested (.boolean .and [.unset, .unset]),
      .unset]) = .ok ⟨["a", "b", "c"], "a && b || c", .logicalOr⟩ := by rfl
  have ht : t.isLogical := rfl
  exact ⟨ht, rfl, _, hsrc, rfl, rfl, _,
    Predicate.parses_of_toSource (Predicate.isFormula_of_isLogical ht) hsrc, rfl, rfl⟩

end Criteria
