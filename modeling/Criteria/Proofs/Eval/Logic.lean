import Criteria.Proofs.Eval.Decision
import Criteria.Proofs.Eval.Explanation
import Criteria.Proofs.Predicate.Slots

/-!
# Evaluation of logic

A tree of logic is built of `or`, `and`, negations and their doubles, over unset slots and plain
literals. Its value is a decision.

* `Predicate.decision` — the decision of a tree, the slots numbered from left to right.
* `follows_eval` — an evaluation answers the questions with the arguments in order, and changes
  nothing but the place of the cursor.
-/

set_option autoImplicit false

namespace Criteria

open Decision (argAt)
open Eval Interpreter

/-! ## Trees of logic -/

mutual

/-- A slot of logic. -/
def Operand.isLogical : Operand → Bool
  | .unset => true
  | .nested p => p.isLogical
  | .literal v => v.isPlain

/-- Combinators that can stop early and negations, over unset slots and plain literals. -/
def Predicate.isLogical : Predicate → Bool
  | .unary .not x => x.isLogical
  | .unary .notNot x => x.isLogical
  | .boolean .or xs => Operand.allLogical xs
  | .boolean .and xs => Operand.allLogical xs
  | _ => false

/-- The slots of a combinator. -/
def Operand.allLogical : List Operand → Bool
  | [] => true
  | x :: rest => x.isLogical && Operand.allLogical rest

end

mutual

/-- The decision of an operand whose slots are numbered from `first` on. -/
def Operand.decision (first : Nat) : Operand → Decision
  | .unset => .ask first fun _ => .same
  | .nested p => p.decision first
  | .literal v => .done v

/-- The decision of a tree whose slots are numbered from `first` on. -/
def Predicate.decision (first : Nat) : Predicate → Decision
  | .unary .not x => (x.decision first).test false false
  | .unary .notNot x => (x.decision first).test true false
  | .boolean .or xs => Operand.chainDecision true first xs
  | .boolean .and xs => Operand.chainDecision false first xs
  | _ => .done .undefined

/-- The decision of a combinator that stops at the truth `stop`. -/
def Operand.chainDecision (stop : Bool) (first : Nat) : List Operand → Decision
  | [] => .done .undefined
  | [x] => x.decision first
  | x :: y :: rest =>
    (x.decision first).followedBy stop (Operand.chainDecision stop (first + x.slots) (y :: rest)) false

end

/-! ## Decisions of trees -/

mutual

theorem Operand.decision_ne_same (first : Nat) : ∀ x : Operand, x.decision first ≠ .same
  | .unset => nofun
  | .nested p => Predicate.decision_ne_same first p
  | .literal _ => nofun

theorem Predicate.decision_ne_same (first : Nat) : ∀ p : Predicate, p.decision first ≠ .same
  | .unary .not _ | .unary .notNot _ => Decision.test_ne_same _ _ _
  | .boolean .or xs => Operand.chainDecision_ne_same true first xs
  | .boolean .and xs => Operand.chainDecision_ne_same false first xs
  | .unary .bitNot _ | .unary .sqrt _ | .boolean .xor _ => nofun
  | .unset | .type _ | .charset .. | .string _ | .binary .. | .regex .. | .compare .. => nofun
  | .property .. | .member _ | .shift .. | .function .. => nofun

theorem Operand.chainDecision_ne_same (stop : Bool) (first : Nat) :
    ∀ xs : List Operand, Operand.chainDecision stop first xs ≠ .same
  | [] => nofun
  | [x] => Operand.decision_ne_same first x
  | x :: y :: rest => Decision.followedBy_ne_same (Operand.decision_ne_same first x)
      (Operand.chainDecision_ne_same stop _ (y :: rest)) stop false

end

mutual

/-- Slots are asked for from left to right. -/
theorem Operand.ordered_decision : ∀ (x : Operand) {first limit : Nat},
    first + x.slots ≤ limit → (x.decision first).Ordered limit first
  | .unset, _, _, h => ⟨Nat.le_refl _, h, fun _ => trivial⟩
  | .nested p, _, _, h => Predicate.ordered_decision p h
  | .literal _, _, _, _ => trivial

theorem Predicate.ordered_decision : ∀ (p : Predicate) {first limit : Nat},
    first + p.slots ≤ limit → (p.decision first).Ordered limit first
  | .unary .not x, _, _, h | .unary .notNot x, _, _, h => (Operand.ordered_decision x h).test _ _
  | .boolean .or xs, _, _, h => Operand.ordered_chainDecision true xs h
  | .boolean .and xs, _, _, h => Operand.ordered_chainDecision false xs h
  | .unary .bitNot _, _, _, _ | .unary .sqrt _, _, _, _ | .boolean .xor _, _, _, _ => trivial
  | .unset, _, _, _ | .type _, _, _, _ | .charset .., _, _, _ | .string _, _, _, _ => trivial
  | .binary .., _, _, _ | .regex .., _, _, _ | .compare .., _, _, _ | .property .., _, _, _ => trivial
  | .member _, _, _, _ | .shift .., _, _, _ | .function .., _, _, _ => trivial

theorem Operand.ordered_chainDecision (stop : Bool) : ∀ (xs : List Operand) {first limit : Nat},
    first + Operand.slotSum xs ≤ limit → (Operand.chainDecision stop first xs).Ordered limit first
  | [], _, _, _ => trivial
  | [x], _, _, h => Operand.ordered_decision x h
  | x :: y :: rest, first, limit, h => by
    rw [Operand.slotSum] at h
    have hx := Operand.ordered_decision x (Nat.le_refl (first + x.slots))
    have hsum : first + x.slots + Operand.slotSum (y :: rest) ≤ limit := by omega
    exact hx.followedBy (Operand.ordered_chainDecision stop (y :: rest) hsum) (by omega) (by omega) stop false

end

/-! ## Arguments in order -/

/-- Where there are `n` arguments left, the steps come to the value of the decision on the arguments
in order, and move the cursor past those that were asked for. -/
def Follows (x : Eval Value) (d : Decision) (n : Nat) : Prop :=
  ∀ m : Machine, m.cursor.position + n ≤ m.cursor.args.length →
    ∃ v position,
      d.run (Decision.takeNext (argAt m.cursor.args)) m.cursor.position .undefined = (v, position) ∧
      position ≤ m.cursor.position + n ∧
      x.run m = .ok v { m with cursor := { m.cursor with position } }

namespace Follows

variable {x : Eval Value} {d e : Decision} {n k : Nat}

theorem pure (v : Value) : Follows (Pure.pure v) (.done v) 0 :=
  fun m _ => ⟨v, m.cursor.position, rfl, Nat.le_refl _, rfl⟩

theorem shift (slot : Nat) : Follows Eval.shift (.ask slot fun _ => .same) 1 := by
  intro m hm
  have hpeek : m.cursor.peek = some (argAt m.cursor.args m.cursor.position) := by
    rw [Cursor.peek, List.getElem?_eq_getElem hm, Decision.argAt_eq_getElem hm]
  refine ⟨_, _, rfl, Nat.le_refl _, ?_⟩
  simp [Eval.shift, onCursor, Cursor.shift, Cursor.advance, EStateM.run, hpeek, Decision.takeNext]

theorem test (hx : Follows x d n) (wanted : Bool) :
    Follows (x >>= fun v => Pure.pure (.bool (v.isTruthy == wanted))) (d.test wanted false) n := by
  intro m hm
  obtain ⟨v, position, hd, hposition, hrun⟩ := hx m hm
  refine ⟨.bool (v.isTruthy == wanted), position, ?_, hposition, ?_⟩
  · have htest := Decision.run_test (Decision.takeNext (argAt m.cursor.args)) wanted d
      m.cursor.position .undefined
    rw [hd] at htest
    exact htest
  · rw [run_bind_ok hrun]
    rfl

theorem followedBy (hx : Follows x d n) {stop : Bool} {y : Value → Eval Value}
    (hy : ∀ v, Follows (y v) e k) (he : e ≠ .same) :
    Follows (x >>= fun v => if v.isTruthy = stop then Pure.pure v else y v)
      (d.followedBy stop e false) (n + k) := by
  intro m hm
  obtain ⟨v, position, hd, hposition, hrun⟩ := hx m (by omega)
  have hfollowed := Decision.run_followedBy (Decision.takeNext (argAt m.cursor.args)) he stop d
    m.cursor.position .undefined
  rw [hd] at hfollowed
  by_cases hv : v.isTruthy = stop
  · rw [if_pos hv] at hfollowed
    refine ⟨v, position, hfollowed, by omega, ?_⟩
    rw [run_bind_ok hrun, if_pos hv]
    rfl
  · rw [if_neg hv] at hfollowed
    obtain ⟨w, position', he', hposition', hrun'⟩ :=
      hy v { m with cursor := { m.cursor with position } } (by simp only; omega)
    refine ⟨w, position', hfollowed.trans he', by simp only at hposition'; omega, ?_⟩
    rw [run_bind_ok hrun, if_neg hv]
    exact hrun'

end Follows

/-- What follows when an operator reads nothing but the truth of its operand. -/
theorem follows_unary {i : Interpreter} {x : Operand} {d : Decision} {n : Nat} {op : UnaryOp}
    {wanted : Bool} (hop : ∀ s v, op.apply s v = .bool (v.isTruthy == wanted))
    (hx : Follows (i.value x) d n) : Follows (i.eval (.unary op x)) (d.test wanted false) n := by
  intro m hm
  obtain ⟨v, position, hd, hposition, hrun⟩ := hx.test wanted m hm
  refine ⟨v, position, hd, hposition, ?_⟩
  rw [eval, ← hrun]
  obtain ⟨v, position, -, -, hrun⟩ := hx m hm
  rw [run_bind_ok hrun, run_bind_ok hrun]
  change EStateM.Result.ok (op.apply _ v) _ = EStateM.Result.ok _ _
  rw [hop]

mutual

theorem follows_value (i : Interpreter) : ∀ {x : Operand}, x.isLogical → ∀ first : Nat,
    Follows (i.value x) (x.decision first) x.slots
  | .unset, _, first => .shift first
  | .nested p, h, first => by
    rw [Operand.isLogical] at h
    rw [value]
    exact follows_eval i h first
  | .literal v, h, first => by
    cases v with
    | function f => cases h
    | _ => exact .pure _

/-- An evaluation follows the decision of the tree, with the arguments in order. -/
theorem follows_eval (i : Interpreter) : ∀ {p : Predicate}, p.isLogical → ∀ first : Nat,
    Follows (i.eval p) (p.decision first) p.slots
  | .unary .not x, h, first => by
    rw [Predicate.isLogical] at h
    rw [Predicate.decision, Predicate.slots]
    refine follows_unary (fun _ v => ?_) (follows_value i h first)
    rw [UnaryOp.apply, beq_false]
  | .unary .notNot x, h, first => by
    rw [Predicate.isLogical] at h
    rw [Predicate.decision, Predicate.slots]
    refine follows_unary (fun _ v => ?_) (follows_value i h first)
    rw [UnaryOp.apply, beq_true]
  | .boolean .or xs, h, first => by
    rw [Predicate.isLogical] at h
    rw [eval, Predicate.decision, Predicate.slots]
    exact follows_until i true h (fun _ => rfl) first
  | .boolean .and xs, h, first => by
    rw [Predicate.isLogical] at h
    rw [eval, Predicate.decision, Predicate.slots]
    exact follows_until i false h (fun _ => rfl) first

theorem follows_until (i : Interpreter) (stop : Bool) : ∀ {xs : List Operand}, Operand.allLogical xs →
    ∀ {last : Value}, (xs = [] → last = .undefined) → ∀ first : Nat,
      Follows (i.evalUntil stop last xs) (Operand.chainDecision stop first xs) (Operand.slotSum xs)
  | [], _, last, hlast, _ => by
    rw [hlast rfl, evalUntil]
    exact .pure _
  | [x], h, _, _, first => by
    rw [Operand.allLogical, Bool.and_eq_true] at h
    rw [Operand.chainDecision, Operand.slotSum, Operand.slotSum]
    simp only [evalUntil, ite_self, bind_pure]
    exact follows_value i h.1 first
  | x :: y :: rest, h, _, _, first => by
    rw [Operand.allLogical, Bool.and_eq_true] at h
    rw [evalUntil, Operand.chainDecision, Operand.slotSum]
    exact (follows_value i h.1 first).followedBy
      (fun _ => follows_until i stop h.2 (fun he => absurd he (List.cons_ne_nil y rest)) _)
      (Operand.chainDecision_ne_same stop _ _)

end

end Criteria
