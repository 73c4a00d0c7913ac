import Criteria.Proofs.Eval.Combinators
import Criteria.Proofs.Eval.Consumption
import Criteria.Proofs.Eval.Effects

/-!
# Negated combinators

The negation of a combinator that can stop is the other such combinator of the negated operands. The
two do not look alike on the way: `or` and `and` give the value of the operand that decides, while
negated operands are truth values. But they stop at the same operand, so that they take the same
arguments and do the same to the world.

* `evalUntil_negated`, `untilSteps_negated`, `untilEvents_negated` — negated operands, up to the one
  that decides.
* `deMorgan` — the law, for the outcome and for all that is done on the way.
-/

set_option autoImplicit false

namespace Criteria

open Eval Interpreter

variable {α β : Type}

/-- The combinator that stops where this one goes on. -/
def BooleanOp.dual : BooleanOp → BooleanOp
  | or => and
  | and => or
  | xor => xor

theorem BooleanOp.stop?_dual {op : BooleanOp} {stop : Bool} (h : op.stop? = some stop) :
    op.dual.stop? = some !stop := by
  cases op with
  | or => cases h; rfl
  | and => cases h; rfl
  | xor => cases h

theorem BooleanOp.exists_stop? {op : BooleanOp} (h : op ≠ .xor) : ∃ stop, op.stop? = some stop := by
  cases op with
  | or => exact ⟨true, rfl⟩
  | and => exact ⟨false, rfl⟩
  | xor => exact absurd rfl h

/-- The operand under a negation. -/
def Operand.negated (x : Operand) : Operand := .nested (.unary .not x)

/-- The negated truth of a value. -/
def Value.negation (v : Value) : Value := .bool !v.isTruthy

theorem Value.isTruthy_negation (v : Value) : v.negation.isTruthy = !v.isTruthy := rfl

/-- The negation of an operand goes one way exactly when the operand goes the other way. -/
theorem Value.isTruthy_negation_eq (v : Value) (stop : Bool) :
    v.negation.isTruthy = (!stop) ↔ v.isTruthy = stop := by
  rw [v.isTruthy_negation, Bool.not_inj_iff]

/-! ## Steps that only change the value -/

theorem Eval.thenSteps_map (x : Eval α) (g : α → β) (m : Machine) (fs : β → Machine → List Step) :
    (x >>= fun a => pure (g a)).thenSteps m fs = x.thenSteps m fun a => fs (g a) := by
  unfold thenSteps
  cases h : x.run m with
  | ok a m' => rw [run_bind_ok h]; rfl
  | error f m' => rw [run_bind_error h]

theorem Eval.followed_map (x : Eval α) (g : α → β) (m : Machine)
    (fs : β → Machine → List CursorEvent) :
    (x >>= fun a => pure (g a)).followed m fs = x.followed m fun a => fs (g a) := by
  unfold followed
  cases h : x.run m with
  | ok a m' => rw [run_bind_ok h]; rfl
  | error f m' => rw [run_bind_error h]

/-! ## Negated operands -/

theorem eval_not (i : Interpreter) (x : Operand) :
    i.eval (.unary .not x) = (do let v ← i.value x; return v.negation) := by
  rw [eval]
  rfl

theorem value_negated (i : Interpreter) (x : Operand) :
    i.value x.negated = (do let v ← i.value x; return v.negation) := by
  rw [Operand.negated, value, eval_not]

/-- Negated operands stop where the operands do when they stop at the other truth. -/
theorem evalUntil_negated (i : Interpreter) (stop : Bool) (last : Value) (xs : List Operand) :
    i.evalUntil (!stop) last.negation (xs.map Operand.negated) = (do
      let v ← i.evalUntil stop last xs
      return v.negation) := by
  induction xs generalizing last with
  | nil => simp only [List.map_nil, evalUntil, pure_bind]
  | cons x rest ih =>
    simp only [List.map_cons, evalUntil, value_negated, bind_assoc, pure_bind]
    congr 1
    funext v
    by_cases hv : v.isTruthy = stop
    · rw [if_pos hv, if_pos ((v.isTruthy_negation_eq stop).2 hv), pure_bind]
    · rw [if_neg hv, if_neg (mt (v.isTruthy_negation_eq stop).1 hv), ih]

theorem valueSteps_negated (i : Interpreter) (x : Operand) (m : Machine) :
    i.valueSteps x.negated m = i.valueSteps x m := by
  rw [Operand.negated, valueSteps, steps]

theorem valueEvents_negated (i : Interpreter) (x : Operand) (m : Machine) :
    i.valueEvents x.negated m = i.valueEvents x m := by
  rw [Operand.negated, valueEvents, events]

theorem untilSteps_negated (i : Interpreter) (stop : Bool) (xs : List Operand) (m : Machine) :
    i.untilSteps (!stop) (xs.map Operand.negated) m = i.untilSteps stop xs m := by
  induction xs generalizing m with
  | nil => rw [List.map_nil, untilSteps, untilSteps]
  | cons x rest ih =>
    simp only [List.map_cons, untilSteps, valueSteps_negated, value_negated, thenSteps_map,
      Value.isTruthy_negation_eq, ih]

theorem untilEvents_negated (i : Interpreter) (stop : Bool) (xs : List Operand) (m : Machine) :
    i.untilEvents (!stop) (xs.map Operand.negated) m = i.untilEvents stop xs m := by
  induction xs generalizing m with
  | nil => rw [List.map_nil, untilEvents, untilEvents]
  | cons x rest ih =>
    simp only [List.map_cons, untilEvents, valueEvents_negated, value_negated, followed_map,
      Value.isTruthy_negation_eq, ih]

/-! ## The law -/

theorem steps_until (i : Interpreter) {op : BooleanOp} {stop : Bool} (hop : op.stop? = some stop)
    (xs : List Operand) (m : Machine) : i.steps (.boolean op xs) m = i.untilSteps stop xs m := by
  cases op with
  | or => cases hop; rw [steps]
  | and => cases hop; rw [steps]
  | xor => cases hop

/-- **De Morgan's laws.** The negation of an `or` of some operands cannot be told from the `and` of
the negated operands, nor that of an `and` from the `or`. From every machine both come to the same
truth value or to the same failure, and leave the same machine: the cursor at the same place, the
same store, the same calls of host callables with the same arguments. On the way they make the same
requests to cursors, fill the same arrays and call the same callables, in the same order. The
operands can be anything, unset nodes included; there has to be one, because an `or` or `and` of
none is `undefined`, and its negation is not. -/
theorem deMorgan (i : Interpreter) (op : BooleanOp) (hop : op ≠ .xor) (xs : List Operand)
    (hxs : xs ≠ []) :
    let outside : Predicate := .unary .not (.nested (.boolean op xs))
    let inside : Predicate := .boolean op.dual (xs.map Operand.negated)
    i.eval outside = i.eval inside ∧
    i.steps outside = i.steps inside ∧
    i.events outside = i.events inside ∧
    ∀ v m m', (i.eval inside).run m = .ok v m' → ∃ b, v = .bool b := by
  intro outside inside
  obtain ⟨stop, hstop⟩ := BooleanOp.exists_stop? hop
  have hdual := BooleanOp.stop?_dual hstop
  have hmap : xs.map Operand.negated ≠ [] := mt List.map_eq_nil_iff.1 hxs
  have heval : i.eval inside = (do
      let v ← i.evalUntil stop .undefined xs
      return v.negation) := by
    rw [eval_until i hdual, evalUntil_congr i _ _ Value.undefined.negation hmap, evalUntil_negated]
  refine ⟨?_, ?_, ?_, fun v m m' hok => ?_⟩
  · rw [heval, eval_not, value, eval_until i hstop]
  · funext m
    rw [steps_until i hdual, untilSteps_negated, steps, valueSteps, steps_until i hstop]
  · funext m
    rw [events_until i hdual, untilEvents_negated, events, valueEvents, events_until i hstop]
  · rw [heval] at hok
    cases hrun : (i.evalUntil stop .undefined xs).run m with
    | ok u m'' => rw [run_bind_ok hrun] at hok; cases hok; exact ⟨_, rfl⟩
    | error f m'' => rw [run_bind_error hrun] at hok; cases hok

/-- The first operand is called and gives `undefined`, the second one takes the argument and
decides, and the third one, which is unset, is not reached. -/
theorem deMorgan_call :
    let f : Function := { name := "f", arity := 0, closure := ⟨0⟩ }
    let xs : List Operand := [.literal (.function f), .unset, .nested .unset]
    let m : Machine := ⟨.start [.int 7] .fail, {}⟩
    let m' : Machine := ⟨⟨[.int 7], 1, .fail⟩, { calls := #[⟨f, .undefined, [.int 7], {}⟩] }⟩
    BooleanOp.or ≠ .xor ∧ xs ≠ [] ∧
    (Interpreter.idle.eval (.unary .not (.nested (.boolean .or xs)))).run m =
      .ok (.bool false) m' ∧
    (Interpreter.idle.eval (.boolean .and (xs.map Operand.negated))).run m =
      .ok (.bool false) m' ∧
    Interpreter.idle.steps (.boolean .and (xs.map Operand.negated)) m =
      [m.doing (.call f .undefined [.int 7]), m.doing (.ask 1)] := by
  intro f xs m m'
  have hop : BooleanOp.or ≠ .xor := by decide
  have hxs : xs ≠ [] := List.cons_ne_nil _ _
  obtain ⟨heval, hsteps, -⟩ := deMorgan Interpreter.idle .or hop xs hxs
  have hrun : (Interpreter.idle.eval (.unary .not (.nested (.boolean .or xs)))).run m =
      .ok (.bool false) m' := by rfl
  have hall : Interpreter.idle.steps (.unary .not (.nested (.boolean .or xs))) m =
      [m.doing (.call f .undefined [.int 7]), m.doing (.ask 1)] := by rfl
  exact ⟨hop, hxs, hrun, heval ▸ hrun, hsteps ▸ hall⟩

end Criteria
