import Criteria.Proofs.Eval.Explanation

/-!
# Combinators of joined lists

What a combinator makes of two lists of operands, one after the other, and of an operand that is a
combinator of its own kind.

* `evalUntil_append`, `untilEvents_append` — the second list is evaluated, where the first one left
  the machine, unless the first one stopped.
* `evalXor_append` — both lists are evaluated, the second one on top of the first.
* `eval_nested`, `events_nested` — a combinator does the same with the operands of a nested one in
  its place.
-/

set_option autoImplicit false

namespace Criteria

open Eval Interpreter

/-- The truth at which a combinator stops; an exclusive or does not stop. -/
def BooleanOp.stop? : BooleanOp → Option Bool
  | or => some true
  | and => some false
  | xor => none

variable {op : BooleanOp} {stop : Bool} {xs : List Operand}

/-- Operands are there to stop at, unless the combinator does not stop. -/
theorem BooleanOp.stops_or_eq_xor (hxs : xs = [] → op = .xor) :
    (∃ stop, op.stop? = some stop ∧ xs ≠ []) ∨ op = .xor := by
  cases op with
  | or => exact .inl ⟨true, rfl, fun he => nomatch hxs he⟩
  | and => exact .inl ⟨false, rfl, fun he => nomatch hxs he⟩
  | xor => exact .inr rfl

theorem eval_until (i : Interpreter) (hop : op.stop? = some stop) (xs : List Operand) :
    i.eval (.boolean op xs) = i.evalUntil stop .undefined xs := by
  cases op with
  | or => cases hop; rw [eval]
  | and => cases hop; rw [eval]
  | xor => cases hop

theorem events_until (i : Interpreter) (hop : op.stop? = some stop) (xs : List Operand)
    (m : Machine) : i.events (.boolean op xs) m = i.untilEvents stop xs m := by
  cases op with
  | or => cases hop; rw [events]
  | and => cases hop; rw [events]
  | xor => cases hop

/-! ## Combinators that stop -/

/-- The value to start from shows only when there are no operands. -/
theorem evalUntil_congr (i : Interpreter) (stop : Bool) (last last' : Value) (hxs : xs ≠ []) :
    i.evalUntil stop last xs = i.evalUntil stop last' xs := by
  cases xs with
  | nil => exact absurd rfl hxs
  | cons x rest => rw [evalUntil, evalUntil]

/-- The operands of a second list are evaluated unless those of a first one stop. -/
theorem evalUntil_append (i : Interpreter) (stop : Bool) (last : Value) (xs ys : List Operand) :
    i.evalUntil stop last (xs ++ ys) = (do
      let v ← i.evalUntil stop last xs
      if xs ≠ [] ∧ v.isTruthy = stop then return v else i.evalUntil stop v ys) := by
  induction xs generalizing last with
  | nil => simp only [List.nil_append, evalUntil, pure_bind, ne_eq, not_true, false_and, if_false]
  | cons x rest ih =>
    simp only [List.cons_append, evalUntil, bind_assoc, ne_eq, reduceCtorEq, not_false_eq_true,
      true_and]
    congr 1
    funext v
    by_cases hv : v.isTruthy = stop
    · rw [if_pos hv, if_pos hv, pure_bind, if_pos hv]
    · rw [if_neg hv, if_neg hv, ih]
      -- no operand is left to stop at, and the value `v` does not stop
      cases rest with
      | nil => simp only [evalUntil, pure_bind, hv, ne_eq, not_true, false_and, if_false]
      | cons y rest => simp only [ne_eq, reduceCtorEq, not_false_eq_true, true_and]

/-- The events of a second list follow those of a first one that does not stop. -/
theorem untilEvents_append (i : Interpreter) (stop : Bool) (last : Value) (xs ys : List Operand)
    (m : Machine) :
    i.untilEvents stop (xs ++ ys) m =
      i.untilEvents stop xs m ++ followed (i.evalUntil stop last xs) m fun v m =>
        if xs ≠ [] ∧ v.isTruthy = stop then [] else i.untilEvents stop ys m := by
  induction xs generalizing last m with
  | nil => rfl
  | cons x rest ih =>
    rw [List.cons_append, untilEvents, untilEvents, evalUntil]
    cases hx : (i.value x).run m with
    | error e m' => simp only [followed, hx, run_bind_error hx, List.append_nil]
    | ok v m' =>
      simp only [followed, hx, run_bind_ok hx, List.append_assoc, List.append_cancel_left_eq]
      by_cases hv : v.isTruthy = stop
      · simp only [hv, if_true, List.nil_append, EStateM.run_pure, ne_eq, reduceCtorEq,
          not_false_eq_true, and_self]
      · simp only [hv, if_false]
        rw [ih v m']
        congr 1
        unfold followed
        cases rest with
        | nil => simp only [evalUntil, EStateM.run_pure, hv, ne_eq, not_true, and_false, if_false]
        | cons y rest => simp only [ne_eq, reduceCtorEq, not_false_eq_true, true_and]

/-! ## Exclusive or -/

/-- An integer converts to itself. -/
theorem int64_int (s : Store) (n : Int64) : s.int64 (.int n) = n := by
  unfold Store.int64 Store.datum
  cases s.size <;> rfl

theorem int64_bool (s : Store) (b : Bool) : s.int64 (.bool b) = if b then 1 else 0 := by
  unfold Store.int64 Store.datum
  cases s.size <;> rfl

theorem read_int64_int (n : Int64) :
    onWorld (Action.read fun s => s.int64 (.int n)) = (pure n : Eval Int64) := by
  simp only [int64_int]
  rfl

/-- The operands of a second list go on with the integer of those of a first one. -/
theorem evalXor_append (i : Interpreter) (acc : Int64) (xs ys : List Operand) :
    i.evalXor acc (xs ++ ys) = (do
      let v ← i.evalXor acc xs
      let n ← onWorld (Action.read fun s => s.int64 v)
      i.evalXor n ys) := by
  induction xs generalizing acc with
  | nil => simp only [List.nil_append, evalXor, pure_bind, read_int64_int]
  | cons x rest ih => simp only [List.cons_append, evalXor, bind_assoc, ih]

/-- An integer to start from is one more operand. -/
theorem evalXor_start (i : Interpreter) (acc n : Int64) (xs : List Operand) :
    i.evalXor (acc ^^^ n) xs = (do
      let v ← i.evalXor n xs
      let k ← onWorld (Action.read fun s => s.int64 v)
      return .int (acc ^^^ k)) := by
  induction xs generalizing n with
  | nil => simp only [evalXor, pure_bind, read_int64_int]
  | cons x rest ih => simp only [evalXor, bind_assoc, Int64.xor_assoc, ih]

/-- The events of a second list follow those of a first one. -/
theorem xorEvents_append (i : Interpreter) (acc : Int64) (xs ys : List Operand) (m : Machine) :
    i.xorEvents (xs ++ ys) m =
      i.xorEvents xs m ++ followed (i.evalXor acc xs) m fun _ m => i.xorEvents ys m := by
  induction xs generalizing acc m with
  | nil => rfl
  | cons x rest ih =>
    rw [List.cons_append, xorEvents, xorEvents, evalXor]
    cases hx : (i.value x).run m with
    | error e m' => simp only [followed, hx, run_bind_error hx, List.append_nil]
    | ok v m' =>
      have hread : (onWorld (Action.read fun s => s.int64 v)).run m' =
          .ok (m'.world.store.int64 v) m' := rfl
      simp only [followed, hx, run_bind_ok hx, run_bind_ok hread, List.append_assoc,
        List.append_cancel_left_eq]
      exact ih _ m'

/-! ## Nested combinators -/

/-- A combinator inside one of its own kind, as the first operand of what is left. -/
theorem evalUntil_nested (i : Interpreter) (hop : op.stop? = some stop) (hxs : xs ≠ [])
    (last : Value) (ys : List Operand) :
    i.evalUntil stop last (.nested (.boolean op xs) :: ys) = i.evalUntil stop last (xs ++ ys) := by
  rw [evalUntil, value, eval_until i hop, evalUntil_append,
    evalUntil_congr i stop last .undefined hxs]
  simp only [ne_eq, hxs, not_false_eq_true, true_and]

theorem evalXor_nested (i : Interpreter) (acc : Int64) (xs ys : List Operand) :
    i.evalXor acc (.nested (.boolean .xor xs) :: ys) = i.evalXor acc (xs ++ ys) := by
  have hstart := evalXor_start i acc 0 xs
  rw [Int64.xor_zero] at hstart
  rw [evalXor, value, eval, evalXor_append, hstart]
  simp only [bind_assoc, pure_bind, read_int64_int]

/-- A combinator evaluates like one with the operands of a nested one of its own kind in its
place. -/
theorem eval_nested (i : Interpreter) (hxs : xs = [] → op = .xor) (ps ys : List Operand) :
    i.eval (.boolean op (ps ++ .nested (.boolean op xs) :: ys)) =
      i.eval (.boolean op (ps ++ xs ++ ys)) := by
  rcases BooleanOp.stops_or_eq_xor hxs with ⟨stop, hop, hne⟩ | rfl
  · simp only [eval_until i hop, List.append_assoc, evalUntil_append i stop .undefined ps,
      evalUntil_nested i hop hne]
  · simp only [eval, List.append_assoc, evalXor_append i 0 ps, evalXor_nested]

theorem untilEvents_nested (i : Interpreter) (hop : op.stop? = some stop) (hxs : xs ≠ [])
    (ys : List Operand) (m : Machine) :
    i.untilEvents stop (.nested (.boolean op xs) :: ys) m = i.untilEvents stop (xs ++ ys) m := by
  rw [untilEvents, valueEvents, value, events_until i hop, eval_until i hop,
    untilEvents_append i stop .undefined]
  simp only [ne_eq, hxs, not_false_eq_true, true_and]

theorem xorEvents_nested (i : Interpreter) (xs ys : List Operand) (m : Machine) :
    i.xorEvents (.nested (.boolean .xor xs) :: ys) m = i.xorEvents (xs ++ ys) m := by
  rw [xorEvents, valueEvents, value, events, eval, xorEvents_append i 0]

/-- A nested combinator of the same kind leaves no trace in the events. -/
theorem events_nested (i : Interpreter) (hxs : xs = [] → op = .xor) (ps ys : List Operand)
    (m : Machine) :
    i.events (.boolean op (ps ++ .nested (.boolean op xs) :: ys)) m =
      i.events (.boolean op (ps ++ xs ++ ys)) m := by
  rcases BooleanOp.stops_or_eq_xor hxs with ⟨stop, hop, hne⟩ | rfl
  · simp only [events_until i hop, List.append_assoc, untilEvents_append i stop .undefined ps,
      untilEvents_nested i hop hne]
  · simp only [events, List.append_assoc, xorEvents_append i 0 ps, xorEvents_nested]

end Criteria
