import Criteria.Proofs.Eval.Combinators
import Criteria.Proofs.Eval.Decision
import Criteria.Proofs.Predicate.Slots

/-!
# Evaluation of integer trees

An integer tree is built of exclusive ors and complements over unset slots and plain literals. Its
operators read the 64-bit integers of their operands, and none stops early: an evaluation takes the
argument of each slot, in order.

* `Predicate.number` — the integer of a tree, the slots numbered from left to right.
* `run_eval_integral` — an evaluation gives this integer, and moves the cursor past the slots.
-/

set_option autoImplicit false

namespace Criteria

open Decision (argAt)
open Eval Interpreter

/-! ## Integer trees -/

mutual

/-- A slot of an integer tree. -/
def Operand.isIntegral : Operand → Bool
  | .unset => true
  | .nested p => p.isIntegral
  | .literal v => v.isPlain

/-- Exclusive ors and complements over unset slots and plain literals. -/
def Predicate.isIntegral : Predicate → Bool
  | .unary .bitNot x => x.isIntegral
  | .boolean .xor xs => Operand.allIntegral xs
  | _ => false

/-- The operands of an exclusive or. -/
def Operand.allIntegral : List Operand → Bool
  | [] => true
  | x :: rest => x.isIntegral && Operand.allIntegral rest

end

mutual

/-- The integer of an operand whose slots are numbered from `first` on. -/
def Operand.number (s : Store) (arg : Nat → Value) (first : Nat) : Operand → Int64
  | .unset => s.int64 (arg first)
  | .nested p => p.number s arg first
  | .literal v => s.int64 v

/-- The integer of a tree whose slots are numbered from `first` on. -/
def Predicate.number (s : Store) (arg : Nat → Value) (first : Nat) : Predicate → Int64
  | .unary .bitNot x => ~~~x.number s arg first
  | .boolean .xor xs => Operand.numberSum s arg first xs
  | _ => 0

/-- The exclusive or of the integers of some operands. -/
def Operand.numberSum (s : Store) (arg : Nat → Value) (first : Nat) : List Operand → Int64
  | [] => 0
  | x :: rest => x.number s arg first ^^^ Operand.numberSum s arg (first + x.slots) rest

end

/-! ## Arguments in order -/

/-- The machine with its cursor `n` arguments further. -/
def Machine.past (m : Machine) (n : Nat) : Machine := { m with cursor := m.cursor.advance n }

theorem Machine.past_past (m : Machine) (n k : Nat) : (m.past n).past k = m.past (n + k) := by
  simp only [past, Cursor.advance_advance]

variable {i : Interpreter} {m : Machine}

theorem run_shift_of_lt (h : m.cursor.position < m.cursor.args.length) :
    shift.run m = .ok (argAt m.cursor.args m.cursor.position) (m.past 1) := by
  refine run_shift_of_peek ?_
  rw [Cursor.peek, List.getElem?_eq_getElem h, Decision.argAt_eq_getElem h]

mutual

/-- An operand has a value with its integer. -/
theorem run_value_integral (i : Interpreter) : ∀ {x : Operand}, x.isIntegral → ∀ {m : Machine},
    m.cursor.position + x.slots ≤ m.cursor.args.length →
    ∃ v, (i.value x).run m = .ok v (m.past x.slots) ∧
      m.world.store.int64 v = x.number m.world.store (argAt m.cursor.args) m.cursor.position
  | .unset, _, m, hm => by
    rw [value]
    exact ⟨_, run_shift_of_lt hm, rfl⟩
  | .nested p, h, m, hm => by
    rw [Operand.isIntegral] at h
    rw [value]
    exact ⟨_, run_eval_integral i h hm, int64_int _ _⟩
  | .literal v, h, m, _ => by
    cases v with
    | function f => cases h
    | _ => exact ⟨_, rfl, rfl⟩

/-- An integer tree gives its integer, and takes the arguments of its slots. -/
theorem run_eval_integral (i : Interpreter) : ∀ {p : Predicate}, p.isIntegral → ∀ {m : Machine},
    m.cursor.position + p.slots ≤ m.cursor.args.length →
    (i.eval p).run m =
      .ok (.int (p.number m.world.store (argAt m.cursor.args) m.cursor.position)) (m.past p.slots)
  | .unary .bitNot x, h, m, hm => by
    rw [Predicate.isIntegral] at h
    obtain ⟨v, hrun, hnumber⟩ := run_value_integral i h hm
    rw [eval, run_bind_ok hrun, Predicate.number, ← hnumber]
    rfl
  | .boolean .xor xs, h, m, hm => by
    rw [Predicate.isIntegral] at h
    rw [eval, run_xor_integral i h 0 hm, Int64.zero_xor]
    rfl

theorem run_xor_integral (i : Interpreter) : ∀ {xs : List Operand}, Operand.allIntegral xs →
    ∀ (acc : Int64) {m : Machine}, m.cursor.position + Operand.slotSum xs ≤ m.cursor.args.length →
    (i.evalXor acc xs).run m =
      .ok (.int (acc ^^^ Operand.numberSum m.world.store (argAt m.cursor.args) m.cursor.position xs))
        (m.past (Operand.slotSum xs))
  | [], _, acc, m, _ => by
    rw [evalXor, Operand.numberSum, Int64.xor_zero]
    rfl
  | x :: rest, h, acc, m, hm => by
    rw [Operand.allIntegral, Bool.and_eq_true] at h
    rw [Operand.slotSum] at hm
    obtain ⟨v, hrun, hnumber⟩ := run_value_integral i h.1 (m := m) (by omega)
    have hrest := run_xor_integral i h.2 (acc ^^^ m.world.store.int64 v) (m := m.past x.slots)
      (by simp only [Machine.past, Cursor.advance]; omega)
    rw [evalXor, run_bind_ok hrun]
    refine hrest.trans ?_
    rw [hnumber, Operand.numberSum, Machine.past_past, Int64.xor_assoc]
    rfl

end

/-- The value of an integer tree on enough arguments. -/
theorem callPredicate_integral (i : Interpreter) {t : Predicate} (ht : t.isIntegral)
    {args : List Value} (hlen : t.slots ≤ args.length) (w : World) :
    (i.callPredicate t args).run w = .ok (.int (t.number w.store (argAt args) 0)) w := by
  have hroom : 0 + t.slots ≤ args.length := by omega
  have hrun := run_eval_integral i ht (m := ⟨.start args i.config.underflow, w⟩) hroom
  change i.eval t _ = _ at hrun
  simp only [callPredicate, onArgs, EStateM.run, hrun]
  rfl

end Criteria
