import Criteria.Proofs.Eval.Combinators
import Criteria.Proofs.Eval.Consumption
import Mathlib.Data.List.Perm.Basic

/-!
# Exclusive or of literals

Literals take no arguments, unless they are callables. What is left of an exclusive or of them is the
exclusive or of their integers, in which neither the order of the operands nor an operand that comes
twice can be seen.

* `xorAll` — the exclusive or of some integers.
* `hasBit_xorAll` — each of its bits tells whether an odd number of the integers have the bit.
* `run_xor_literals` — evaluating literals, from left to right.
* `xor_literals` — the law.
-/

set_option autoImplicit false

namespace Criteria

open Eval Interpreter

/-! ## Integers -/

/-- The exclusive or of some integers. -/
def xorAll (ns : List Int64) : Int64 := ns.foldr (· ^^^ ·) 0

theorem xorAll_cons (n : Int64) (ns : List Int64) : xorAll (n :: ns) = n ^^^ xorAll ns := rfl

theorem xorAll_perm {ns ks : List Int64} (h : ns.Perm ks) : xorAll ns = xorAll ks :=
  h.foldr_op_eq

/-- An integer that comes twice is not there. -/
theorem xorAll_cons_cons_self (n : Int64) (ns : List Int64) : xorAll (n :: n :: ns) = xorAll ns := by
  rw [xorAll_cons, xorAll_cons, ← Int64.xor_assoc, Int64.xor_self, Int64.zero_xor]

/-- Whether an integer has the bit with the number `k`. -/
def hasBit (k : Nat) (n : Int64) : Bool := n.toBitVec.getLsbD k

theorem hasBit_xor (k : Nat) (n j : Int64) : hasBit k (n ^^^ j) = (hasBit k n ^^ hasBit k j) := by
  rw [hasBit, Int64.toBitVec_xor, BitVec.getLsbD_xor]
  rfl

theorem hasBit_zero (k : Nat) : hasBit k 0 = false := BitVec.getLsbD_zero

/-- Each bit of an exclusive or tells whether an odd number of the integers have it. -/
theorem hasBit_xorAll (k : Nat) (ns : List Int64) :
    hasBit k (xorAll ns) = decide (ns.countP (hasBit k) % 2 = 1) := by
  induction ns with
  | nil => exact hasBit_zero k
  | cons n ns ih =>
    rw [xorAll_cons, hasBit_xor, ih, List.countP_cons]
    cases hasBit k n with
    | false => simp
    | true =>
      rcases Nat.mod_two_eq_zero_or_one (ns.countP (hasBit k)) with h | h
      · simp [h, Nat.add_mod]
      · simp [h, Nat.add_mod]

/-! ## Literals -/

variable {vs : List Value}

theorem value_literal_eq_pure (i : Interpreter) {v : Value} (hv : ∀ f, v ≠ .function f) :
    i.value (.literal v) = pure v := by
  cases v with
  | function f => exact absurd rfl (hv f)
  | _ => rfl

/-- Literals that are no callables give their integers one after the other, and leave the machine as it
is. -/
theorem run_xor_literals (i : Interpreter) (hvs : ∀ v ∈ vs, ∀ f, v ≠ .function f) (acc : Int64)
    (m : Machine) : (i.evalXor acc (vs.map .literal)).run m =
      .ok (.int (acc ^^^ xorAll (vs.map m.world.store.int64))) m := by
  induction vs generalizing acc with
  | nil =>
    rw [List.map_nil, List.map_nil, evalXor, xorAll, List.foldr_nil, Int64.xor_zero]
    rfl
  | cons v vs ih =>
    obtain ⟨hv, hrest⟩ := List.forall_mem_cons.1 hvs
    rw [List.map_cons, List.map_cons, evalXor, value_literal_eq_pure i hv, pure_bind, xorAll_cons,
      ← Int64.xor_assoc]
    exact ih hrest (acc ^^^ m.world.store.int64 v)

theorem run_eval_xor_literals (i : Interpreter) (hvs : ∀ v ∈ vs, ∀ f, v ≠ .function f)
    (m : Machine) : (i.eval (.boolean .xor (vs.map .literal))).run m =
      .ok (.int (xorAll (vs.map m.world.store.int64))) m := by
  rw [eval, run_xor_literals i hvs, Int64.zero_xor]

/-- **Exclusive or of literals.** Literals that are no callables, in any order:

* give the exclusive or of their integers and leave the machine as it is, the cursor with it;
* give the same when any of them comes twice more, wherever;
* give the integer whose bits tell which bits an odd number of them have;
* give another integer when an integer among them is another one: exactly the bits in which the two
  differ are flipped. -/
theorem xor_literals (i : Interpreter) (m : Machine) (vs : List Value)
    (hvs : ∀ v ∈ vs, ∀ f, v ≠ .function f) :
    let int64 := m.world.store.int64
    let total := xorAll (vs.map int64)
    (∀ ws : List Value, ws.Perm vs →
      (i.eval (.boolean .xor (ws.map .literal))).run m = .ok (.int total) m) ∧
    (∀ v ∈ vs, ∀ ws : List Value, ws.Perm (v :: v :: vs) →
      (i.eval (.boolean .xor (ws.map .literal))).run m = .ok (.int total) m) ∧
    (∀ k, hasBit k total = decide (vs.countP (fun v => hasBit k (int64 v)) % 2 = 1)) ∧
    ∀ n ws, vs.Perm (.int n :: ws) → ∀ n',
      (i.eval (.boolean .xor ((Value.int n' :: ws).map .literal))).run m =
        .ok (.int (total ^^^ (n ^^^ n'))) m := by
  intro int64 total
  refine ⟨fun ws hws => ?_, fun v hv ws hws => ?_, fun k => ?_, fun n ws hws n' => ?_⟩
  · rw [run_eval_xor_literals i fun w hw => hvs w (hws.mem_iff.1 hw), xorAll_perm (hws.map _)]
  · have hall : ∀ w ∈ v :: v :: vs, ∀ f, w ≠ .function f :=
      List.forall_mem_cons.2 ⟨hvs v hv, List.forall_mem_cons.2 ⟨hvs v hv, hvs⟩⟩
    rw [run_eval_xor_literals i fun w hw => hall w (hws.mem_iff.1 hw), xorAll_perm (hws.map _),
      List.map_cons, List.map_cons, xorAll_cons_cons_self]
  · rw [hasBit_xorAll, List.countP_map]
    rfl
  · have hrest : ∀ w ∈ Value.int n' :: ws, ∀ f, w ≠ .function f :=
      List.forall_mem_cons.2 ⟨nofun, fun w hw => hvs w (hws.mem_iff.2 (List.mem_cons_of_mem _ hw))⟩
    have htotal : total = n ^^^ xorAll (ws.map int64) := by
      rw [← int64_int m.world.store n, ← xorAll_cons, ← List.map_cons]
      exact xorAll_perm (hws.map _)
    have hflip : n' ^^^ xorAll (ws.map int64) = total ^^^ (n ^^^ n') :=
      calc n' ^^^ xorAll (ws.map int64)
        _ = (n ^^^ n) ^^^ (n' ^^^ xorAll (ws.map int64)) := by rw [Int64.xor_self, Int64.zero_xor]
        _ = total ^^^ (n ^^^ n') := by rw [htotal]; ac_rfl
    rw [run_eval_xor_literals i hrest, List.map_cons, xorAll_cons, int64_int, hflip]

/-- The last bit of an integer beyond the doubles counts, the text is a number, and `null` is zero. -/
theorem xor_literals_beyond_doubles :
    let vs : List Value := [.int 9007199254740993, .str "6", .null]
    let m : Machine := ⟨.start [.int 7] .fail, {}⟩
    (∀ v ∈ vs, ∀ f, v ≠ .function f) ∧
      (Interpreter.idle.eval (.boolean .xor [.literal .null, .literal (.str "6"),
        .literal (.int 9007199254740993)])).run m = .ok (.int 9007199254740999) m := by
  intro vs m
  have hvs : ∀ v ∈ vs, ∀ f, v ≠ .function f := by simp [vs]
  have htotal : xorAll (vs.map m.world.store.int64) = 9007199254740999 := by decide +kernel
  obtain ⟨hperm, -⟩ := xor_literals Interpreter.idle m vs hvs
  exact ⟨hvs, htotal ▸ hperm vs.reverse vs.reverse_perm⟩

end Criteria
