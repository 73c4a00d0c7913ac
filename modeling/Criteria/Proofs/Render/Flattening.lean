import Criteria.Proofs.Eval.Combinators
import Criteria.Proofs.Eval.Consumption
import Criteria.Proofs.Render.Parameters

/-!
# Nested combinators are written flat

A combinator inside one of its own kind needs no parentheses, and the two are written as one chain.
The chain means the same as the tree, because an evaluation cannot tell the two apart.

* `predicate_nested`, `toSource_nested` — a combinator is written like one with the operands of a
  nested one in its place.
* `combinators_flatten` — the laws of evaluation and of generated source together.
-/

set_option autoImplicit false

namespace Criteria

open Eval Interpreter

/-! ## Chains of text -/

variable {sep : String} {parts : List String}

theorem intercalate_cons_nested (hparts : parts ≠ []) (rest : List String) :
    sep.intercalate (sep.intercalate parts :: rest) = sep.intercalate (parts ++ rest) := by
  cases rest with
  | nil => rw [String.intercalate_singleton, List.append_nil]
  | cons text rest =>
    rw [String.intercalate_cons_of_ne_nil (List.cons_ne_nil _ _),
      String.intercalate_append_of_ne_nil hparts (List.cons_ne_nil _ _)]

/-- A part that is itself a chain. -/
theorem intercalate_nested (hparts : parts ≠ []) (before after : List String) :
    sep.intercalate (before ++ sep.intercalate parts :: after) =
      sep.intercalate (before ++ parts ++ after) := by
  rw [List.append_assoc]
  by_cases hbefore : before = []
  · rw [hbefore, List.nil_append, List.nil_append, intercalate_cons_nested hparts]
  · have hrest : parts ++ after ≠ [] := by simp [hparts]
    rw [String.intercalate_append_of_ne_nil hbefore (List.cons_ne_nil _ _),
      String.intercalate_append_of_ne_nil hbefore hrest, intercalate_cons_nested hparts]

namespace Render

variable {op : BooleanOp} {xs : List Operand}

theorem chain_append (s : Store) (operator : Precedence) (xs ys : List Operand) :
    chain s operator (xs ++ ys) = (do
      let before ← chain s operator xs
      let after ← chain s operator ys
      return before ++ after) := by
  induction xs with
  | nil => simp only [List.nil_append, chain, pure_bind, bind_pure]
  | cons x rest ih =>
    simp only [List.cons_append, chain, ih, bind_assoc, pure_bind]

/-- A combinator is written as the chain of its operands. -/
theorem predicate_boolean (s : Store) (op : BooleanOp) (hxs : xs ≠ []) :
    predicate s (.boolean op xs) = (do
      let parts ← chain s op.precedence xs
      return String.intercalate (" " ++ op.symbol ++ " ") parts) := by
  cases xs with
  | nil => exact absurd rfl hxs
  | cons x rest => rw [predicate]; exact hxs

/-- A combinator inside one of its own kind stands without parentheses. -/
theorem chain_nested (s : Store) (op : BooleanOp) (hxs : xs ≠ []) (ys : List Operand) :
    chain s op.precedence (.nested (.boolean op xs) :: ys) = (do
      let parts ← chain s op.precedence xs
      let after ← chain s op.precedence ys
      return String.intercalate (" " ++ op.symbol ++ " ") parts :: after) := by
  have hwrap : ∀ text, wrap op.precedence (.nested (.boolean op xs)) .chain text = pure text := by
    intro text
    cases op <;> rfl
  rw [chain, operand, predicate_boolean s op hxs]
  simp only [hwrap, bind_assoc, pure_bind]

/-- A non-empty list of operands is written as a non-empty list of texts. -/
theorem chain_bind_congr (s : Store) (operator : Precedence) {α : Type} (hxs : xs ≠ [])
    {f g : List String → Naming α} (hfg : ∀ parts, parts ≠ [] → f parts = g parts) :
    chain s operator xs >>= f = chain s operator xs >>= g := by
  cases xs with
  | nil => exact absurd rfl hxs
  | cons x rest =>
    have hcons : ∀ (text : String) (parts : List String), f (text :: parts) = g (text :: parts) :=
      fun text parts => hfg _ (List.cons_ne_nil text parts)
    simp only [chain, bind_assoc, pure_bind, hcons]

/-- A combinator is written like one with the operands of a nested one of its own kind in its
place. -/
theorem predicate_nested (s : Store) (op : BooleanOp) (hxs : xs ≠ []) (ps ys : List Operand) :
    predicate s (.boolean op (ps ++ .nested (.boolean op xs) :: ys)) =
      predicate s (.boolean op (ps ++ xs ++ ys)) := by
  have hnested : ps ++ .nested (.boolean op xs) :: ys ≠ [] := by simp
  have hflat : ps ++ xs ++ ys ≠ [] := by simp [hxs]
  rw [predicate_boolean s op hnested, predicate_boolean s op hflat]
  simp only [chain_append, chain_nested s op hxs, bind_assoc, pure_bind]
  congr 1
  funext before
  refine chain_bind_congr s op.precedence hxs fun parts hparts => ?_
  simp only [intercalate_nested hparts]

end Render

/-! ## Source of a combinator -/

variable {op : BooleanOp} {xs : List Operand}

/-- Counts of operands are stopped at the largest word. -/
theorem Operand.capCount_of_argCounts {n : Nat} (h : Operand.argCounts xs = .ok n) :
    capCount n = n := by
  cases xs with
  | nil => cases h; rfl
  | cons x rest =>
    rw [Operand.argCounts] at h
    cases hx : x.argCount with
    | error f => rw [hx] at h; cases h
    | ok k =>
      cases hrest : Operand.argCounts rest with
      | error f => rw [hx, hrest] at h; cases h
      | ok r =>
        rw [hx, hrest] at h
        cases h
        exact capCount_of_le (Nat.min_le_right _ _)

/-- The slots of two lists are counted one list after the other. -/
theorem Operand.argCounts_append (xs ys : List Operand) :
    Operand.argCounts (xs ++ ys) = (do
      let m ← Operand.argCounts xs
      let n ← Operand.argCounts ys
      return capCount (m + n)) := by
  induction xs with
  | nil =>
    cases hys : Operand.argCounts ys with
    | error f => simp only [List.nil_append, hys]; rfl
    | ok n =>
      have hcap : capCount (0 + n) = n := by
        rw [Nat.zero_add, Operand.capCount_of_argCounts hys]
      simp only [List.nil_append, hys, Operand.argCounts]
      exact congrArg Except.ok hcap.symm
  | cons x rest ih =>
    simp only [List.cons_append, Operand.argCounts, ih, bind_assoc, pure_bind, capCount_add_left,
      capCount_add_right, Nat.add_assoc]

/-- A nested combinator of the same kind counts like its operands. -/
theorem Predicate.argCount_nested (op : BooleanOp) (ps xs ys : List Operand) :
    Predicate.argCount (.boolean op (ps ++ .nested (.boolean op xs) :: ys)) =
      Predicate.argCount (.boolean op (ps ++ xs ++ ys)) := by
  simp only [Predicate.argCount, List.append_assoc, Operand.argCounts_append ps]
  rw [Operand.argCounts_append xs, Operand.argCounts, Operand.argCount, Predicate.argCount]

/-- A combinator has the source of one with the operands of a nested one of its own kind in its
place, on names of its own and on given ones. -/
theorem toSource_nested (s : Store) (op : BooleanOp) (hxs : xs ≠ []) (ps ys : List Operand) :
    let nested : Predicate := .boolean op (ps ++ .nested (.boolean op xs) :: ys)
    let flat : Predicate := .boolean op (ps ++ xs ++ ys)
    nested.toSource s = flat.toSource s ∧ nested.toSourceOn s = flat.toSourceOn s := by
  intro nested flat
  have hpredicate : Render.predicate s nested = Render.predicate s flat :=
    Render.predicate_nested s op hxs ps ys
  have hcount : nested.argCount = flat.argCount := Predicate.argCount_nested op ps xs ys
  have hprecedence : nested.precedence = flat.precedence := by
    simp only [nested, flat, Predicate.precedence]
  constructor
  · rw [Predicate.toSource, Predicate.toSource, Render.onOwnNames, Render.onOwnNames, hpredicate,
      hcount, hprecedence]
  · rw [Predicate.toSourceOn, Predicate.toSourceOn, hpredicate, hprecedence]

/-! ## Evaluation and source together -/

/-- **Combinators split and flatten.** An `or` or `and` of two lists of operands does what it does
on the first list, and goes on with the second one, where the first one left the machine, unless the
first one failed or stopped: then nothing of the second list happens, whatever is in it. So a
combinator cannot be told from one with the operands of a nested one of its own kind in its place,
in its outcome, in the machine it leaves, and in what it does on the way. The two have the same
source, where the nested one is part of a chain without parentheses. -/
theorem combinators_flatten (i : Interpreter) (s : Store) (op : BooleanOp) :
    (∀ stop xs ys m, op.stop? = some stop → ys ≠ [] →
      let before := i.eval (.boolean op xs)
      let after := i.eval (.boolean op ys)
      let both := i.eval (.boolean op (xs ++ ys))
      (both.run m = match before.run m with
        | .ok v m' => if xs ≠ [] ∧ v.isTruthy = stop then .ok v m' else after.run m'
        | .error f m' => .error f m') ∧
      i.events (.boolean op (xs ++ ys)) m =
        i.events (.boolean op xs) m ++ followed before m fun v m' =>
          if xs ≠ [] ∧ v.isTruthy = stop then [] else i.events (.boolean op ys) m') ∧
    (∀ ps xs ys, (xs = [] → op = .xor) →
      let nested : Predicate := .boolean op (ps ++ .nested (.boolean op xs) :: ys)
      let flat : Predicate := .boolean op (ps ++ xs ++ ys)
      i.eval nested = i.eval flat ∧ i.events nested = i.events flat ∧
      (xs ≠ [] → nested.toSource s = flat.toSource s ∧ nested.toSourceOn s = flat.toSourceOn s)) := by
  refine ⟨fun stop xs ys m hop hys => ⟨?_, ?_⟩, fun ps xs ys hxs => ⟨?_, ?_, fun hne => ?_⟩⟩
  · rw [eval_until i hop, eval_until i hop, eval_until i hop, evalUntil_append]
    cases hrun : (i.evalUntil stop .undefined xs).run m with
    | error f m' => rw [run_bind_error hrun]
    | ok v m' =>
      rw [run_bind_ok hrun]
      simp only
      split
      · rfl
      · rw [evalUntil_congr i stop v .undefined hys]
  · rw [events_until i hop, events_until i hop, untilEvents_append i stop .undefined,
      eval_until i hop]
    simp only [events_until i hop]
  · exact eval_nested i hxs ps ys
  · exact funext fun m => events_nested i hxs ps ys m
  · exact toSource_nested s op hne ps ys

/-- An unset node after an operand that stops is not reached, and a disjunction inside a disjunction
is written without parentheses. -/
theorem combinators_flatten_unset :
    let m : Machine := ⟨.start [.int 1] .fail, {}⟩
    let nested : Predicate := .boolean .or
      ([.literal .null] ++ .nested (.boolean .or [.unset, .unset]) :: [.literal (.int 0)])
    let flat : Predicate := .boolean .or ([.literal .null] ++ [.unset, .unset] ++ [.literal (.int 0)])
    (BooleanOp.or.stop? = some true ∧ [Operand.nested .unset] ≠ [] ∧
      (Interpreter.idle.eval (.boolean .or ([.unset] ++ [.nested .unset]))).run m =
        .ok (.int 1) ⟨m.cursor.advance 1, m.world⟩) ∧
    [Operand.unset, .unset] ≠ [] ∧ Interpreter.idle.eval nested = Interpreter.idle.eval flat ∧
      nested.toSource {} = .ok ⟨["a", "b"], "null || a || b || 0", .logicalOr⟩ := by
  intro m nested flat
  obtain ⟨hsplit, hflat⟩ := combinators_flatten Interpreter.idle {} .or
  obtain ⟨hrun, -⟩ := hsplit true [.unset] [.nested .unset] m rfl (List.cons_ne_nil _ _)
  obtain ⟨heval, -, hsource⟩ := hflat [.literal .null] [.unset, .unset] [.literal (.int 0)] nofun
  have hfirst : (Interpreter.idle.eval (.boolean .or [.unset])).run m =
      .ok (.int 1) ⟨m.cursor.advance 1, m.world⟩ := by rfl
  have hflatSource : flat.toSource {} = .ok ⟨["a", "b"], "null || a || b || 0", .logicalOr⟩ := by
    rfl
  rw [hfirst] at hrun
  exact ⟨⟨rfl, List.cons_ne_nil _ _, hrun⟩, List.cons_ne_nil _ _, heval,
    (hsource (List.cons_ne_nil _ _)).1.trans hflatSource⟩

end Criteria
