import Criteria.Proofs.Eval.Effects
import Criteria.Proofs.Predicate.Slots
import Criteria.Render.Dump
import Criteria.Render.Parentheses

/-!
# Complete trees

A tree is complete when no unset node stands in it.

* `Predicate.unset_mem_nodes` — a tree is complete unless an unset node is among its nodes.
* `Predicate.precedence_of_isComplete` — a complete tree has a precedence.
* `Predicate.answers_of_isComplete` — a complete tree answers every question about its root.
* `dumpsIf_dump` — a complete tree has a dump, and an incomplete one is refused.
-/

set_option autoImplicit false

namespace Criteria

/-! ## Unset nodes -/

mutual

theorem Operand.unset_mem_nodes :
    ∀ x : Operand, Predicate.unset ∈ x.nodes ↔ x.isComplete = false
  | .unset => by simp [Operand.nodes, Operand.isComplete]
  | .nested p => by
    rw [Operand.nodes, Operand.isComplete]
    exact Predicate.unset_mem_nodes p
  | .literal _ => by simp [Operand.nodes, Operand.isComplete]

/-- An unset node is among the nodes of a tree exactly when the tree is not complete. -/
theorem Predicate.unset_mem_nodes :
    ∀ p : Predicate, Predicate.unset ∈ p.nodes ↔ p.isComplete = false
  | .unset => by simp [Predicate.nodes, Predicate.isComplete]
  | .type _ | .charset .. | .string _ | .compare .. | .regex .. | .member _ | .function .. => by
    simp [Predicate.nodes, Predicate.inner, Predicate.isComplete]
  | .unary _ x => by
    simp [Predicate.nodes, Predicate.inner, Predicate.isComplete, Operand.unset_mem_nodes x]
  | .binary _ left right => by
    rw [Predicate.isComplete, Bool.and_eq_false_iff]
    simp [Predicate.nodes, Predicate.inner, Operand.unset_mem_nodes left,
      Operand.unset_mem_nodes right]
  | .boolean _ xs => by
    simp [Predicate.nodes, Predicate.inner, Predicate.isComplete, Operand.unset_mem_allNodes xs]
  | .property _ none => by simp [Predicate.nodes, Predicate.inner, Predicate.isComplete]
  | .property _ (some x) => by
    simp [Predicate.nodes, Predicate.inner, Predicate.isComplete, Operand.unset_mem_nodes x]
  | .shift _ x => by
    simp [Predicate.nodes, Predicate.inner, Predicate.isComplete, Operand.unset_mem_nodes x]

theorem Operand.unset_mem_allNodes :
    ∀ xs : List Operand, Predicate.unset ∈ Operand.allNodes xs ↔ Operand.allComplete xs = false
  | [] => by simp [Operand.allNodes, Operand.allComplete]
  | x :: rest => by
    rw [Operand.allNodes, Operand.allComplete, List.mem_append, Bool.and_eq_false_iff,
      Operand.unset_mem_nodes x, Operand.unset_mem_allNodes rest]

end

/-! ## Questions -/

mutual

theorem Operand.precedence_of_isComplete :
    ∀ {x : Operand}, x.isComplete → ∃ precedence, x.precedence = .ok precedence
  | .unset, _ | .literal _, _ => ⟨_, rfl⟩
  | .nested p, h => by
    rw [Operand.isComplete] at h
    rw [Operand.precedence]
    exact Predicate.precedence_of_isComplete h

theorem Predicate.precedence_of_isComplete :
    ∀ {p : Predicate}, p.isComplete → ∃ precedence, p.precedence = .ok precedence
  | .type mask, _ => by
    rw [Predicate.precedence]
    split <;> exact ⟨_, rfl⟩
  | .unary .., _ | .binary .., _ | .boolean .., _ | .compare .., _ | .charset .., _ | .string _, _
  | .regex .., _ | .member _, _ | .property .., _ | .function .., _ => ⟨_, rfl⟩
  | .shift _ x, h => by
    rw [Predicate.isComplete] at h
    rw [Predicate.precedence]
    exact Operand.precedence_of_isComplete h

end

theorem Operand.needsParens_of_isComplete {x : Operand} (h : x.isComplete) (operator : Precedence)
    (position : Position) : ∃ needed, needsParens operator x position = .ok needed := by
  obtain ⟨precedence, hprecedence⟩ := Operand.precedence_of_isComplete h
  rw [needsParens, hprecedence]
  exact ⟨_, rfl⟩

variable {α β : Type}

/-- The action gives something if `complete`, and is refused for an unset node if not. -/
def Action.DumpsIf (complete : Bool) (x : Action α) : Prop :=
  ∀ w, if complete then ∃ a w', x.run w = .ok a w'
    else ∃ w', x.run w = .error (.fault (.unsetNode .dump)) w'

namespace Action.DumpsIf

variable {b c : Bool} {x : Action α} {f : α → Action β}

theorem pure (a : α) : DumpsIf true (Pure.pure a : Action α) := fun w => ⟨a, w, rfl⟩

theorem read (f : Store → α) : DumpsIf true (Action.read f) := fun w => ⟨f w.store, w, rfl⟩

theorem bind (hx : DumpsIf b x) (hf : ∀ a, DumpsIf c (f a)) : DumpsIf (b && c) (x >>= f) := by
  intro w
  have hw := hx w
  cases b with
  | true =>
    obtain ⟨a, w', ha⟩ := hw
    rw [Bool.true_and, EStateM.run_bind, ha]
    exact hf a w'
  | false =>
    obtain ⟨w', herr⟩ := hw
    rw [Bool.false_and, EStateM.run_bind, herr]
    exact ⟨w', rfl⟩

/-- What follows may be given always. -/
theorem map (hx : DumpsIf b x) (hf : ∀ a, DumpsIf true (f a)) : DumpsIf b (x >>= f) := by
  have h := hx.bind hf
  rwa [Bool.and_true] at h

end Action.DumpsIf

mutual

theorem dumpsIf_operand : ∀ x : Operand, Action.DumpsIf x.isComplete x.dump
  | .unset => .pure _
  | .nested p => by
    rw [Operand.dump, Operand.isComplete]
    exact dumpsIf_dump p
  | .literal v => by
    rw [Operand.dump, Operand.isComplete]
    exact .read _

/-- A complete tree has a dump; one with an unset node, wherever it stands, is refused. -/
theorem dumpsIf_dump : ∀ p : Predicate, Action.DumpsIf p.isComplete p.dump
  | .unset => fun w => ⟨w, rfl⟩
  | .type _ | .string _ | .regex .. | .function .. => .pure _
  | .charset cell set => by
    have hdecode : Action.DumpsIf true (Action.decode cell set) := fun w => ⟨_, _, rfl⟩
    rw [Predicate.dump]
    exact hdecode.map fun _ => .pure _
  | .unary op x => by
    rw [Predicate.dump, Predicate.isComplete]
    exact (dumpsIf_operand x).map fun _ => .pure _
  | .binary op left right => by
    rw [Predicate.dump, Predicate.isComplete]
    exact (dumpsIf_operand left).bind fun _ => (dumpsIf_operand right).map fun _ => .pure _
  | .boolean op xs => by
    rw [Predicate.dump, Predicate.isComplete]
    exact (dumpsIf_all xs).map fun _ => .pure _
  | .compare .. => (Action.DumpsIf.read _).map fun _ => .pure _
  | .member _ => (Action.DumpsIf.read _).map fun _ => .pure _
  | .property name none => .pure _
  | .property name (some x) => by
    rw [Predicate.isComplete]
    exact (dumpsIf_operand x).map fun _ => .pure _
  | .shift _ x => by
    rw [Predicate.dump, Predicate.isComplete]
    exact (dumpsIf_operand x).map fun _ => .pure _

theorem dumpsIf_all : ∀ xs : List Operand, Action.DumpsIf (Operand.allComplete xs) (Operand.dumps xs)
  | [] => .pure _
  | x :: rest => by
    rw [Operand.dumps, Operand.allComplete]
    exact (dumpsIf_operand x).bind fun _ => (dumpsIf_all rest).map fun _ => .pure _

end

end Criteria
