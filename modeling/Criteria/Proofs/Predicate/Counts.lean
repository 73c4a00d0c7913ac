import Criteria.Proofs.Predicate.Slots
import Mathlib

/-!
# The two counts of a node

A node reports how many arguments its tree takes, and how many it takes itself. What lies between the
two are the counts of the trees in its operands, and one slot that belongs to neither: the operand of a
shift, when it is unset.

* `Predicate.parts` — the trees in the operands of a node.
* `Predicate.omitted` — the slots that the node's own count leaves out.

Principal results:

* `Predicate.slots_eq` — the slots of a tree are those of its root, of its parts and the omitted ones.
* `argCount_of_parts` — when the two counts fit together.
* `argCount_omits_slot` — they need not: a shift with an unset operand.
-/

set_option autoImplicit false

namespace Criteria

/-! ## The parts of a node -/

/-- The tree in an operand. -/
def Operand.tree? : Operand → Option Predicate
  | .nested p => some p
  | _ => none

namespace Predicate

/-- The operands that a node lists. A property lists its filter too, which has a cursor of its own and
is left out. -/
def operands (p : Predicate) : List Operand :=
  match p, p.values with
  | .property .., _ => []
  | _, .ok xs => xs
  | _, .error _ => []

/-- The trees in the operands of a node. -/
def parts (p : Predicate) : List Predicate := p.operands.filterMap Operand.tree?

/-- The slot of a shift whose operand is unset: what a shift takes itself are the arguments that it
skips. -/
def omitted : Predicate → Nat
  | .shift _ .unset => 1
  | _ => 0

/-- A node that leaves out a slot is a shift with an unset operand. -/
theorem omitted_cases (p : Predicate) :
    (p.omitted = 0 ∧ ∀ count, p ≠ .shift count .unset) ∨ ∃ count, p = .shift count .unset := by
  cases p with
  | shift count x =>
    cases x with
    | unset => exact .inr ⟨count, rfl⟩
    | nested | literal => exact .inl ⟨rfl, fun _ h => by cases h⟩
  | _ => exact .inl ⟨rfl, fun _ h => by cases h⟩

end Predicate

/-! ## Slots of the parts -/

/-- The slots of some operands are the unset ones and those of the trees in them. -/
theorem Operand.slotSum_eq (xs : List Operand) : Operand.slotSum xs =
    (xs.filter Operand.isUnset).length + ((xs.filterMap Operand.tree?).map Predicate.slots).sum := by
  induction xs with
  | nil => rfl
  | cons x rest ih =>
    rw [Operand.slotSum, ih, List.filter_cons, List.filterMap_cons]
    cases x with
    | unset =>
      simp only [slots, isUnset, tree?, if_true, List.length_cons]
      omega
    | nested p =>
      simp only [slots, isUnset, tree?, Bool.false_eq_true, if_false, List.map_cons, List.sum_cons]
      omega
    | literal v => simp only [slots, isUnset, tree?, Bool.false_eq_true, if_false, Nat.zero_add]

theorem Operand.isComplete_of_mem {xs : List Operand} (h : Operand.allComplete xs) :
    ∀ x ∈ xs, x.isComplete := by
  induction xs with
  | nil => nofun
  | cons y rest ih =>
    rw [Operand.allComplete, Bool.and_eq_true] at h
    exact List.forall_mem_cons.2 ⟨h.1, ih h.2⟩

namespace Predicate

/-- The slots of a tree are those of its root, those of its parts and the omitted ones. -/
theorem slots_eq {p : Predicate} {direct : Nat} (h : p.directArgCount = .ok direct) :
    p.slots = direct + (p.parts.map slots).sum + p.omitted := by
  -- The operands of an operator are taken one by one, as a list.
  have hsum := Operand.slotSum_eq p.operands
  have hdirect : ∀ x : Operand, x.directArgCount = ([x].filter Operand.isUnset).length := by
    intro x
    cases x <;> rfl
  cases p with
  | unset => cases h
  | unary op x =>
    cases h
    rw [hdirect]
    exact hsum
  | binary op left right =>
    cases h
    have hunset : ([left, right].filter Operand.isUnset).length =
        left.directArgCount + right.directArgCount := by
      rw [hdirect, hdirect, ← List.length_append, ← List.filter_append, List.singleton_append]
    rw [← hunset]
    exact hsum
  | boolean op xs =>
    cases h
    exact hsum
  | shift count x =>
    cases h
    cases x <;> rfl
  | type | charset | string | compare | regex | member | property | function =>
    cases h
    rfl

/-- The parts of a complete tree are complete. -/
theorem parts_complete {p : Predicate} (hp : p.isComplete) : ∀ q ∈ p.parts, q.isComplete := by
  intro q hq
  obtain ⟨x, hx, htree⟩ := List.mem_filterMap.1 hq
  have hoperands : Operand.allComplete p.operands := by
    cases p with
    | unary | shift => simpa [operands, values, Operand.allComplete, isComplete] using hp
    | binary => simpa [operands, values, Operand.allComplete, isComplete] using hp
    | boolean op xs => simpa [operands, values, isComplete] using hp
    | _ => rfl
  have hcomplete := Operand.isComplete_of_mem hoperands x hx
  cases x <;> cases htree
  exact hcomplete

/-- The counts that the parts of a complete tree report. -/
theorem mapM_argCount {ps : List Predicate} (h : ∀ p ∈ ps, p.isComplete) :
    ps.mapM argCount = .ok (ps.map fun p => capCount p.slots) := by
  induction ps with
  | nil => rfl
  | cons p rest ih =>
    obtain ⟨hp, hrest⟩ := List.forall_mem_cons.1 h
    rw [List.mapM_cons, argCount_eq hp, ih hrest]
    rfl

end Predicate

/-- Stopping the summands does not change the stopped sum. -/
theorem capCount_sum (ns : List Nat) : capCount (ns.map capCount).sum = capCount ns.sum := by
  induction ns with
  | nil => rfl
  | cons n rest ih =>
    rw [List.map_cons, List.sum_cons, List.sum_cons, capCount_add_left, ← capCount_add_right, ih,
      capCount_add_right]

/-- A sum with one more is stopped at the same number when the sum was there already. -/
theorem capCount_add_one_eq_iff {n : Nat} : capCount (n + 1) = capCount n ↔ countLimit ≤ n := by
  unfold capCount
  omega

/-! ## The two counts -/

/-- The count of a tree is that of its root with the counts of its parts and the omitted slots. -/
theorem Predicate.argCount_eq_parts {p : Predicate} (hp : p.isComplete) {direct : Nat}
    (hdirect : p.directArgCount = .ok direct) : p.argCount =
      .ok (capCount (direct + (p.parts.map fun q => capCount q.slots).sum + p.omitted)) := by
  have hstopped : capCount (p.parts.map fun q => capCount q.slots).sum =
      capCount (p.parts.map slots).sum := by
    rw [← capCount_sum (p.parts.map slots), List.map_map]
    rfl
  rw [argCount_eq hp, slots_eq hdirect, Nat.add_right_comm, ← capCount_add_right, ← hstopped,
    capCount_add_right, Nat.add_right_comm]

/-- **When the counts of a node fit together.** The count of a complete tree is that of its root with
the counts of the trees in the operands, stopped at the largest word, and one more for a shift whose
operand is unset. So the two counts fit together at every other node, and are the same at every other
node without trees in its operands; at such a shift they do only when it skips as many arguments as can be
counted. -/
theorem argCount_of_parts (p : Predicate) (hp : p.isComplete) :
    ∃ direct counts, p.directArgCount = .ok direct ∧ p.parts.mapM Predicate.argCount = .ok counts ∧
      p.argCount = .ok (capCount (direct + counts.sum + p.omitted)) ∧
      (p.argCount = .ok (capCount (direct + counts.sum)) ↔
        ∀ count, p = .shift count .unset → countLimit ≤ count) ∧
      (p.parts = [] → (p.argCount = .ok (capCount direct) ↔
        ∀ count, p = .shift count .unset → countLimit ≤ count)) := by
  obtain ⟨direct, hdirect⟩ : ∃ direct, p.directArgCount = .ok direct := by
    cases p with
    | unset => cases hp
    | _ => exact ⟨_, rfl⟩
  have hall := Predicate.argCount_eq_parts hp hdirect
  have hfits : p.argCount = .ok (capCount (direct + (p.parts.map fun q => capCount q.slots).sum)) ↔
      ∀ count, p = .shift count .unset → countLimit ≤ count := by
    rw [hall, Except.ok.injEq]
    rcases p.omitted_cases with ⟨homitted, hne⟩ | ⟨count, rfl⟩
    · rw [homitted, Nat.add_zero]
      exact iff_of_true rfl fun count h => absurd h (hne count)
    · obtain rfl : count = direct := Except.ok.inj hdirect
      have hnone : ((Predicate.shift count .unset).parts.map fun q => capCount q.slots).sum = 0 := rfl
      have hone : (Predicate.shift count .unset).omitted = 1 := rfl
      simp only [hnone, hone, Nat.add_zero]
      rw [capCount_add_one_eq_iff]
      exact ⟨fun h count' heq => by cases heq; exact h, fun h => h count rfl⟩
  refine ⟨direct, _, hdirect, Predicate.mapM_argCount (Predicate.parts_complete hp), hall, hfits, ?_⟩
  intro hparts
  rw [← hfits, hparts]
  rfl

/-- A combinator with an unset slot, a literal and two trees, one of them a shift. -/
theorem argCount_of_parts_combinator :
    let p : Predicate := .boolean .or
      [.unset, .nested (.type (.ofList [.int])), .literal .null, .nested (.shift 2 .unset)]
    p.isComplete ∧ p.directArgCount = .ok 1 ∧ p.parts.mapM Predicate.argCount = .ok [1, 3] ∧
      p.argCount = .ok (capCount (1 + [1, 3].sum)) := by
  intro p
  obtain ⟨direct, counts, hdirect, hcounts, -, hfits, -⟩ := argCount_of_parts p rfl
  cases hdirect
  have hparts : p.parts.mapM Predicate.argCount = .ok [1, 3] := rfl
  rw [hparts, Except.ok.injEq] at hcounts
  subst hcounts
  exact ⟨rfl, rfl, hparts, hfits.2 nofun⟩

/-- A shift takes its skipped arguments itself, and one more for its unset operand, which is no tree. -/
theorem argCount_omits_slot :
    let p : Predicate := .shift 2 .unset
    p.isComplete ∧ p.parts = [] ∧ p.directArgCount = .ok 2 ∧ p.argCount = .ok 3 ∧
      p.argCount ≠ .ok (capCount (2 + 0)) := by
  refine ⟨rfl, rfl, rfl, rfl, ?_⟩
  intro h
  exact absurd (Except.ok.inj h) (by decide)

end Criteria
