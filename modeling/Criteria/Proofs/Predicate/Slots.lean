import Criteria.Predicate.Query

/-!
# Slots of a tree

* `Predicate.slots` — the arguments that a tree takes from one cursor when no combinator stops
  early, as a number without bound; a property filter takes none of them.
* `Predicate.isComplete` — no unset node stands in the tree, in operands or in filters.

`argCount_eq` — the count that a complete tree reports is the number of its slots, stopped at the
largest word.
-/

set_option autoImplicit false

namespace Criteria

/-- The literals that are written as words, numerals and quoted text. -/
def Value.isPlain : Value → Bool
  | undefined => true
  | null => true
  | bool _ => true
  | int _ => true
  | str _ => true
  | _ => false

mutual

/-- One for an unset slot, the slots of a nested tree, none for a literal. -/
def Operand.slots : Operand → Nat
  | .unset => 1
  | .nested p => p.slots
  | .literal _ => 0

/-- The arguments that the tree takes when nothing stops early. -/
def Predicate.slots : Predicate → Nat
  | .unset => 0
  | .type _ => 1
  | .charset .. => 1
  | .string _ => 1
  | .compare .. => 1
  | .regex .. => 1
  | .member _ => 1
  | .unary _ x => x.slots
  | .binary _ left right => left.slots + right.slots
  | .boolean _ xs => Operand.slotSum xs
  | .property name _ => Predicate.propertyArgCount name
  | .shift count x => count + x.slots
  | .function _ _ arity => arity

/-- The slots of some operands. -/
def Operand.slotSum : List Operand → Nat
  | [] => 0
  | x :: rest => x.slots + Operand.slotSum rest

end

mutual

/-- No unset node stands in the operand. -/
def Operand.isComplete : Operand → Bool
  | .unset => true
  | .nested p => p.isComplete
  | .literal _ => true

/-- No unset node stands in the tree, filters included. -/
def Predicate.isComplete : Predicate → Bool
  | .unset => false
  | .unary _ x => x.isComplete
  | .binary _ left right => left.isComplete && right.isComplete
  | .boolean _ xs => Operand.allComplete xs
  | .property _ (some x) => x.isComplete
  | .shift _ x => x.isComplete
  | _ => true

/-- No unset node stands in the operands. -/
def Operand.allComplete : List Operand → Bool
  | [] => true
  | x :: rest => x.isComplete && Operand.allComplete rest

end

/-! ## Stopped sums -/

theorem capCount_le (n : Nat) : capCount n ≤ n := Nat.min_le_left ..

theorem capCount_of_le {n : Nat} (h : n ≤ countLimit) : capCount n = n := Nat.min_eq_left h

/-- Stopping the summands does not change the stopped sum. -/
theorem capCount_add (m n : Nat) : capCount (capCount m + capCount n) = capCount (m + n) := by
  unfold capCount; omega

theorem capCount_add_right (m n : Nat) : capCount (m + capCount n) = capCount (m + n) := by
  unfold capCount; omega

theorem capCount_add_left (m n : Nat) : capCount (capCount m + n) = capCount (m + n) := by
  unfold capCount; omega

theorem capCount_propertyArgCount (name : Option String) :
    capCount (Predicate.propertyArgCount name) = Predicate.propertyArgCount name := by
  cases name <;> rfl

/-! ## The reported count -/

mutual

theorem Operand.argCount_eq : ∀ {x : Operand}, x.isComplete → x.argCount = .ok (capCount x.slots)
  | .unset, _ => rfl
  | .nested p, h => by
    rw [Operand.isComplete] at h
    rw [Operand.argCount, Operand.slots, Predicate.argCount_eq h]
  | .literal _, _ => rfl

/-- The count that a complete tree reports. -/
theorem Predicate.argCount_eq :
    ∀ {p : Predicate}, p.isComplete → p.argCount = .ok (capCount p.slots)
  | .type _, _ | .charset .., _ | .string _, _ | .compare .., _ | .regex .., _ | .member _, _ => rfl
  | .unary _ x, h => by
    rw [Predicate.isComplete] at h
    rw [Predicate.argCount, Predicate.slots, Operand.argCount_eq h]
  | .binary _ left right, h => by
    rw [Predicate.isComplete, Bool.and_eq_true] at h
    rw [Predicate.argCount, Operand.argCount_eq h.1, Operand.argCount_eq h.2, Predicate.slots,
      ← capCount_add]
    rfl
  | .boolean _ xs, h => by
    rw [Predicate.isComplete] at h
    rw [Predicate.argCount, Predicate.slots, Operand.argCounts_eq h]
  | .property name _, _ => by
    rw [Predicate.argCount, Predicate.slots, capCount_propertyArgCount]
  | .shift count x, h => by
    rw [Predicate.isComplete] at h
    rw [Predicate.argCount, Operand.argCount_eq h, Predicate.slots, ← capCount_add_right]
    rfl
  | .function .., _ => rfl

theorem Operand.argCounts_eq :
    ∀ {xs : List Operand}, Operand.allComplete xs →
      Operand.argCounts xs = .ok (capCount (Operand.slotSum xs))
  | [], _ => rfl
  | x :: rest, h => by
    rw [Operand.allComplete, Bool.and_eq_true] at h
    rw [Operand.argCounts, Operand.argCount_eq h.1, Operand.argCounts_eq h.2, Operand.slotSum,
      ← capCount_add]
    rfl

end

end Criteria
