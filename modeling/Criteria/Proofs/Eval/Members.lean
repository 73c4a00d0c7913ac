import Criteria.Proofs.Eval.Effects
import Criteria.Proofs.Store.Properties

/-!
# Member nodes

A member node asks whether the stored value has the property before it reads it, so that it does not
see the failure of reading from `undefined` or `null`.

* `Store.Consistent` — the test for a property and the reading of it go by the same rules.
* `run_member` — a member node fails for want of a key only.
* `properties_consistent` — what is tested, what is read and what a member node evaluates to.
-/

set_option autoImplicit false

namespace Criteria

open Eval Interpreter

/-- A property that the test finds is the one that is read, and what it does not find is missing. -/
structure Store.Consistent (s : Store) (v : Value) (key : String) : Prop where
  has_iff : s.hasProperty v key = true ↔ ∃ w, s.Carries v key w
  /-- A property that is there is read. -/
  found : ∀ w, s.Carries v key w → s.getProperty v key = .ok w
  /-- A property that is not there is `undefined`, if there is anything to read from. -/
  missing : s.hasProperty v key = false → v ≠ .undefined → v ≠ .null →
    s.getProperty v key = .ok .undefined
  /-- Reading fails on the two values that have no properties at all. -/
  error_iff : ∀ e, s.getProperty v key = .error e ↔
    (v = .undefined ∨ v = .null) ∧ e = .notObject v.typeName

theorem Store.consistent (s : Store) (v : Value) (key : String) : s.Consistent v key where
  has_iff := hasProperty_iff
  found _ h := h.getProperty
  missing := getProperty_of_hasProperty_false
  error_iff _ := getProperty_error_iff

/-! ## Evaluation -/

/-- A stored value has what is read of it. -/
theorem run_lookup (target : Value) (key : String) (m : Machine) :
    (do
      if ← onWorld (Action.read fun s => s.hasProperty target key) then
        let found ← onWorld (Action.read fun s => s.getProperty target key)
        onWorld (Action.ofExcept found)
      else return .undefined : Eval Value).run m =
      .ok ((m.world.store.property? key target).getD .undefined) m := by
  have hread : ∀ (x y : Eval Value), (do
      if ← onWorld (Action.read fun s => s.hasProperty target key) then x else y).run m =
      (if m.world.store.hasProperty target key then x else y).run m := fun _ _ => rfl
  rw [hread]
  by_cases hhas : m.world.store.hasProperty target key
  · obtain ⟨w, hw⟩ := Store.hasProperty_iff.1 hhas
    rw [if_pos hhas, hw.property?]
    show (onWorld (Action.ofExcept (m.world.store.getProperty target key)) : Eval Value).run m = _
    rw [hw.getProperty]
    rfl
  · have hnone : m.world.store.property? key target = none := by
      simpa [Store.hasProperty_eq_isSome] using hhas
    rw [if_neg hhas, hnone]
    rfl

theorem run_shiftText (m : Machine) :
    shiftText.run m = match m.cursor.shift with
      | (.ok v, d) => .ok (m.world.store.text v) ⟨d, m.world⟩
      | (.error e, d) => .error (.error e) ⟨d, m.world⟩ := by
  have hshift := run_shift m
  cases hd : m.cursor.shift with
  | mk r d =>
    rw [hd] at hshift
    cases r with
    | ok v =>
      rw [shiftText, run_bind_ok hshift]
      rfl
    | error e => rw [shiftText, run_bind_error hshift]

theorem run_member (target : Value) (m : Machine) :
    (readMember target).run m = match m.cursor.shift with
      | (.ok v, d) =>
        .ok ((m.world.store.property? (m.world.store.text v) target).getD .undefined) ⟨d, m.world⟩
      | (.error e, d) => .error (.error e) ⟨d, m.world⟩ := by
  have htext := run_shiftText m
  cases hd : m.cursor.shift with
  | mk r d =>
    rw [hd] at htext
    cases r with
    | ok v =>
      rw [readMember, run_bind_ok htext]
      exact run_lookup target _ ⟨d, m.world⟩
    | error e => rw [readMember, run_bind_error htext]

/-- The test for a property and the reading of it agree for every value and key. A member node that
has its key evaluates to what reading gives, and to `undefined` where reading fails. -/
theorem properties_consistent (v : Value) :
    (∀ s key, Store.Consistent s v key) ∧
      ∀ (i : Interpreter) (m : Machine), (i.eval (.member v)).run m =
        match m.cursor.shift with
        | (.ok arg, d) =>
          .ok ((m.world.store.getProperty v (m.world.store.text arg)).toOption.getD .undefined)
            ⟨d, m.world⟩
        | (.error e, d) => .error (.error e) ⟨d, m.world⟩ := by
  refine ⟨fun s key => s.consistent v key, fun i m => ?_⟩
  rw [eval, run_member]
  simp only [Store.toOption_getProperty]

end Criteria
