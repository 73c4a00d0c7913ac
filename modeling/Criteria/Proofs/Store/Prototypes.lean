import Criteria.Proofs.Eval.Effects
import Criteria.Proofs.Store.Changes
import Mathlib.Logic.Relation
import Mathlib.Order.WellFounded

/-!
# Chains of prototypes

Where prototypes are older than the objects that inherit from them, following prototypes comes to an
end, whatever the object.

* `Store.Chained` — the prototypes of an object are all its ancestors, and they are in a strict order.
* `Store.Shadowed` — a property is that of the nearest object that owns one.
* `Store.Related` — instances, by way of their prototypes.
* `objects_afterChanges` — all of it holds of every store that comes about by legal changes.
-/

set_option autoImplicit false

namespace Criteria

open Eval Interpreter
open Relation (TransGen)

/-- Entries record the writes: the keys stand in the order of their first writing, each of them once
and with the value that was written last. -/
structure Entries.Record (es : Entries) (ws : List (String × Value)) : Prop where
  keys : es.keys = (ws.map Prod.fst).eraseDups
  nodup : es.keys.Nodup
  last : ∀ key, es.get? key = ws.reverse.lookup key

theorem Entries.record_ofPairs (ws : List (String × Value)) : (ofPairs ws).Record ws :=
  ⟨keys_ofPairs ws, nodup_keys ws, get?_ofPairs ws⟩

namespace Store

/-- `p` is the prototype of `o`. -/
def Parent (s : Store) (p o : ObjectRef) : Prop := s.prototype? o = some p

/-- Following prototypes comes to an end, and meets the ancestors. -/
structure Chained (s : Store) : Prop where
  wellFounded : WellFounded s.Parent
  /-- The chain is followed link by link. -/
  next : ∀ o, s.prototypes o = match s.prototype? o with
    | some p => p :: s.prototypes p
    | none => []
  /-- The last object has no prototype. -/
  ended : ∀ o, s.prototype? ((s.prototypes o).getLastD o) = none
  ancestor : ∀ p o, s.isPrototypeOf p o = true ↔ TransGen s.Parent p o
  irrefl : ∀ o, s.isPrototypeOf o o = false
  trans : ∀ p q o, s.isPrototypeOf p q = true → s.isPrototypeOf q o = true →
    s.isPrototypeOf p o = true

/-- A property is that of the nearest object on the chain that owns one. -/
structure Shadowed (s : Store) : Prop where
  /-- The chain is searched link by link. -/
  next : ∀ o key, s.get? o key =
    (s.getOwn? o key).or ((s.prototype? o).bind fun p => s.get? p key)
  some_iff : ∀ o key v, s.get? o key = some v ↔ ∃ nearer owner further,
    o :: s.prototypes o = nearer ++ owner :: further ∧ s.getOwn? owner key = some v ∧
      ∀ p ∈ nearer, s.getOwn? p key = none
  none_iff : ∀ o key, s.get? o key = none ↔ ∀ p ∈ o :: s.prototypes o, s.getOwn? p key = none
  has_iff : ∀ o key, s.hasProperty (.object o) key = true ↔
    ∃ p ∈ o :: s.prototypes o, (s.getOwn? p key).isSome

/-- The instances of a constructor are known by their prototypes. -/
structure Related (s : Store) : Prop where
  decided : ∀ v f, ∃ b, s.instanceOf v (.function f) = .ok b
  instance_iff : ∀ v f, s.instanceOf v (.function f) = .ok true ↔
    ∃ q, s.prototypeOf v = .object q ∧
      (f.prototype = some q ∨ s.instanceOf (.object q) (.function f) = .ok true)

variable {s : Store} {o p : ObjectRef} {f : Function}

/-! ## The chain of an object -/

namespace Aged

theorem prototypesUpTo_oldest (h : s.Aged) (ho : o.index = 0) (n : Nat) :
    s.prototypesUpTo n o = [] := by
  cases n with
  | zero => rfl
  | succ n =>
    rw [prototypesUpTo]
    cases hp : s.prototype? o with
    | none => rfl
    | some p => exact absurd (h o p hp) (by omega)

/-- There are at most as many prototypes as older objects, so that looking for more makes no
difference. -/
theorem prototypesUpTo_congr (h : s.Aged) : ∀ (n n' : Nat) {o : ObjectRef}, o.index ≤ n →
    o.index ≤ n' → s.prototypesUpTo n o = s.prototypesUpTo n' o
  | 0, n', _, hn, _ => (h.prototypesUpTo_oldest (by omega) n').symm
  | n + 1, 0, _, _, hn' => h.prototypesUpTo_oldest (by omega) (n + 1)
  | n + 1, n' + 1, o, hn, hn' => by
    rw [prototypesUpTo, prototypesUpTo]
    cases hp : s.prototype? o with
    | none => rfl
    | some p =>
      have hlt := h o p hp
      exact congrArg (p :: ·) (h.prototypesUpTo_congr n n' (by omega) (by omega))

theorem prototypes_eq (h : s.Aged) (o : ObjectRef) : s.prototypes o = match s.prototype? o with
    | some p => p :: s.prototypes p
    | none => [] := by
  rw [prototypes, h.prototypesUpTo_congr _ (o.index + 1) (Nat.le_refl _) (Nat.le_succ _),
    prototypesUpTo]
  cases hp : s.prototype? o with
  | none => rfl
  | some p =>
    have hlt := h o p hp
    exact congrArg (p :: ·) (h.prototypesUpTo_congr _ _ (Nat.le_of_lt hlt) (Nat.le_refl _))

theorem prototypes_some (h : s.Aged) (hp : s.prototype? o = some p) :
    s.prototypes o = p :: s.prototypes p := by
  rw [h.prototypes_eq o, hp]

theorem prototypes_none (h : s.Aged) (hp : s.prototype? o = none) : s.prototypes o = [] := by
  rw [h.prototypes_eq o, hp]

theorem wellFounded (h : s.Aged) : WellFounded s.Parent :=
  Subrelation.wf (fun {p o} hp => h o p hp) (measure ObjectRef.index).wf

theorem ended (h : s.Aged) (o : ObjectRef) :
    s.prototype? ((s.prototypes o).getLastD o) = none := by
  induction o using h.wellFounded.induction with
  | _ o ih =>
    cases hp : s.prototype? o with
    | none => rwa [h.prototypes_none hp]
    | some p =>
      rw [h.prototypes_some hp, List.getLastD_cons]
      exact ih p hp

/-! ## Ancestors -/

theorem isPrototypeOf_iff_next (h : s.Aged) (p o : ObjectRef) : s.isPrototypeOf p o = true ↔
    ∃ q, s.prototype? o = some q ∧ (p = q ∨ s.isPrototypeOf p q = true) := by
  cases hq : s.prototype? o with
  | none => simp [isPrototypeOf, h.prototypes_none hq]
  | some q => simp [isPrototypeOf, h.prototypes_some hq]

theorem isPrototypeOf_iff (h : s.Aged) (p o : ObjectRef) :
    s.isPrototypeOf p o = true ↔ TransGen s.Parent p o := by
  constructor
  · induction o using h.wellFounded.induction with
    | _ o ih =>
      intro hp
      obtain ⟨q, hq, rfl | hp⟩ := (h.isPrototypeOf_iff_next p o).1 hp
      · exact .single hq
      · exact .tail (ih q hq hp) hq
  · intro hp
    induction hp with
    | single hq => exact (h.isPrototypeOf_iff_next p _).2 ⟨p, hq, .inl rfl⟩
    | tail _ hq ih => exact (h.isPrototypeOf_iff_next p _).2 ⟨_, hq, .inr ih⟩

theorem chained (h : s.Aged) : s.Chained where
  wellFounded := h.wellFounded
  next := h.prototypes_eq
  ended := h.ended
  ancestor := h.isPrototypeOf_iff
  irrefl o := by
    rw [Bool.eq_false_iff, ne_eq, h.isPrototypeOf_iff]
    exact h.wellFounded.transGen.irrefl.irrefl o
  trans p q o hpq hqo := by
    rw [h.isPrototypeOf_iff] at hpq hqo ⊢
    exact hpq.trans hqo

/-! ## Properties along the chain -/

theorem get?_eq (h : s.Aged) (o : ObjectRef) (key : String) : s.get? o key =
    (s.getOwn? o key).or ((s.prototype? o).bind fun p => s.get? p key) := by
  rw [get?, List.findSome?_cons]
  cases s.getOwn? o key with
  | some v => rfl
  | none =>
    cases hp : s.prototype? o with
    | none => rw [h.prototypes_none hp]; rfl
    | some p => rw [h.prototypes_some hp]; rfl

theorem shadowed (h : s.Aged) : s.Shadowed where
  next := h.get?_eq
  some_iff _ _ _ := List.findSome?_eq_some_iff
  none_iff _ _ := List.findSome?_eq_none_iff
  has_iff o key := by
    rw [hasProperty, has, get?, List.isSome_findSome?, List.any_eq_true]

/-! ## Instances -/

theorem related (h : s.Aged) : s.Related where
  decided v f := by
    simp only [instanceOf]
    split <;> exact ⟨_, rfl⟩
  instance_iff v f := by
    cases hf : f.prototype with
    | none => simp [instanceOf, hf]
    | some p =>
      cases v with
      | object o =>
        simp only [instanceOf, prototypeOf, hf, Except.ok.injEq, Option.some.injEq]
        rw [h.isPrototypeOf_iff_next p o]
        cases s.prototype? o <;> simp
      | _ => simp [instanceOf, prototypeOf, hf]

end Aged

end Store

/-! ## Nodes -/

variable {i : Interpreter} {m m' m₁ : Machine}

theorem world_of_run_shift {v : Value} (h : Eval.shift.run m = .ok v m₁) : m₁.world = m.world := by
  rw [run_shift] at h
  split at h <;> cases h
  rfl

theorem eq_object_of_sameReference {v : Value} {p : ObjectRef}
    (h : Value.sameReference v (.object p) = true) : v = .object p := by
  cases v with
  | object q => rw [eq_of_beq (show (q == p) = true from h)]
  | _ => cases h

/-- An argument with a certain prototype is an instance of every constructor with that prototype. -/
theorem Store.Related.run_compare {p : ObjectRef} {f : Function} (h : m.world.store.Related)
    (hf : f.prototype = some p)
    (hrun : (i.eval (.compare .prototypeIs (.object p))).run m = .ok (.bool true) m') :
    (i.eval (.compare .instanceOf (.function f))).run m = .ok (.bool true) m' := by
  simp only [eval, Interpreter.compare] at hrun ⊢
  cases hv : Eval.shift.run m with
  | error e m₁ =>
    rw [run_bind_error hv] at hrun
    cases hrun
  | ok v m₁ =>
    rw [run_bind_ok hv] at hrun ⊢
    injection hrun with hsame hm
    injection hsame with hsame
    have hproto := eq_object_of_sameReference hsame
    have hinst := (h.instance_iff v f).2 ⟨p, world_of_run_shift hv ▸ hproto, .inl hf⟩
    rw [← world_of_run_shift hv] at hinst
    change (onWorld (Action.ofExcept (m₁.world.store.instanceOf v (.function f))) >>=
      fun related => pure (.bool related) : Eval Value).run m₁ = _
    rw [hinst, ← hm]
    rfl

/-- Of every store that comes about by legal changes: the entries of its objects record the writes,
chains of prototypes come to an end, and along them properties are found and instances told. -/
theorem objects_afterChanges {cs : List Store.Change} (h : Store.LegalAll {} cs) :
    let s := Store.afterChanges {} cs
    (∀ o, (s.entries o).Record (Store.allWrites o {} cs)) ∧
      s.Chained ∧ s.Shadowed ∧ s.Related ∧
      ∀ (i : Interpreter) (m m' : Machine) (p : ObjectRef) (f : Function), m.world.store = s →
        f.prototype = some p →
        (i.eval (.compare .prototypeIs (.object p))).run m = .ok (.bool true) m' →
        (i.eval (.compare .instanceOf (.function f))).run m = .ok (.bool true) m' := by
  intro s
  have hs : s.Aged := Store.Aged.init.run h
  refine ⟨fun o => ?_, hs.chained, hs.shadowed, hs.related, ?_⟩
  · rw [((Store.Keeps.init o).run h).entries]
    exact Entries.record_ofPairs _
  · intro i m m' p f hm hf hrun
    exact Store.Related.run_compare (hm ▸ hs.related) hf hrun

/-- An object whose prototype was given a key twice, and which an array refers to. -/
theorem objects_afterChanges_heir :
    let cs : List Store.Change :=
      [.newObject [("a", .int 1), ("b", .null), ("a", .int 3)] none, .newObject [] (some ⟨0⟩),
        .setOwn ⟨1⟩ "b" (.bool true), .newArray [], .setItem ⟨0⟩ 1 (.object ⟨1⟩),
        .fillCaptures ⟨0⟩ [some (0, 1), none] 2]
    let s := Store.afterChanges {} cs
    Store.LegalAll {} cs ∧ s.Chained ∧ (s.entries ⟨0⟩).keys = ["a", "b"] ∧
      s.prototypes ⟨1⟩ = [⟨0⟩] ∧ s.get? ⟨1⟩ "a" = some (.int 3) ∧
      s.get? ⟨1⟩ "b" = some (.bool true) := by
  intro cs s
  have hcs : Store.LegalAll {} cs := by decide
  obtain ⟨hrecord, hchained, hshadowed, -⟩ := objects_afterChanges hcs
  have hproto : s.prototypes ⟨1⟩ = [⟨0⟩] := rfl
  refine ⟨hcs, hchained, (hrecord ⟨0⟩).keys.trans (by decide), hproto, ?_, ?_⟩
  · refine (hshadowed.some_iff ⟨1⟩ "a" _).2 ⟨[⟨1⟩], ⟨0⟩, [], by rw [hproto]; rfl, rfl, ?_⟩
    intro p hp
    rw [List.mem_singleton.1 hp]
    rfl
  · exact (hshadowed.some_iff ⟨1⟩ "b" _).2
      ⟨[], ⟨1⟩, [⟨0⟩], by rw [hproto]; rfl, rfl, fun _ hp => absurd hp List.not_mem_nil⟩

end Criteria
