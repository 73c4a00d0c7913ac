import Criteria.Proofs.Number
import Criteria.Proofs.Store.Changes
import Criteria.Proofs.Store.Unfolding
import Mathlib.Data.List.Forall2
import Mathlib.Data.List.Perm.Subperm

/-!
# Equality of values

Objects are compared in one direction only: every entry of the first has an equal one in the second,
which has as many entries. That both directions hold is a matter of counting, since no object has a key
twice.

* `Datum.WellKeyed` — no object in a datum has a key twice.
* `Datum.same_object_iff` — objects are equal when they are one or have equal values under all keys.
* `Datum.WellKeyed.same_comm` — equality of data is symmetric.
* `same_laws` — equality of values: symmetry, reflexivity, arrays and objects.
-/

set_option autoImplicit false

namespace Criteria

theorem forall₂_imp_of_mem {α β : Type} {r q : α → β → Prop} {xs : List α} {ys : List β}
    (hall : List.Forall₂ r xs ys) (h : ∀ x ∈ xs, ∀ y ∈ ys, r x y → q x y) :
    List.Forall₂ q xs ys := by
  rw [List.forall₂_iff_zip] at hall ⊢
  refine ⟨hall.1, fun {x y} hmem => ?_⟩
  obtain ⟨hx, hy⟩ := List.of_mem_zip hmem
  exact h x hx y hy (hall.2 hmem)

/-! ## Entries -/

namespace Datum

variable {x y d : Datum} {xs ys : List (String × Datum)} {key : String}

theorem lookUp_eq_lookup (key : String) (xs : List (String × Datum)) :
    lookUp key xs = xs.lookup key := by
  induction xs with
  | nil => rfl
  | cons e rest ih =>
    obtain ⟨k, d⟩ := e
    rw [lookUp, List.lookup_cons, ih]
    by_cases hk : k = key
    · rw [if_pos hk, hk, beq_self_eq_true]
    · rw [if_neg hk, beq_false_of_ne (Ne.symm hk)]

theorem mem_of_lookUp (h : lookUp key xs = some d) : (key, d) ∈ xs := by
  rw [lookUp_eq_lookup, List.lookup_eq_some_iff] at h
  obtain ⟨before, after, rfl, -⟩ := h
  exact List.mem_append_right before List.mem_cons_self

theorem lookUp_eq_none_iff : lookUp key xs = none ↔ key ∉ xs.map Prod.fst := by
  rw [lookUp_eq_lookup, List.lookup_eq_none_iff]
  simp only [List.mem_map, not_exists, not_and, bne_iff_ne]
  exact forall₂_congr fun _ _ => ne_comm

/-- Without repeated keys an entry is found under its key. -/
theorem lookUp_of_mem (hnodup : (xs.map Prod.fst).Nodup) (h : (key, d) ∈ xs) :
    lookUp key xs = some d := by
  obtain ⟨before, after, rfl⟩ := List.append_of_mem h
  rw [lookUp_eq_lookup, List.lookup_eq_some_iff]
  refine ⟨before, after, rfl, fun e he => bne_iff_ne.2 fun hkey => ?_⟩
  rw [List.map_append, List.map_cons] at hnodup
  exact (List.nodup_append.1 hnodup).2.2 e.1 (List.mem_map_of_mem he) key List.mem_cons_self hkey.symm

theorem sameEntries_cons (k : String) (x : Datum) (rest ys : List (String × Datum)) :
    sameEntries ((k, x) :: rest) ys = ((lookUp k ys).any x.same && sameEntries rest ys) := by
  rw [sameEntries]
  cases lookUp k ys <;> rfl

theorem sameEntries_iff : sameEntries xs ys = true ↔
    ∀ key x, (key, x) ∈ xs → ∃ y, lookUp key ys = some y ∧ same x y = true := by
  induction xs with
  | nil => simp [sameEntries]
  | cons e rest ih =>
    obtain ⟨k, x⟩ := e
    rw [sameEntries_cons, Bool.and_eq_true, ih, Option.any_eq_true]
    simp only [List.mem_cons, Prod.mk.injEq]
    constructor
    · rintro ⟨hfirst, hrest⟩ key d (⟨rfl, rfl⟩ | hmem)
      · exact hfirst
      · exact hrest key d hmem
    · exact fun h => ⟨h k x (.inl ⟨rfl, rfl⟩), fun key d hmem => h key d (.inr hmem)⟩

/-- With as many entries, one direction is enough. -/
theorem same_entries_iff (hxs : (xs.map Prod.fst).Nodup) (hys : (ys.map Prod.fst).Nodup) :
    (xs.length == ys.length && sameEntries xs ys) = true ↔
      ∀ key, Option.Rel (fun x y => same x y = true) (lookUp key xs) (lookUp key ys) := by
  rw [Bool.and_eq_true, beq_iff_eq, sameEntries_iff]
  constructor
  · rintro ⟨hlength, hsame⟩ key
    have hsubset : xs.map Prod.fst ⊆ ys.map Prod.fst := by
      intro k hk
      obtain ⟨⟨k, x⟩, hmem, rfl⟩ := List.mem_map.1 hk
      obtain ⟨y, hy, -⟩ := hsame k x hmem
      exact List.mem_map.2 ⟨(k, y), mem_of_lookUp hy, rfl⟩
    have hperm : (xs.map Prod.fst).Perm (ys.map Prod.fst) :=
      (List.subperm_of_subset hxs hsubset).perm_of_length_le (by simp [hlength])
    cases hx : lookUp key xs with
    | some x =>
      obtain ⟨y, hy, hxy⟩ := hsame key x (mem_of_lookUp hx)
      rw [hy]
      exact .some hxy
    | none =>
      rw [lookUp_eq_none_iff.2 fun hkey => lookUp_eq_none_iff.1 hx (hperm.mem_iff.2 hkey)]
      exact .none
  · intro hrel
    have hkeys : ∀ key, key ∈ xs.map Prod.fst ↔ key ∈ ys.map Prod.fst := by
      intro key
      rw [← not_iff_not, ← lookUp_eq_none_iff, ← lookUp_eq_none_iff]
      have hkey := hrel key
      cases hx : lookUp key xs <;> cases hy : lookUp key ys <;> simp [hx, hy] at hkey ⊢
    have hperm := (List.perm_ext_iff_of_nodup hxs hys).2 hkeys
    refine ⟨by simpa using hperm.length_eq, fun key x hmem => ?_⟩
    have hkey := hrel key
    rw [lookUp_of_mem hxs hmem] at hkey
    cases hy : lookUp key ys with
    | none => simp [hy] at hkey
    | some y => exact ⟨y, rfl, by simpa [hy] using hkey⟩

/-! ## Data -/

theorem same_object_iff {r q : ObjectRef} (hxs : (xs.map Prod.fst).Nodup)
    (hys : (ys.map Prod.fst).Nodup) : same (.object r xs) (.object q ys) = true ↔
      r = q ∨ ∀ key, Option.Rel (fun x y => same x y = true) (lookUp key xs) (lookUp key ys) := by
  rw [same, Bool.or_eq_true, beq_iff_eq, same_entries_iff hxs hys]

theorem sameItems_iff {xs ys : List Datum} :
    sameItems xs ys = true ↔ List.Forall₂ (fun x y => same x y = true) xs ys := by
  induction xs generalizing ys with
  | nil => cases ys <;> simp [sameItems]
  | cons x xs ih => cases ys <;> simp [sameItems, ih]

theorem same_array_iff {r q : ArrayRef} {xs ys : List Datum} :
    same (.array r xs) (.array q ys) = true ↔
      r = q ∨ List.Forall₂ (fun x y => same x y = true) xs ys := by
  rw [same, Bool.or_eq_true, beq_iff_eq, sameItems_iff]

/-- Only NaN is different from itself. Arrays and objects are what they are, whatever they contain. -/
theorem same_self_iff : same d d = true ↔ ∀ x, d = .float x → x.isNaN = false := by
  cases d <;> simp [same, Number.beq_self]

/-- The keys of an object. -/
def keys : Datum → List String
  | .object _ entries => entries.map Prod.fst
  | _ => []

/-- What a datum contains directly. -/
def parts : Datum → List Datum
  | .array _ items => items
  | .object _ entries => entries.map Prod.snd
  | _ => []

/-- No object in the datum has a key twice. -/
inductive WellKeyed : Datum → Prop
  | mk {d : Datum} (hkeys : d.keys.Nodup) (hparts : ∀ p ∈ d.parts, WellKeyed p) : WellKeyed d

theorem WellKeyed.nodup (h : WellKeyed d) : d.keys.Nodup := by
  cases h
  assumption

theorem WellKeyed.parts (h : WellKeyed d) : ∀ p ∈ d.parts, WellKeyed p := by
  cases h
  assumption

theorem forall₂_same_comm {xs ys : List Datum} (h : ∀ x ∈ xs, ∀ y ∈ ys, same x y = same y x) :
    List.Forall₂ (fun x y => same x y = true) xs ys →
      List.Forall₂ (fun x y => same x y = true) ys xs := by
  intro hsame
  induction hsame with
  | nil => exact .nil
  | cons hxy _ ih =>
    refine .cons ?_ (ih fun x hx y hy => h x (List.mem_cons_of_mem _ hx) y (List.mem_cons_of_mem _ hy))
    rw [← h _ List.mem_cons_self _ List.mem_cons_self]
    exact hxy

/-- Equality is symmetric. -/
theorem WellKeyed.same_comm (hx : WellKeyed x) (hy : WellKeyed y) : same x y = same y x := by
  induction hx generalizing y with
  | @mk x hkeys hparts ih =>
    -- a part of the one and a part of the other
    have hcomm : ∀ p ∈ x.parts, ∀ q ∈ y.parts, same p q = same q p :=
      fun p hp q hq => ih p hp (hy.parts q hq)
    cases x with
    | float a => cases y <;> simp [same, Number.beq_comm]
    | array r xs =>
      cases y with
      | array q ys =>
        rw [Bool.eq_iff_iff, same_array_iff, same_array_iff]
        exact or_congr eq_comm ⟨forall₂_same_comm hcomm,
          forall₂_same_comm fun y hy x hx => (hcomm x hx y hy).symm⟩
      | _ => rfl
    | object r xs =>
      cases y with
      | object q ys =>
        rw [Bool.eq_iff_iff, same_object_iff hkeys hy.nodup, same_object_iff hy.nodup hkeys]
        refine or_congr eq_comm (forall_congr' fun key => ?_)
        cases hx : lookUp key xs with
        | none => cases lookUp key ys <;> simp
        | some p =>
          cases hq : lookUp key ys with
          | none => simp
          | some q =>
            rw [Option.rel_some_some, Option.rel_some_some,
              hcomm p (List.mem_map_of_mem (mem_of_lookUp hx)) q (List.mem_map_of_mem (mem_of_lookUp hq))]
      | _ => rfl
    | _ => cases y <;> simp [same, Bool.beq_comm]

end Datum

/-! ## Values -/

namespace Store

variable {s : Store} {v w : Value} {key : String}

/-- No object has a key twice. -/
def WellKeyed (s : Store) : Prop := ∀ o, (s.entries o).keys.Nodup

/-- Every store that comes about by legal changes. -/
theorem wellKeyed_afterChanges {cs : List Change} (h : LegalAll {} cs) :
    (afterChanges {} cs).WellKeyed := by
  intro o
  rw [((Keeps.init o).run h).entries]
  exact Entries.nodup_keys _

theorem WellKeyed.unfold (h : s.WellKeyed) (n : Nat) (v : Value) : (s.unfold n v).WellKeyed := by
  induction n generalizing v with
  | zero => cases v <;> exact .mk List.nodup_nil fun p hp => absurd hp List.not_mem_nil
  | succ n ih =>
    cases v with
    | array a =>
      refine .mk List.nodup_nil fun p hp => ?_
      obtain ⟨w, -, rfl⟩ := List.mem_map.1 hp
      exact ih w
    | object o =>
      refine .mk ?_ fun p hp => ?_
      · have hkeys := h o
        simpa [Store.unfold, Datum.keys, Entries.keys, Function.comp_def] using hkeys
      · simp only [Store.unfold, Datum.parts, List.map_map, List.mem_map] at hp
        obtain ⟨e, -, rfl⟩ := hp
        exact ih e.2
    | _ => exact .mk List.nodup_nil fun p hp => absurd hp List.not_mem_nil

theorem unfold_eq_float_iff {n : Nat} {x : Float} : s.unfold n v = .float x ↔ v = .float x := by
  cases n <;> cases v <;> simp [unfold]

theorem lookUp_map_datum (s : Store) (key : String) (es : Entries) :
    Datum.lookUp key (es.map fun (k, v) => (k, s.datum v)) = (es.get? key).map s.datum := by
  induction es with
  | nil => rfl
  | cons e rest ih =>
    rw [List.map_cons, Datum.lookUp, Entries.get?, ih]
    split <;> rfl

/-- Arrays are equal when they are one or have equal elements. -/
theorem same_array_iff {a b : ArrayRef} (ha : s.Acyclic (.array a)) (hb : s.Acyclic (.array b)) :
    s.same (.array a) (.array b) = true ↔
      a = b ∨ List.Forall₂ (fun v w => s.same v w = true) (s.items a) (s.items b) := by
  rw [same, datum_array ha, datum_array hb, Datum.same_array_iff, List.forall₂_map_left_iff,
    List.forall₂_map_right_iff]
  rfl

/-- Objects are equal when they are one or have equal values under the same keys. -/
theorem same_object_iff (hs : s.WellKeyed) {o p : ObjectRef} (ho : s.Acyclic (.object o))
    (hp : s.Acyclic (.object p)) : s.same (.object o) (.object p) = true ↔
      o = p ∨ ∀ key,
        Option.Rel (fun v w => s.same v w = true) (s.getOwn? o key) (s.getOwn? p key) := by
  have hnodup : ∀ q, (((s.entries q).map fun (k, v) => (k, s.datum v)).map Prod.fst).Nodup := by
    intro q
    have hkeys := hs q
    simpa [Entries.keys, Function.comp_def] using hkeys
  rw [same, datum_object ho, datum_object hp, Datum.same_object_iff (hnodup o) (hnodup p)]
  refine or_congr_right (forall_congr' fun key => ?_)
  rw [lookUp_map_datum, lookUp_map_datum, getOwn?, getOwn?]
  cases (s.entries o).get? key <;> cases (s.entries p).get? key <;> simp [same]

end Store

/-- **Equality of values.** Equality is symmetric, and only NaN is different from itself. Arrays that
contain no cycle are equal when they are one or have equal elements in the same places. Objects that
contain no cycle are equal when they are one or own the same keys with equal values, whatever the order
of the keys and the prototypes. -/
theorem same_laws {s : Store} (hs : s.WellKeyed) :
    (∀ v w, s.same v w = s.same w v) ∧
    (∀ v, s.same v v = true ↔ ∀ x, v = .float x → x.isNaN = false) ∧
    (∀ a b, s.Acyclic (.array a) → s.Acyclic (.array b) →
      (s.same (.array a) (.array b) = true ↔
        a = b ∨ List.Forall₂ (fun v w => s.same v w = true) (s.items a) (s.items b))) ∧
    (∀ o p, s.Acyclic (.object o) → s.Acyclic (.object p) →
      (s.same (.object o) (.object p) = true ↔
        o = p ∨ ∀ key,
          Option.Rel (fun v w => s.same v w = true) (s.getOwn? o key) (s.getOwn? p key))) := by
  refine ⟨fun v w => (hs.unfold _ v).same_comm (hs.unfold _ w), fun v => ?_,
    fun _ _ => Store.same_array_iff, fun _ _ => Store.same_object_iff hs⟩
  simp only [Store.same, Datum.same_self_iff, Store.datum, Store.unfold_eq_float_iff]

/-- Two objects with the same entries in different orders, one the prototype of the other, and an array
of NaN. -/
theorem same_laws_reordered :
    let cs : List Store.Change :=
      [.newObject [("a", .int 1), ("b", .null)] none,
        .newObject [("b", .null), ("a", .int 1)] (some ⟨0⟩), .newArray [.float Number.nan]]
    let s := Store.afterChanges {} cs
    s.WellKeyed ∧ s.Acyclic (.object ⟨0⟩) ∧ s.Acyclic (.object ⟨1⟩) ∧
      s.same (.object ⟨0⟩) (.object ⟨1⟩) = true ∧ s.same (.object ⟨1⟩) (.object ⟨0⟩) = true ∧
      s.same (.array ⟨0⟩) (.array ⟨0⟩) = true ∧
      s.same (.float Number.nan) (.float Number.nan) = false := by
  intro cs s
  have hs : s.WellKeyed := Store.wellKeyed_afterChanges (by decide)
  have hflat : ∀ v w, s.Contains v w → s.contents w = [] := by
    intro v w hw
    cases v with
    | array a =>
      obtain ⟨_ | i⟩ := a
      · cases List.mem_singleton.1 hw
        rfl
      · cases hw
    | object o =>
      obtain ⟨_ | _ | i⟩ := o
      · have hmem : w ∈ [.int 1, .null] := hw
        rcases List.mem_pair.1 hmem with rfl | rfl <;> rfl
      · have hmem : w ∈ [.null, .int 1] := hw
        rcases List.mem_pair.1 hmem with rfl | rfl <;> rfl
      · cases hw
    | _ => cases hw
  have hacyclic : ∀ v, s.Acyclic v := Store.acyclic_of_flat hflat
  obtain ⟨hcomm, hself, -, hobjects⟩ := same_laws hs
  have hplain : ∀ v, (∀ x, v ≠ .float x) → s.same v v = true :=
    fun v hv => (hself v).2 fun x hx => absurd hx (hv x)
  have hsame : s.same (.object ⟨0⟩) (.object ⟨1⟩) = true := by
    refine (hobjects _ _ (hacyclic _) (hacyclic _)).2 (.inr fun key => ?_)
    show Option.Rel _ (Entries.get? key [("a", .int 1), ("b", .null)])
      (Entries.get? key [("b", .null), ("a", .int 1)])
    by_cases ha : "a" = key
    · subst ha
      exact .some (hplain (.int 1) (by rintro x ⟨⟩))
    · by_cases hb : "b" = key
      · subst hb
        exact .some (hplain .null (by rintro x ⟨⟩))
      · simp [Entries.get?, ha, hb]
  refine ⟨hs, hacyclic _, hacyclic _, hsame, hcomm _ _ ▸ hsame,
    hplain (.array ⟨0⟩) (by rintro x ⟨⟩), ?_⟩
  rw [Bool.eq_false_iff]
  intro hnan
  exact absurd ((hself _).1 hnan _ rfl) (by decide)

end Criteria
