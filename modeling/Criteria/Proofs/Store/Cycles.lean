import Criteria.Proofs.Store.Captures
import Criteria.Proofs.Store.Unfolding

/-!
# Captures make no cycles

Captures are exported as arrays of numbers, and such arrays as the elements of another one. None of
these arrays contains anything that was in the store before.

* `isAcyclic_of_changed` — only what has new contents can come to contain itself.
* `isAcyclic_exportCaptures`, `isAcyclic_fillCaptures` — where nothing contains itself, nothing does
  after captures were exported to a new array or to one of the store.
-/

set_option autoImplicit false

namespace Criteria.Store

variable {s s' : Store} {n : Nat} {v : Value}

theorem isAcyclic_of_changed (hs : s.IsAcyclic)
    (h : ∀ v, s'.contents v = s.contents v ∨ s'.Acyclic v) : s'.IsAcyclic := by
  intro v
  refine (hs v).induction (P := s'.Acyclic) fun v _ ih => ?_
  rcases h v with hsame | hv
  · exact acyclic_of_contents (hsame ▸ ih)
  · exact hv

theorem isAcyclic_newArray (hs : s.IsAcyclic) {vs : List Value}
    (h : ∀ v ∈ vs, (s.newArray vs).2.Acyclic v) : (s.newArray vs).2.IsAcyclic := by
  refine isAcyclic_of_changed hs fun v => ?_
  cases v with
  | array a =>
    by_cases ha : a.index = s.arrays.size
    · refine .inr (acyclic_of_contents fun w hw => h w ?_)
      simpa [contents, items, newArray, ha] using hw
    · left
      simp [contents, items, newArray, Array.getElem?_push, ha]
  | _ => exact .inl rfl

/-- An array that shows a span contains numbers only. -/
theorem IsSpan.acyclic {span : Option (Nat × Nat)} (h : s.IsSpan n v span) : s.Acyclic v := by
  match span, h with
  | none, h =>
    obtain rfl : v = .null := h
    exact acyclic_of_contents_eq_nil rfl
  | some (a, b), ⟨ref, hv, _, _, hitems⟩ =>
    subst hv
    refine acyclic_of_contents fun w hw => acyclic_of_contents_eq_nil ?_
    have hw : w ∈ s.items ref := hw
    rw [hitems, List.mem_pair] at hw
    rcases hw with rfl | rfl <;> rfl

theorem acyclic_of_shown {vs : List Value} {spans : Spans}
    (h : List.Forall₂ (s.IsSpan n) vs spans) (hv : v ∈ vs) : s.Acyclic v := by
  induction h with
  | nil => cases hv
  | cons hspan _ ih =>
    rcases List.mem_cons.1 hv with rfl | hv
    · exact hspan.acyclic
    · exact ih hv

theorem isAcyclic_exportSpan (hs : s.IsAcyclic) (span : Option (Nat × Nat)) :
    (s.exportSpan span).2.IsAcyclic := by
  match span with
  | none => exact hs
  | some (a, b) =>
    refine isAcyclic_newArray hs fun v hv => acyclic_of_contents_eq_nil ?_
    rw [List.mem_pair] at hv
    rcases hv with rfl | rfl <;> rfl

theorem isAcyclic_exportSpans (hs : s.IsAcyclic) (spans : Spans) :
    (s.exportSpans spans).2.IsAcyclic := by
  induction spans generalizing s with
  | nil => exact hs
  | cons span rest ih => exact ih (isAcyclic_exportSpan hs span)

theorem isAcyclic_exportCaptures (hs : s.IsAcyclic) (spans : Spans) (limit : Nat) :
    (s.exportCaptures spans limit).2.IsAcyclic := by
  obtain ⟨-, hshown⟩ := exportSpans_spec (Nat.le_refl s.arrays.size) (spans.take limit)
  refine isAcyclic_newArray (isAcyclic_exportSpans hs _) fun v hv => ?_
  exact acyclic_of_shown (hshown.imp fun _ _ hspan => hspan.extends (.newArray _ _)) hv

theorem isAcyclic_fillCaptures (hs : s.IsAcyclic) {sink : ArrayRef}
    (hsink : sink.index < s.arrays.size) (spans : Spans) (limit : Nat) :
    (s.fillCaptures sink spans limit).IsAcyclic := by
  have hshown := (filled_fillCaptures hsink (Nat.le_refl _) spans limit).shown
  refine isAcyclic_of_changed (isAcyclic_exportSpans hs (spans.take limit)) fun v => ?_
  cases v with
  | array a =>
    by_cases ha : a = sink
    · subst ha
      exact .inr (acyclic_of_contents fun w hw => acyclic_of_shown hshown hw)
    · exact .inl (items_setItems_ne _ ha _)
  | _ => exact .inl rfl

theorem size_le_exportCaptures (s : Store) (spans : Spans) (limit : Nat) :
    s.arrays.size ≤ (s.exportCaptures spans limit).2.arrays.size := by
  obtain ⟨hextends, -⟩ := exportSpans_spec (Nat.le_refl s.arrays.size) (spans.take limit)
  exact (hextends.trans (.newArray _ _)).size_le

end Criteria.Store
