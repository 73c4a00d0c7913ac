import Criteria.Eval.Captures
import Mathlib.Data.List.Forall2

/-!
# What an export of captures does to the store

The spans of a match are exported as new arrays, and an array that takes them gets new contents.
Nothing else in the store changes.

* `Store.Extends` — the one store is the other one with further arrays.
* `Store.IsSpan` — a value shows a span of a match, in an array of its own.
* `exportSpans_spec`, `Store.Filled` — what exporting and filling do.
-/

set_option autoImplicit false

namespace Criteria

namespace Store

variable {s s' s'' : Store} {n : Nat}

/-- The store `s'` is `s` with further arrays. -/
structure Extends (s s' : Store) : Prop where
  arrays : ∃ more, s'.arrays = s.arrays ++ more
  objects : s'.objects = s.objects
  symbols : s'.symbols = s.symbols

namespace Extends

theorem refl (s : Store) : s.Extends s := ⟨⟨#[], (Array.append_empty).symm⟩, rfl, rfl⟩

theorem trans (h : s.Extends s') (h' : s'.Extends s'') : s.Extends s'' := by
  obtain ⟨⟨more, hmore⟩, hobjects, hsymbols⟩ := h
  obtain ⟨⟨more', hmore'⟩, hobjects', hsymbols'⟩ := h'
  refine ⟨⟨more ++ more', ?_⟩, hobjects'.trans hobjects, hsymbols'.trans hsymbols⟩
  rw [hmore', hmore, Array.append_assoc]

theorem newArray (s : Store) (items : List Value) : s.Extends (s.newArray items).2 :=
  ⟨⟨#[items], Array.push_eq_append⟩, rfl, rfl⟩

theorem size_le (h : s.Extends s') : s.arrays.size ≤ s'.arrays.size := by
  obtain ⟨more, hmore⟩ := h.arrays
  rw [hmore, Array.size_append]
  exact Nat.le_add_right _ _

theorem items_eq (h : s.Extends s') {a : ArrayRef} (ha : a.index < s.arrays.size) :
    s'.items a = s.items a := by
  obtain ⟨more, hmore⟩ := h.arrays
  rw [items, items, hmore, Array.getElem?_append_left ha]

end Extends

/-- The value shows a span in the store: a group that took no part is `null`, the offsets of any
other stand in an array that is not among the first `n`. -/
def IsSpan (s : Store) (n : Nat) (v : Value) : Option (Nat × Nat) → Prop
  | none => v = .null
  | some (a, b) => ∃ ref : ArrayRef, v = .array ref ∧ n ≤ ref.index ∧
      ref.index < s.arrays.size ∧ s.items ref = [.int (Int64.ofNat a), .int (Int64.ofNat b)]

/-- A span is still shown when the arrays that came after the first `n` are as they were. -/
theorem IsSpan.mono {v : Value} {span : Option (Nat × Nat)} (h : s.IsSpan n v span)
    (hsize : s.arrays.size ≤ s'.arrays.size)
    (hkept : ∀ a : ArrayRef, n ≤ a.index → a.index < s.arrays.size → s'.items a = s.items a) :
    s'.IsSpan n v span := by
  match span, h with
  | none, h => exact h
  | some (a, b), ⟨ref, hv, hold, hin, hitems⟩ =>
    exact ⟨ref, hv, hold, Nat.lt_of_lt_of_le hin hsize, (hkept ref hold hin).trans hitems⟩

theorem IsSpan.extends {v : Value} {span : Option (Nat × Nat)} (h : s.IsSpan n v span)
    (hs : s.Extends s') : s'.IsSpan n v span :=
  h.mono hs.size_le fun _ _ ha => hs.items_eq ha

/-- A span is exported as a new array. -/
theorem exportSpan_spec (hn : n ≤ s.arrays.size) (span : Option (Nat × Nat)) :
    s.Extends (s.exportSpan span).2 ∧ (s.exportSpan span).2.IsSpan n (s.exportSpan span).1 span := by
  match span with
  | none => exact ⟨.refl s, rfl⟩
  | some (a, b) =>
    refine ⟨.newArray s _, ⟨s.arrays.size⟩, rfl, hn, ?_, ?_⟩
    · simp [exportSpan, Store.newArray]
    · simp [exportSpan, Store.newArray, items]

/-- Spans are exported as new arrays. -/
theorem exportSpans_spec (hn : n ≤ s.arrays.size) (spans : Spans) :
    s.Extends (s.exportSpans spans).2 ∧
      List.Forall₂ ((s.exportSpans spans).2.IsSpan n) (s.exportSpans spans).1 spans := by
  induction spans generalizing s with
  | nil => exact ⟨.refl s, .nil⟩
  | cons span rest ih =>
    obtain ⟨hfirst, hspan⟩ := exportSpan_spec hn span
    obtain ⟨hrest, hspans⟩ := ih (Nat.le_trans hn hfirst.size_le)
    exact ⟨hfirst.trans hrest, .cons (hspan.extends hrest) hspans⟩

/-- The store `s'` is `s` with other contents of an array, which show spans, and with further
arrays. -/
structure Filled (s s' : Store) (n : Nat) (sink : ArrayRef) (spans : Spans) : Prop where
  objects : s'.objects = s.objects
  symbols : s'.symbols = s.symbols
  size_le : s.arrays.size ≤ s'.arrays.size
  kept : ∀ a : ArrayRef, a ≠ sink → a.index < s.arrays.size → s'.items a = s.items a
  shown : List.Forall₂ (s'.IsSpan n) (s'.items sink) spans

theorem items_setItems_ne (s : Store) {a b : ArrayRef} (h : a ≠ b) (vs : List Value) :
    (s.setItems b vs).items a = s.items a := by
  have hindex : b.index ≠ a.index := fun hi => h (by cases a; cases b; cases hi; rfl)
  rw [setItems, items, items, Array.getElem?_setIfInBounds_ne hindex]

theorem items_setItems (s : Store) {a : ArrayRef} (ha : a.index < s.arrays.size)
    (vs : List Value) : (s.setItems a vs).items a = vs := by
  rw [setItems, items, Array.getElem?_setIfInBounds_self_of_lt ha, Option.getD_some]

/-- An array among the first `n` is filled. -/
theorem filled_fillCaptures {sink : ArrayRef} (hsink : sink.index < n) (hn : n ≤ s.arrays.size)
    (spans : Spans) (limit : Nat) :
    s.Filled (s.fillCaptures sink spans limit) n sink (spans.take limit) := by
  obtain ⟨hextends, hshown⟩ := exportSpans_spec hn (spans.take limit)
  have hsize := hextends.size_le
  unfold fillCaptures
  generalize s.exportSpans (spans.take limit) = exported at *
  obtain ⟨vs, t⟩ := exported
  have hsizes : (t.setItems sink vs).arrays.size = t.arrays.size := Array.size_setIfInBounds
  have hitems : (t.setItems sink vs).items sink = vs :=
    t.items_setItems (Nat.lt_of_lt_of_le hsink (Nat.le_trans hn hsize)) vs
  refine ⟨hextends.objects, hextends.symbols, hsizes ▸ hsize, fun a ha hin => ?_, ?_⟩
  · exact (t.items_setItems_ne ha vs).trans (hextends.items_eq hin)
  · show List.Forall₂ ((t.setItems sink vs).IsSpan n) ((t.setItems sink vs).items sink) _
    rw [hitems]
    -- the arrays of the offsets come after the first `n`, so that none of them is the sink
    refine hshown.imp fun v span h => h.mono (Nat.le_of_eq hsizes.symm) fun a hold _ => ?_
    exact t.items_setItems_ne (fun he => by rw [he] at hold; omega) vs

end Store

end Criteria
