import Criteria.Proofs.Store.Captures

/-!
# Captures written over the elements of an array

An array that takes captures is changed in place: it is cut or padded to their number, and then its
elements are overwritten from the first to the last. Each span gets its array of offsets when its turn
comes.

* `Store.overwrite` — what becomes of the store.
* `exportSpans_setItems` — spans are exported alike whatever an older array holds.

`overwrite_eq_fillCaptures` — whatever the array held, and however long it was, its contents are
replaced by the spans.
-/

set_option autoImplicit false

namespace Criteria.Store

variable {s : Store} {a : ArrayRef}

/-- Writes spans over the elements of an array, one after the other, from the `i`-th on. -/
def writeSpans (sink : ArrayRef) : Store → Nat → Spans → Store
  | s, _, [] => s
  | s, i, span :: rest =>
    let (v, s) := s.exportSpan span
    writeSpans sink (s.setItem sink i v) (i + 1) rest

/-- Cuts or pads an array to the number of spans, at most `limit`, and writes them over its
elements. -/
def overwrite (s : Store) (sink : ArrayRef) (spans : Spans) (limit : Nat) : Store :=
  writeSpans sink (s.setLength sink (min spans.length limit)) 0 (spans.take limit)

/-! ## Changes of one array -/

theorem size_setItems (s : Store) (a : ArrayRef) (vs : List Value) :
    (s.setItems a vs).arrays.size = s.arrays.size :=
  Array.size_setIfInBounds

/-- Of two contents the later one stays. -/
theorem setItems_setItems (s : Store) (a : ArrayRef) (vs ws : List Value) :
    (s.setItems a vs).setItems a ws = s.setItems a ws := by
  simp only [setItems, Array.setIfInBounds_setIfInBounds]

/-- The contents that an array has change nothing. -/
theorem setItems_items (s : Store) (a : ArrayRef) : s.setItems a (s.items a) = s := by
  have harrays : s.arrays.setIfInBounds a.index (s.items a) = s.arrays := by
    refine Array.ext_getElem? fun j => ?_
    rw [Array.getElem?_setIfInBounds]
    split
    · subst j
      split
      · rename_i hin
        rw [items, Array.getElem?_eq_getElem hin, Option.getD_some]
      · rename_i hout
        rw [Array.getElem?_eq_none (Nat.le_of_not_lt hout)]
    · rfl
  rw [setItems, harrays]

/-- A new array and new contents of an old one do not meet. -/
theorem newArray_setItems (ha : a.index < s.arrays.size) (vs items : List Value) :
    (s.setItems a vs).newArray items =
      ((s.newArray items).1, (s.newArray items).2.setItems a vs) := by
  have harrays : (s.arrays.setIfInBounds a.index vs).push items =
      (s.arrays.push items).setIfInBounds a.index vs := by
    refine Array.ext_getElem? fun j => ?_
    simp only [Array.getElem?_push, Array.getElem?_setIfInBounds, Array.size_setIfInBounds,
      Array.size_push]
    grind
  simp only [newArray, setItems, Array.size_setIfInBounds, harrays]

theorem exportSpan_setItems (ha : a.index < s.arrays.size) (vs : List Value)
    (span : Option (Nat × Nat)) :
    (s.setItems a vs).exportSpan span =
      ((s.exportSpan span).1, (s.exportSpan span).2.setItems a vs) := by
  match span with
  | none => rfl
  | some (start, stop) => simp only [exportSpan, newArray_setItems ha]

/-- Spans are exported alike whatever an older array holds. -/
theorem exportSpans_setItems (ha : a.index < s.arrays.size) (vs : List Value) (spans : Spans) :
    (s.setItems a vs).exportSpans spans =
      ((s.exportSpans spans).1, (s.exportSpans spans).2.setItems a vs) := by
  induction spans generalizing s with
  | nil => rfl
  | cons span rest ih =>
    have hsize := (exportSpan_spec (Nat.le_refl s.arrays.size) span).1.size_le
    simp only [exportSpans, exportSpan_setItems ha, ih (Nat.lt_of_lt_of_le ha hsize)]

/-- An element that is there is overwritten, and nothing else changes. -/
theorem setItem_append {done : List Value} {old : Value} {rest : List Value}
    (hitems : s.items a = done ++ old :: rest) (v : Value) :
    s.setItem a done.length v = s.setItems a (done ++ v :: rest) := by
  have hlength : max (done ++ old :: rest).length (done.length + 1) =
      (done ++ old :: rest).length := by
    simp only [List.length_append, List.length_cons]
    omega
  have hsame : resized (done ++ old :: rest).length (done ++ old :: rest) =
      done ++ old :: rest := by
    rw [resized, List.take_length, Nat.sub_self, List.replicate_zero, List.append_nil]
  simp only [setItem, hitems, hlength, hsame, List.set_append_right _ _ (Nat.le_refl _),
    Nat.sub_self, List.set_cons_zero]

/-! ## All elements -/

/-- When the elements from the `i`-th on are as many as the spans, the spans take their places. -/
theorem writeSpans_eq {done stale : List Value} {spans : Spans} (ha : a.index < s.arrays.size)
    (hitems : s.items a = done ++ stale) (hlength : stale.length = spans.length) :
    writeSpans a s done.length spans =
      (s.exportSpans spans).2.setItems a (done ++ (s.exportSpans spans).1) := by
  induction spans generalizing s done stale with
  | nil =>
    obtain rfl := List.eq_nil_of_length_eq_zero hlength
    rw [writeSpans, exportSpans, ← hitems, setItems_items]
  | cons span rest ih =>
    match stale with
    | [] => cases hlength
    | old :: stale =>
      have hextends := (exportSpan_spec (Nat.le_refl s.arrays.size) span).1
      rw [writeSpans, exportSpans]
      generalize s.exportSpan span = exported at *
      obtain ⟨v, t⟩ := exported
      have hat : a.index < t.arrays.size := Nat.lt_of_lt_of_le ha hextends.size_le
      have hwritten : t.setItem a done.length v = t.setItems a (done ++ v :: stale) :=
        setItem_append ((hextends.items_eq ha).trans hitems) v
      have hnext : (t.setItems a (done ++ v :: stale)).items a = (done ++ [v]) ++ stale := by
        rw [t.items_setItems hat, List.append_assoc, List.singleton_append]
      have hrest := ih (by rw [size_setItems]; exact hat) hnext (Nat.succ.inj hlength)
      rw [List.length_append, List.length_singleton, exportSpans_setItems hat] at hrest
      simp only [hwritten, hrest, setItems_setItems, List.append_assoc, List.singleton_append]

/-- Whatever an array held, and however long it was: overwriting its elements in place replaces its
contents by the spans. -/
theorem overwrite_eq_fillCaptures {sink : ArrayRef} (hsink : sink.index < s.arrays.size)
    (spans : Spans) (limit : Nat) : s.overwrite sink spans limit = s.fillCaptures sink spans limit := by
  have hlength : (resized (min spans.length limit) (s.items sink)).length =
      (spans.take limit).length := by
    simp only [resized, List.length_append, List.length_take, List.length_replicate]
    omega
  have hitems : (s.setLength sink (min spans.length limit)).items sink =
      [] ++ resized (min spans.length limit) (s.items sink) := s.items_setItems hsink _
  have hwritten := writeSpans_eq (by rw [setLength, size_setItems]; exact hsink) hitems hlength
  rw [overwrite, ← List.length_nil (α := Value), hwritten, setLength, exportSpans_setItems hsink,
    setItems_setItems, List.nil_append]
  rfl

end Criteria.Store
