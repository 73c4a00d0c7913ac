import Criteria.Proofs.Number.RoundTrip
import Criteria.Proofs.Store.Unfolding

/-!
# Arrays as numbers

The host language converts an array to the number of its text. The conversion does not write the text: it
converts the element of an array of one, and so on down to the innermost one. The two ways agree as long
as this one is converted like its text among the elements of an array.

* `Datum.innermost` — where the conversion ends.
* `Datum.Astray` — data that are not converted like their text in an array.
* `Datum.number_eq_iff` — an element, by recursion on the arrays around the innermost one.
* `number_of_array` — when an array is converted to the number of its text.
* `array_of_truth_value` — an array that is not.
-/

set_option autoImplicit false

namespace Criteria

open Number Text

namespace Datum

/-- What is left of an array of one element, taken out again and again. -/
def innermost : Datum → Datum
  | array _ [d] => d.innermost
  | d => d

/-- The text of an element of an array. -/
def elementText : Datum → String
  | undefined => ""
  | null => ""
  | d => d.text

theorem elementTexts_eq_map (items : List Datum) : elementTexts items = items.map elementText := by
  induction items with
  | nil => rfl
  | cons d rest ih =>
    rw [List.map_cons, ← ih]
    cases d <;> rfl

theorem text_array (ref : ArrayRef) (items : List Datum) :
    (array ref items).text = String.intercalate "," (items.map elementText) := by
  rw [text, elementTexts_eq_map]

/-- Data whose number is not that of their text in an array: `undefined` has no text there, a truth value
is written as a word, zero without its sign, and a function by its source text. -/
inductive Astray : Datum → Prop where
  | undefined : Astray undefined
  | bool (b : Bool) : Astray (bool b)
  | negativeZero : Astray (float (ofDyadic true 0 0))
  | function {f : Function} {source : String} (h : f.source = some source)
    (hnumber : (parse source.toList).isNaN = false) : Astray (function f)

/-! ## Texts that are no numbers -/

theorem not_isNumeralChar_comma : ¬ IsNumeralChar ',' := by
  unfold IsNumeralChar
  decide

theorem not_isNumeralChar_paren : ¬ IsNumeralChar '(' := by
  unfold IsNumeralChar
  decide

theorem not_isNumeralChar_bracket : ¬ IsNumeralChar '[' := by
  unfold IsNumeralChar
  decide

/-- Two elements have a comma between them. -/
theorem parse_text_of_two (ref : ArrayRef) (x y : Datum) (rest : List Datum) :
    parse (array ref (x :: y :: rest)).text.toList = nan := by
  have hcomma : ',' ∈ (array ref (x :: y :: rest)).text.toList := by
    rw [text_array, List.map_cons, List.map_cons, String.intercalate_cons_cons, String.toList_append,
      String.toList_append]
    exact List.mem_append_left _ (List.mem_append_right _ List.mem_cons_self)
  exact parse_eq_nan_of_mem hcomma rfl not_isNumeralChar_comma

theorem parse_nativeText (name : String) : parse (nativeText name).toList = nan := by
  have hparen : '(' ∈ (nativeText name).toList := by
    rw [nativeText, String.toList_append]
    exact List.mem_append_right _ List.mem_cons_self
  exact parse_eq_nan_of_mem hparen rfl not_isNumeralChar_paren

theorem parse_symbolText (description : String) :
    parse ("Symbol(" ++ description ++ ")").toList = nan := by
  have hparen : '(' ∈ ("Symbol(" ++ description ++ ")").toList := by
    rw [String.toList_append, String.toList_append]
    exact List.mem_append_left _ (List.mem_append_left _ (by decide))
  exact parse_eq_nan_of_mem hparen rfl not_isNumeralChar_paren

theorem parse_bytesText : parse "[object ArrayBuffer]".toList = nan :=
  parse_eq_nan_of_mem (c := '[') (by decide) rfl not_isNumeralChar_bracket

theorem parse_objectText : parse "[object Object]".toList = nan :=
  parse_eq_nan_of_mem (c := '[') (by decide) rfl not_isNumeralChar_bracket

/-! ## Elements -/

theorem number_eq_iff_float (x : Float) :
    (float x).number = parse (float x).elementText.toList ↔ ¬ (float x).Astray := by
  show x = parse (Number.format x).toList ↔ _
  by_cases hx : x = ofDyadic true 0 0
  · subst hx
    refine iff_of_false (fun h => ?_) (not_not.2 .negativeZero)
    exact absurd (congrArg Float.toBits h) (by decide)
  · refine iff_of_true (parse_format hx).symm fun h => ?_
    cases h
    exact hx rfl

theorem number_eq_iff_function (f : Function) :
    (function f).number = parse (function f).elementText.toList ↔ ¬ (function f).Astray := by
  show nan = parse (f.source.getD (nativeText f.name)).toList ↔ _
  have hastray : (function f).Astray ↔
      ∃ source, f.source = some source ∧ (parse source.toList).isNaN = false := by
    constructor
    · rintro (_ | _ | _ | ⟨hsource, hnumber⟩)
      exact ⟨_, hsource, hnumber⟩
    · rintro ⟨source, hsource, hnumber⟩
      exact .function hsource hnumber
  rw [hastray]
  cases hsource : f.source with
  | none => exact iff_of_true (parse_nativeText f.name).symm (by simp)
  | some source =>
    rw [Option.getD_some]
    simp only [Option.some.injEq, exists_eq_left', Bool.not_eq_false]
    refine ⟨fun h => ?_, fun h => (eq_nan_of_isNaN h).symm⟩
    rw [← h]
    rfl

/-- What is no array of one element. -/
theorem number_eq_iff_of_not_singleton {d : Datum} (h : ∀ ref x, d ≠ array ref [x]) :
    d.number = parse d.elementText.toList ↔ ¬ d.Astray := by
  cases d with
  | undefined =>
    refine iff_of_false (fun h => ?_) (not_not.2 .undefined)
    exact absurd (congrArg Float.toBits h) (by decide)
  | null => exact iff_of_true rfl fun h => nomatch h
  | bool b =>
    refine iff_of_false (fun h => ?_) (not_not.2 (.bool b))
    cases b <;> exact absurd (congrArg Float.toBits h) (by decide)
  | int n => exact iff_of_true (parse_toString (natAbs_toInt_lt n)).symm fun h => nomatch h
  | float x => exact number_eq_iff_float x
  | str t => exact iff_of_true rfl fun h => nomatch h
  | symbol ref description => exact iff_of_true (parse_symbolText description).symm fun h => nomatch h
  | bytes data => exact iff_of_true parse_bytesText.symm fun h => nomatch h
  | array ref items =>
    refine iff_of_true ?_ fun h => nomatch h
    match items with
    | [] => rfl
    | [x] => exact absurd rfl (h ref x)
    | x :: y :: rest => exact (parse_text_of_two ref x y rest).symm
  | object ref entries => exact iff_of_true parse_objectText.symm fun h => nomatch h
  | function f => exact number_eq_iff_function f

/-- An element is converted like its text exactly when the innermost one is. -/
theorem number_eq_iff (d : Datum) : d.number = parse d.elementText.toList ↔ ¬ d.innermost.Astray := by
  induction d using innermost.induct with
  | case1 ref d ih =>
    have htext : (array ref [d]).elementText = d.elementText := by
      show (array ref [d]).text = _
      rw [text_array, List.map_cons, List.map_nil, String.intercalate_singleton]
    rw [htext, innermost, ← ih, number]
  | case2 d h =>
    have hself : d.innermost = d := by
      rw [innermost]
      exact h
    rw [hself]
    exact number_eq_iff_of_not_singleton h

end Datum

/-- **Arrays as numbers.** An array, of any length and with arrays in it, is converted to the number of its
text exactly when what is left after taking out single elements is not among those that convert in another
way than their text: `undefined`, a truth value, negative zero, or a function whose source text denotes a
number. -/
theorem number_of_array (s : Store) (a : ArrayRef) :
    s.number (.array a) = s.number (.str (s.text (.array a))) ↔
      ¬ (s.datum (.array a)).innermost.Astray := by
  have hdatum : ∃ items, s.datum (.array a) = .array a items := by
    rw [Store.datum]
    cases s.size with
    | zero => exact ⟨[], by rw [Store.unfold]⟩
    | succ depth => exact ⟨_, by rw [Store.unfold]⟩
  obtain ⟨items, hitems⟩ := hdatum
  rw [s.number_str, Store.number, Store.text, ← Datum.number_eq_iff, hitems]
  exact Iff.rfl

/-- The array of the truth value `true` is converted to one, and its text is no number. -/
theorem array_of_truth_value :
    let s : Store := { arrays := #[[.bool true]] }
    s.Acyclic (.array ⟨0⟩) ∧ s.number (.array ⟨0⟩) = ofDyadic false 1 0 ∧
      s.number (.str (s.text (.array ⟨0⟩))) = nan ∧
      s.number (.array ⟨0⟩) ≠ s.number (.str (s.text (.array ⟨0⟩))) := by
  intro s
  have hflat : ∀ v w, s.Contains v w → s.contents w = [] := by
    intro v w hw
    cases v with
    | array a =>
      obtain ⟨_ | i⟩ := a
      · cases List.mem_singleton.1 hw
        rfl
      · cases hw
    | object o => cases hw
    | _ => cases hw
  have hdatum : s.datum (.array ⟨0⟩) = .array ⟨0⟩ [.bool true] := rfl
  have hword : s.text (.array ⟨0⟩) = "true" := by
    rw [Store.text, hdatum, Datum.text_array, List.map_cons, List.map_nil, String.intercalate_singleton]
    rfl
  have hnumber : s.number (.array ⟨0⟩) = ofDyadic false 1 0 := rfl
  have htext : s.number (.str (s.text (.array ⟨0⟩))) = nan := by
    rw [s.number_str, hword]
    rfl
  refine ⟨Store.acyclic_of_flat hflat _, hnumber, htext, fun h => ?_⟩
  rw [hnumber, htext] at h
  exact absurd (congrArg Float.toBits h) (by decide)

end Criteria
