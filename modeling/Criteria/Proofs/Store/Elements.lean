import Criteria.Proofs.Store.Properties
import Criteria.Proofs.Text.Digits

/-!
# Keys of elements

The key of an element is read as a number, so it is not the text of its index only: a plus sign may
stand before the number, and zeros.

* `spelled` — the text of an index behind zeros and a plus sign.
* `elementIndex?_eq_some_iff` — the keys of an element are the spellings of its index.
* `elements_spelled` — the elements of an array or of a string, by their keys.
* `key_of_element_not_unique` — an element with more than one key.
-/

set_option autoImplicit false

namespace Criteria

open Text

namespace Store

variable {s : Store} {v w : Value} {elements : List Value} {key : String} {i zeros : Nat}
  {plus : Bool}

/-! ## Spellings -/

/-- The text of an index, behind zeros and a plus sign. -/
def spelled (plus : Bool) (zeros i : Nat) : String :=
  String.ofList ((if plus then ['+'] else []) ++ (List.replicate zeros '0' ++ Nat.toDigits 10 i))

theorem toString_eq_spelled (i : Nat) : toString i = spelled false 0 i := by
  apply String.toList_injective
  rw [Nat.toString_eq_repr, Nat.toList_repr, spelled, String.toList_ofList]
  rfl

/-- The text of an index is the spelling with nothing in front. -/
theorem spelled_eq_toString_iff : spelled plus zeros i = toString i ↔ plus = false ∧ zeros = 0 := by
  constructor
  · intro h
    have hlength := congrArg (fun t : String => t.toList.length) h
    cases plus with
    | true => simp [spelled] at hlength; omega
    | false => simpa [toString_eq_spelled, spelled] using hlength
  · rintro ⟨rfl, rfl⟩
    exact (toString_eq_spelled i).symm

/-- The keys of an element are the spellings of its index. -/
theorem elementIndex?_eq_some_iff :
    elementIndex? key = some i ↔ i < wordLimit ∧ ∃ plus zeros, key = spelled plus zeros i := by
  rw [elementIndex?, word?_eq_some_iff]
  refine and_congr_right fun _ => ?_
  constructor
  · intro h
    split at h
    · rename_i hhead
      obtain ⟨rest, hkey⟩ := List.head?_eq_some_iff.1 hhead
      obtain ⟨zeros, hzeros⟩ := decimal?_eq_some_iff.1 h
      refine ⟨true, zeros, String.toList_injective ?_⟩
      rw [spelled, String.toList_ofList, ← hzeros, hkey]
      rfl
    · obtain ⟨zeros, hzeros⟩ := decimal?_eq_some_iff.1 h
      refine ⟨false, zeros, String.toList_injective ?_⟩
      rw [spelled, String.toList_ofList, ← hzeros]
      rfl
  · rintro ⟨plus, zeros, rfl⟩
    have hdecimal : decimal? (List.replicate zeros '0' ++ Nat.toDigits 10 i) = some i :=
      decimal?_eq_some_iff.2 ⟨zeros, rfl⟩
    rw [spelled, String.toList_ofList]
    cases plus with
    | true => exact hdecimal
    | false =>
      have hhead : (List.replicate zeros '0' ++ Nat.toDigits 10 i).head? ≠ some '+' := by
        intro h
        have hdigit := isDigit_of_decimal? hdecimal _ (List.mem_of_mem_head? h)
        exact absurd hdigit (by decide)
      exact (if_neg hhead).trans hdecimal

theorem ofDigitChars_spelled (plus : Bool) (zeros i : Nat) :
    Nat.ofDigitChars 10 ((spelled plus zeros i).toList.filter Char.isDigit) 0 = i := by
  have hfilter : (Nat.toDigits 10 i).filter Char.isDigit = Nat.toDigits 10 i :=
    List.filter_eq_self.2 fun c hc => Nat.isDigit_of_mem_toDigits (by decide) (by decide) hc
  cases plus <;> simp [spelled, hfilter, Nat.ofDigitChars_append]

/-- A key is a spelling of one index at most. -/
theorem spelled_unique {i j : Nat} {plus plus' : Bool} {zeros zeros' : Nat}
    (h : spelled plus zeros i = spelled plus' zeros' j) : i = j := by
  rw [← ofDigitChars_spelled plus zeros i, h, ofDigitChars_spelled]

/-! ## Elements -/

/-- The elements of an array, and the characters of a string. -/
def elements? (s : Store) : Value → Option (List Value)
  | .array a => some (s.items a)
  | .str text => some (characters text)
  | _ => none

theorem property?_of_elements? (h : s.elements? v = some elements) (hkey : key ≠ "length") :
    s.property? key v = elementAt? elements key := by
  cases v with
  | array a =>
    cases h
    rw [property?, sequenceProperty, if_neg hkey]
  | str text =>
    cases h
    rw [property?, sequenceProperty, if_neg hkey]
  | _ => cases h

theorem getProperty_of_elements? (h : s.elements? v = some elements) (hkey : key ≠ "length") :
    s.getProperty v key = .ok ((elementAt? elements key).getD .undefined) := by
  rw [← property?_of_elements? h hkey]
  cases v with
  | undefined | null => cases h
  | _ => rfl

/-- **Keys of elements.** Of an array or a string, a key other than `length` finds an element exactly
when it is the decimal text of an index within bounds, zeros and a plus sign in front of it allowed;
it is then read as the element with that index, and as `undefined` else. No key is a spelling of two
indices, and among the spellings of an index its text is the one with nothing in front. -/
theorem elements_spelled (s : Store) {v : Value} {elements : List Value}
    (h : s.elements? v = some elements) {key : String} (hkey : key ≠ "length") :
    (s.hasProperty v key = true ↔
      ∃ plus zeros i, i < elements.length ∧ i < wordLimit ∧ key = spelled plus zeros i) ∧
    (∀ plus zeros i w, key = spelled plus zeros i → i < wordLimit → elements[i]? = some w →
      s.getProperty v key = .ok w) ∧
    (s.hasProperty v key = false → s.getProperty v key = .ok .undefined) ∧
    (∀ plus zeros i, key = spelled plus zeros i →
      (∀ plus' zeros' j, key = spelled plus' zeros' j → i = j) ∧
      (key = toString i ↔ plus = false ∧ zeros = 0)) := by
  refine ⟨?_, ?_, ?_, ?_⟩
  · rw [hasProperty_eq_isSome, property?_of_elements? h hkey, ← hasElement_eq_isSome, hasElement]
    constructor
    · intro hhas
      split at hhas
      · rename_i i hindex
        obtain ⟨hlimit, plus, zeros, hspelled⟩ := elementIndex?_eq_some_iff.1 hindex
        exact ⟨plus, zeros, i, by simpa using hhas, hlimit, hspelled⟩
      · cases hhas
    · rintro ⟨plus, zeros, i, hlength, hlimit, hspelled⟩
      rw [elementIndex?_eq_some_iff.2 ⟨hlimit, plus, zeros, hspelled⟩]
      simpa using hlength
  · intro plus zeros i w hspelled hlimit hitem
    have hindex := elementIndex?_eq_some_iff.2 ⟨hlimit, plus, zeros, hspelled⟩
    rw [getProperty_of_elements? h hkey, elementAt?_eq_some_iff.2 ⟨i, hindex, hitem⟩, Option.getD_some]
  · intro hhas
    rw [hasProperty_eq_isSome, property?_of_elements? h hkey, Option.isSome_eq_false_iff,
      Option.isNone_iff_eq_none] at hhas
    rw [getProperty_of_elements? h hkey, hhas, Option.getD_none]
  · rintro plus zeros i rfl
    exact ⟨fun _ _ _ hspelled => spelled_unique hspelled, spelled_eq_toString_iff⟩

/-- The second character of a text, by the text of its index. -/
theorem elements_spelled_character :
    (∃ elements, ({} : Store).elements? (.str "ab") = some elements) ∧ "1" ≠ "length" ∧
      ({} : Store).getProperty (.str "ab") "1" = .ok (.str "b") := by
  refine ⟨⟨_, rfl⟩, by decide, ?_⟩
  exact (elements_spelled {} rfl (by decide)).2.1 false 0 1 _ rfl (by decide) rfl

/-- The second element of an array has keys that are not the text of an index. -/
theorem key_of_element_not_unique :
    ¬ ∀ (s : Store) (v : Value) (elements : List Value) (key : String),
      s.elements? v = some elements → key ≠ "length" →
      (s.hasProperty v key = true ↔ ∃ i < elements.length, key = toString i) := by
  intro h
  obtain ⟨i, hi, hkey⟩ := (h { arrays := #[[.int 10, .int 20]] } (.array ⟨0⟩) _ "01" rfl (by decide)).1
    (by decide)
  have hcases : i = 0 ∨ i = 1 := Nat.le_one_iff_eq_zero_or_eq_one.1 (Nat.le_of_lt_succ hi)
  rcases hcases with rfl | rfl <;> exact absurd hkey (by decide)

end Store

end Criteria
