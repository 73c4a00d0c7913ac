import Criteria.Proofs.Render.Supply
import Criteria.Proofs.Text.Digits

/-!
# Generated names are different

A generated name is a letter with the number of its round behind it, which the first round has not. The
letter and the number tell which name it is. A list keeps every name once, so it has as many generated
names as were asked for only because no two of them are the same.

* `IsLetterName` — the form of a generated name.

Principal results:

* `exists_letterName_iff` — the generated names are the texts of this form.
* `size_ofNames_eq_iff` — a list keeps as many names as it is given exactly if they are all different.
* `generated_names_differ` — generated names and the lists that they make.
-/

set_option autoImplicit false

namespace Criteria.ParamNames

/-! ## Rounds -/

/-- The number of a round as it stands in a name: the first round has none. -/
def roundDigits (round : Nat) : List Char := if round = 0 then [] else Nat.toDigits 10 round

theorem isDigit_roundDigits (round : Nat) : ∀ d ∈ roundDigits round, d.isDigit := by
  intro d hd
  unfold roundDigits at hd
  split at hd
  · cases hd
  · exact Nat.isDigit_of_mem_toDigits (by decide) (by decide) hd

/-- A positive number is written without leading zeros. -/
theorem head?_toDigits {n : Nat} (hn : 0 < n) : (Nat.toDigits 10 n).head? ≠ some '0' := by
  intro hhead
  obtain ⟨rest, hdigits⟩ := List.head?_eq_some_iff.1 hhead
  have hall : ∀ d ∈ rest, d.isDigit := fun d hd =>
    Nat.isDigit_of_mem_toDigits (by decide) (by decide) (hdigits ▸ List.mem_cons_of_mem _ hd)
  have hvalue : Nat.ofDigitChars 10 rest 0 = n := by
    rw [← Nat.ofDigitChars_ten_toDigits (n := n), hdigits, Nat.ofDigitChars_cons]
    rfl
  cases rest with
  | nil =>
    rw [Nat.ofDigitChars_nil] at hvalue
    omega
  | cons d rest =>
    -- the digits behind the zero are those of the number already
    obtain ⟨zeros, hzeros⟩ := Text.exists_zeros_toDigits (List.cons_ne_nil d rest) hall
    have hlength := congrArg List.length hzeros
    rw [hvalue, hdigits, List.length_append, List.length_replicate] at hlength
    simp only [List.length_cons] at hlength
    omega

theorem head?_roundDigits (round : Nat) : (roundDigits round).head? ≠ some '0' := by
  unfold roundDigits
  split
  · simp
  · exact head?_toDigits (by omega)

/-- Digits without leading zeros are those of a round. -/
theorem exists_roundDigits {digits : List Char} (hall : ∀ d ∈ digits, d.isDigit)
    (hhead : digits.head? ≠ some '0') : ∃ round, roundDigits round = digits := by
  cases digits with
  | nil => exact ⟨0, rfl⟩
  | cons d rest =>
    obtain ⟨zeros, hzeros⟩ := Text.exists_zeros_toDigits (List.cons_ne_nil d rest) hall
    generalize Nat.ofDigitChars 10 (d :: rest) 0 = n at hzeros
    cases zeros with
    | zero =>
      rw [List.replicate_zero, List.nil_append] at hzeros
      have hn : n ≠ 0 := by
        rintro rfl
        exact hhead (hzeros ▸ rfl)
      exact ⟨n, by rw [roundDigits, if_neg hn, hzeros]⟩
    | succ zeros => exact absurd (hzeros ▸ rfl) hhead

/-! ## The form of a name -/

/-- A lower-case letter, alone or with a positive decimal number behind it, which has no leading
zeros. -/
def IsLetterName (name : String) : Prop :=
  ∃ letter digits, name.toList = letter :: digits ∧ ('a' ≤ letter ∧ letter ≤ 'z') ∧
    (∀ d ∈ digits, d.isDigit) ∧ digits.head? ≠ some '0'

theorem toList_letterName_eq (i : Nat) : (letterName i).toList =
    Char.ofNat ('a'.toNat + i % 26) :: roundDigits (i / 26) := by
  rw [toList_letterName, roundDigits]
  have hround : i < 26 ↔ i / 26 = 0 := by omega
  simp only [hround]

theorem isLetterName_letterName (i : Nat) : IsLetterName (letterName i) := by
  refine ⟨_, _, toList_letterName_eq i, ?_, isDigit_roundDigits _, head?_roundDigits _⟩
  have hletter := toNat_letter i
  have hmod : i % 26 < 26 := Nat.mod_lt i (by decide)
  refine ⟨?_, ?_⟩ <;> rw [Char.le_def, UInt32.le_iff_toNat_le]
  · show 97 ≤ (Char.ofNat ('a'.toNat + i % 26)).toNat
    omega
  · show (Char.ofNat ('a'.toNat + i % 26)).toNat ≤ 122
    omega

/-- The generated names are the texts of this form. -/
theorem exists_letterName_iff (name : String) : (∃ i, letterName i = name) ↔ IsLetterName name := by
  constructor
  · rintro ⟨i, rfl⟩
    exact isLetterName_letterName i
  · rintro ⟨letter, digits, hname, ⟨hlow, hhigh⟩, hall, hhead⟩
    have hlow : 97 ≤ letter.toNat := hlow
    have hhigh : letter.toNat ≤ 122 := hhigh
    obtain ⟨round, rfl⟩ := exists_roundDigits hall hhead
    have hmod : (26 * round + (letter.toNat - 97)) % 26 = letter.toNat - 97 := by omega
    have hdiv : (26 * round + (letter.toNat - 97)) / 26 = round := by omega
    have hletter : 'a'.toNat + (letter.toNat - 97) = letter.toNat := by
      show 97 + (letter.toNat - 97) = letter.toNat
      omega
    refine ⟨26 * round + (letter.toNat - 97), ?_⟩
    rw [← String.toList_inj, toList_letterName_eq, hmod, hdiv, hletter, Char.ofNat_toNat, hname]

/-! ## Lists of names -/

/-- Generated names are inserted like given ones. -/
theorem insertLetters_eq_foldl (ns : ParamNames) (count index : Nat) :
    ns.insertLetters count index = ((List.range' index count).map letterName).foldl insert ns := by
  induction count generalizing ns index with
  | zero => rfl
  | succ count ih => rw [insertLetters, ih, List.range'_succ, List.map_cons, List.foldl_cons]

theorem seeded_eq_ofNames {count : Nat} (h : count ≤ nameCapacity) :
    seeded count = .ok (ofNames (letterNames count)) := by
  rw [seeded, if_neg (Nat.not_lt.2 h), insertLetters_eq_foldl, letterNames, List.range_eq_range',
    ofNames]

/-- A list keeps as many names as it is given exactly if they are all different. -/
theorem size_ofNames_eq_iff (names : List String) :
    (ofNames names).names.size = names.length ↔ names.Nodup := by
  obtain ⟨hwellFormed, hkept⟩ := names_ofNames names
  have hcard : (ofNames names).names.size = names.toFinset.card := by
    have hsame : names.toFinset = (ofNames names).names.toList.toFinset := by
      ext name
      simp [hkept]
    rw [hsame, List.toFinset_card_of_nodup hwellFormed.nodup, Array.length_toList]
  rw [hcard]
  exact Multiset.toFinset_card_eq_card_iff_nodup

/-- **Generated names are different.**

* Names with different numbers are different. They are the texts that consist of a lower-case letter,
  alone or with a positive decimal number without leading zeros.
* A list drops the names that it has already, so it keeps as many as it is given exactly if they are all
  different.
* Generated names are inserted in this way. None is dropped: wherever there is room for so many names,
  the list has as many, which are the first generated ones in order; where there is not, there is no
  list. -/
theorem generated_names_differ :
    ((∀ i j, letterName i = letterName j ↔ i = j) ∧
      ∀ name, (∃ i, letterName i = name) ↔ IsLetterName name) ∧
    (∀ names : List String, (ofNames names).names.size = names.length ↔ names.Nodup) ∧
    ∀ count,
      (count ≤ nameCapacity ∧ seeded count = .ok (ofNames (letterNames count)) ∧
        (ofNames (letterNames count)).names.size = count ∧
        (ofNames (letterNames count)).names.toList = (List.range count).map letterName) ∨
      (nameCapacity < count ∧ seeded count = .error (.allocation count)) := by
  refine ⟨⟨fun i j => letterName_injective.eq_iff, exists_letterName_iff⟩, size_ofNames_eq_iff,
    fun count => ?_⟩
  rcases seeded_names count with ⟨hfull, hrefused⟩ | ⟨hroom, ns, hok, hseeded⟩
  · exact .inr ⟨hfull, hrefused⟩
  · have hmade := seeded_eq_ofNames hroom
    have hsize := (size_ofNames_eq_iff _).2 (nodup_letterNames count)
    rw [length_letterNames] at hsize
    rw [hmade] at hok
    cases hok
    exact .inl ⟨hroom, hmade, hsize, hseeded.names⟩

/-- The names at the end of the first round and at the beginning of the next ones. -/
example : [25, 26, 51, 52, 259, 260].map letterName = ["z", "a1", "z1", "a2", "z9", "a10"] := by
  decide

end Criteria.ParamNames
