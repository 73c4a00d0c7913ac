import Criteria.Regex.Flags
import Mathlib.Data.List.Basic

/-!
# Reading and writing flags

Of a text of flag letters, reading keeps which letters it has. Writing gives these letters back, each
once and in a fixed order, whatever the order in the text was and however often a letter came.

* `Flag.ofLetter?_eq_some_iff` — letters and flags are the same.
* `addLetters_eq_ok_iff`, `addLetters_eq_error_iff` — what reading accepts, and the first letter at which
  it stops.
* `toList_letters` — how flags are written.
* `flags_letters` — reading, writing and reading again.
-/

set_option autoImplicit false

namespace Criteria.Regex

/-- The letters of the flags, in writing order. -/
def flagLetters : List Char := "gimsuy".toList

/-! ## Letters -/

namespace Flag

theorem mem_all (f : Flag) : f ∈ all := by cases f <;> decide

theorem map_letter_all : all.map letter = flagLetters := by decide

theorem letter_injective : Function.Injective letter := by
  intro f g h
  cases f <;> cases g <;> first | rfl | exact absurd h (by decide)

theorem letter_mem (f : Flag) : f.letter ∈ flagLetters :=
  map_letter_all ▸ List.mem_map_of_mem f.mem_all

/-- A letter stands for the flag that is written so. -/
theorem ofLetter?_eq_some_iff {c : Char} {f : Flag} : ofLetter? c = some f ↔ f.letter = c := by
  constructor
  · intro h
    rw [ofLetter?] at h
    simpa using List.find?_some h
  · rintro rfl
    cases f <;> rfl

theorem ofLetter?_eq_none_iff {c : Char} : ofLetter? c = none ↔ c ∉ flagLetters := by
  rw [ofLetter?, List.find?_eq_none, ← map_letter_all, List.mem_map]
  simp

end Flag

namespace Flags

variable {flags result : Flags} {cs : List Char}

theorem has_empty (f : Flag) : ({} : Flags).has f = false := by cases f <;> rfl

theorem has_insert (flags : Flags) (f g : Flag) :
    (flags.insert f).has g = (decide (f = g) || flags.has g) := by
  cases f <;> cases g <;> rfl

/-- Flags are told apart by what they have. -/
theorem ext_has (h : ∀ f, flags.has f = result.has f) : flags = result := by
  obtain ⟨g, i, m, s, u, y⟩ := flags
  obtain ⟨g', i', m', s', u', y'⟩ := result
  obtain rfl : g = g' := h .global
  obtain rfl : i = i' := h .ignoreCase
  obtain rfl : m = m' := h .multiline
  obtain rfl : s = s' := h .dotAll
  obtain rfl : u = u' := h .unicode
  obtain rfl : y = y' := h .sticky
  rfl

/-! ## Reading -/

/-- Flag letters are read into the flags that they stand for, besides those that were there. -/
theorem addLetters_eq_ok_iff : flags.addLetters cs = .ok result ↔
    (∀ c ∈ cs, c ∈ flagLetters) ∧
      ∀ f, result.has f = true ↔ flags.has f = true ∨ f.letter ∈ cs := by
  induction cs generalizing flags with
  | nil =>
    rw [addLetters, Except.ok.injEq]
    constructor
    · rintro rfl
      exact ⟨List.forall_mem_nil _, fun f => by simp⟩
    · rintro ⟨-, h⟩
      exact ext_has fun f => Bool.eq_iff_iff.2 ((h f).trans (by simp)).symm
  | cons c cs ih =>
    rw [addLetters, List.forall_mem_cons]
    cases hc : Flag.ofLetter? c with
    | none => simp [Flag.ofLetter?_eq_none_iff.1 hc]
    | some g =>
      obtain rfl := Flag.ofLetter?_eq_some_iff.1 hc
      have hhas : ∀ f, (flags.insert g).has f = true ∨ f.letter ∈ cs ↔
          flags.has f = true ∨ f.letter ∈ g.letter :: cs := by
        intro f
        rw [has_insert, Bool.or_eq_true, decide_eq_true_eq, List.mem_cons,
          Flag.letter_injective.eq_iff, eq_comm (a := g), or_assoc, or_left_comm]
      simp only [ih, hhas, g.letter_mem, true_and]

/-- Reading stops at the first letter that is no flag. -/
theorem addLetters_eq_error_iff {e : FlagError} : flags.addLetters cs = .error e ↔
    ∃ before after, cs = before ++ e.flag :: after ∧ (∀ c ∈ before, c ∈ flagLetters) ∧
      e.flag ∉ flagLetters := by
  induction cs generalizing flags with
  | nil => simp [addLetters]
  | cons c cs ih =>
    rw [addLetters]
    cases hc : Flag.ofLetter? c with
    | none =>
      have hnot := Flag.ofLetter?_eq_none_iff.1 hc
      constructor
      · intro h
        cases h
        exact ⟨[], cs, rfl, List.forall_mem_nil _, hnot⟩
      · rintro ⟨before, after, hcs, hbefore, -⟩
        cases before with
        | nil =>
          cases hcs
          rfl
        | cons b before =>
          cases hcs
          exact absurd (hbefore c List.mem_cons_self) hnot
    | some g =>
      have hmem : c ∈ flagLetters := Flag.ofLetter?_eq_some_iff.1 hc ▸ g.letter_mem
      rw [ih]
      constructor
      · rintro ⟨before, after, rfl, hbefore, hflag⟩
        exact ⟨c :: before, after, rfl, List.forall_mem_cons.2 ⟨hmem, hbefore⟩, hflag⟩
      · rintro ⟨before, after, hcs, hbefore, hflag⟩
        cases before with
        | nil =>
          cases hcs
          exact absurd hmem hflag
        | cons b before =>
          cases hcs
          exact ⟨before, after, rfl, (List.forall_mem_cons.1 hbefore).2, hflag⟩

/-! ## Writing -/

/-- Flags are written letter by letter, in writing order. -/
theorem toList_letters (flags : Flags) (p : Char → Bool) (h : ∀ f, flags.has f = p f.letter) :
    flags.letters.toList = flagLetters.filter p := by
  rw [letters, String.toList_ofList, ← Flag.map_letter_all, List.filter_map]
  congr 1
  exact List.filter_congr fun f _ => h f

/-- Of a text of flag letters, reading keeps which letters it has. -/
theorem parse_eq_ok_iff {s : String} : parse s = .ok flags ↔
    (∀ c ∈ s.toList, c ∈ flagLetters) ∧ ∀ f, flags.has f = decide (f.letter ∈ s.toList) := by
  rw [parse, addLetters_eq_ok_iff]
  refine and_congr_right fun _ => forall_congr' fun f => ?_
  cases flags.has f <;> simp [has_empty]

/-- The letters of a text are those of its flags. -/
theorem mem_iff_of_parse {s : String} (h : parse s = .ok flags) {c : Char} :
    c ∈ s.toList ↔ ∃ f : Flag, f.letter = c ∧ flags.has f = true := by
  obtain ⟨hletters, hhas⟩ := parse_eq_ok_iff.1 h
  constructor
  · intro hc
    have hletter := hletters c hc
    rw [← Flag.map_letter_all, List.mem_map] at hletter
    obtain ⟨f, -, rfl⟩ := hletter
    exact ⟨f, rfl, by rw [hhas, decide_eq_true hc]⟩
  · rintro ⟨f, rfl, hf⟩
    rw [hhas] at hf
    exact of_decide_eq_true hf

/-- Texts of the same letters are read as the same flags, and no other texts are. -/
theorem parse_eq_ok_iff_of_parse {s t : String} (h : parse s = .ok flags) :
    parse t = .ok flags ↔ ∀ c, c ∈ t.toList ↔ c ∈ s.toList := by
  constructor
  · exact fun ht c => (mem_iff_of_parse ht).trans (mem_iff_of_parse h).symm
  · intro hsame
    rw [parse_eq_ok_iff] at h ⊢
    simpa only [hsame] using h

/-- The texts that are read are those of flag letters. -/
theorem exists_parse_iff {s : String} :
    (∃ flags, parse s = .ok flags) ↔ ∀ c ∈ s.toList, c ∈ flagLetters := by
  constructor
  · rintro ⟨flags, h⟩
    exact (parse_eq_ok_iff.1 h).1
  · intro hall
    cases h : parse s with
    | ok flags => exact ⟨flags, rfl⟩
    | error e =>
      obtain ⟨before, after, hs, -, hflag⟩ := addLetters_eq_error_iff.1 h
      have hmem : e.flag ∈ s.toList := hs ▸ List.mem_append_right before List.mem_cons_self
      exact absurd (hall e.flag hmem) hflag

/-- The flags of a text are written with its letters. -/
theorem toList_letters_of_parse {s : String} (h : parse s = .ok flags) :
    flags.letters.toList = flagLetters.filter fun c => c ∈ s.toList :=
  toList_letters flags _ (parse_eq_ok_iff.1 h).2

end Flags

/-- **Reading and writing flags.**

* A text is read exactly when each of its characters is a flag letter.
* It is refused with its first character that is none.
* The flags that are read are written with the letters of the text, in the order `gimsuy` and each of
  them once. This is read as the same flags, and a text is read as these flags exactly when it is made
  of the same letters. -/
theorem flags_letters (s : String) :
    ((∃ flags, Flags.parse s = .ok flags) ↔ ∀ c ∈ s.toList, c ∈ flagLetters) ∧
    (∀ e : FlagError, Flags.parse s = .error e ↔
      ∃ before after, s.toList = before ++ e.flag :: after ∧ (∀ c ∈ before, c ∈ flagLetters) ∧
        e.flag ∉ flagLetters) ∧
    ∀ flags : Flags, Flags.parse s = .ok flags →
      flags.letters.toList = flagLetters.filter (fun c => c ∈ s.toList) ∧
      Flags.parse flags.letters = .ok flags ∧
      ∀ t : String, Flags.parse t = .ok flags ↔ ∀ c, c ∈ t.toList ↔ c ∈ s.toList := by
  refine ⟨Flags.exists_parse_iff, fun e => Flags.addLetters_eq_error_iff, fun flags h => ?_⟩
  have hwritten := Flags.toList_letters_of_parse h
  refine ⟨hwritten, (Flags.parse_eq_ok_iff_of_parse h).2 fun c => ?_,
    fun t => Flags.parse_eq_ok_iff_of_parse h⟩
  rw [hwritten, List.mem_filter, decide_eq_true_eq]
  exact and_iff_right_of_imp ((Flags.parse_eq_ok_iff.1 h).1 c)

/-- Letters in another order, one of them twice. -/
theorem flags_letters_repeated :
    Flags.parse "ygiy" = .ok { global := true, ignoreCase := true, sticky := true } ∧
      Flags.parse "giy" = .ok { global := true, ignoreCase := true, sticky := true } := by
  have h : Flags.parse "ygiy" = .ok { global := true, ignoreCase := true, sticky := true } := by
    decide
  obtain ⟨-, hread, -⟩ := (flags_letters "ygiy").2.2 _ h
  exact ⟨h, hread⟩

end Criteria.Regex
