import Criteria.Text.Blank
import Mathlib.Data.List.TakeWhile

/-!
# Runs of characters, blanks and trimming

Digits and letters are no blanks. Trimming takes away blanks only, and only those at the ends.

* `span_append` — where a run of characters ends.
* `isBlank_of_toNat` — characters that are no blanks.
* `trim_of_forall_not_isBlank` — a text without blanks stays as it is.
* `mem_trim` — what is no blank stays.
-/

set_option autoImplicit false

namespace Criteria.Text

variable {c : Char} {cs : List Char}

/-- A run of characters of a class ends where the class does. -/
theorem span_append {f : Char → Bool} {cs k : List Char} (hcs : ∀ c ∈ cs, f c)
    (hk : ∀ c ∈ k.head?, f c = false) :
    (cs ++ k).takeWhile f = cs ∧ (cs ++ k).dropWhile f = k := by
  rw [List.takeWhile_append_of_pos hcs, List.dropWhile_append_of_pos hcs]
  cases k with
  | nil => simp
  | cons c k => simp [hk c rfl]

/-- The characters of words and numerals lie above every blank in the ASCII range. -/
theorem isBlank_of_toNat (h : 36 ≤ c.toNat ∧ c.toNat ≤ 122) : isBlank c = false := by
  simp only [isBlank, Bool.or_eq_false_iff, Bool.and_eq_false_iff, decide_eq_false_iff_not,
    beq_eq_false_iff_ne]
  omega

theorem isBlank_of_isDigit (h : c.isDigit) : isBlank c = false := by
  have hc : 48 ≤ c.toNat ∧ c.toNat ≤ 57 := Char.isDigit_iff_toNat.1 h
  exact isBlank_of_toNat (by omega)

theorem trimLeft_cons (h : isBlank c = false) (k : List Char) : trimLeft (c :: k) = c :: k := by
  simp [trimLeft, h]

theorem dropWhile_isBlank_eq_self (h : ∀ c ∈ cs, isBlank c = false) : cs.dropWhile isBlank = cs := by
  cases cs with
  | nil => rfl
  | cons c k => exact trimLeft_cons (h c List.mem_cons_self) k

/-- A text without blanks stays as it is. -/
theorem trim_of_forall_not_isBlank (h : ∀ c ∈ cs, isBlank c = false) : trim cs = cs := by
  have hreverse : ∀ c ∈ cs.reverse, isBlank c = false := fun c hc => h c (List.mem_reverse.1 hc)
  rw [trim, trimLeft, dropWhile_isBlank_eq_self h, trimRight, dropWhile_isBlank_eq_self hreverse,
    List.reverse_reverse]

theorem mem_dropWhile_isBlank (hc : c ∈ cs) (h : isBlank c = false) : c ∈ cs.dropWhile isBlank := by
  rw [← List.takeWhile_append_dropWhile (p := isBlank) (l := cs), List.mem_append] at hc
  refine hc.resolve_left fun htake => ?_
  rw [List.mem_takeWhile_imp htake] at h
  cases h

/-- What is no blank stays. -/
theorem mem_trim (hc : c ∈ cs) (h : isBlank c = false) : c ∈ trim cs := by
  have hleft : c ∈ trimLeft cs := mem_dropWhile_isBlank hc h
  exact List.mem_reverse.2 (mem_dropWhile_isBlank (List.mem_reverse.2 hleft) h)

end Criteria.Text
