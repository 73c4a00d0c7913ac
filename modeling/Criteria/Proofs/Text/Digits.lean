import Criteria.Text.Digits
import Mathlib.Algebra.Group.Nat.Defs

/-!
# Digits that are read

A number is read from digits in base ten or sixteen. Nothing but digits is read, any number of them from
one on, and zeros in front make no difference.

* `decimal?_eq_some_iff` — the texts that are read as a number are its digits behind zeros.
* `decimal?_isSome_iff`, `hex?_isSome_iff` — the texts that are read.
* `hex?_hexFixed` — the hexadecimal digits of a number are read back.
* `word?_eq_some_iff` — a word is a number below the limit, behind an optional plus sign.
-/

set_option autoImplicit false

namespace Criteria.Text

/-! ## Decimal numbers -/

variable {cs : List Char} {n : Nat}

theorem digitChar_of_isDigit {c : Char} (h : c.isDigit) :
    c.toNat - '0'.toNat < 10 ∧ (c.toNat - '0'.toNat).digitChar = c := by
  have hc : 48 ≤ c.toNat ∧ c.toNat ≤ 57 := Char.isDigit_iff_toNat.1 h
  have hlt : c.toNat - '0'.toNat < 10 := by
    show c.toNat - 48 < 10
    omega
  refine ⟨hlt, Char.toNat_inj.1 ?_⟩
  rw [Nat.toNat_digitChar_of_lt_ten hlt]
  show 48 + (c.toNat - 48) = c.toNat
  omega

/-- Digits are read from left to right, and nothing else is. -/
theorem decimalFrom?_eq_some_iff {acc : Nat} :
    decimalFrom? acc cs = some n ↔ (∀ c ∈ cs, c.isDigit) ∧ Nat.ofDigitChars 10 cs acc = n := by
  induction cs generalizing acc with
  | nil => simp [decimalFrom?]
  | cons c rest ih =>
    rw [decimalFrom?, Nat.ofDigitChars_cons]
    split
    · rename_i hc
      simp [ih, hc]
    · rename_i hc
      simp [hc]

/-- Behind a number other than zero, digits are those of the number that is read. -/
theorem toDigits_ofDigitChars {acc : Nat} (hacc : 0 < acc) (h : ∀ c ∈ cs, c.isDigit) :
    Nat.toDigits 10 (Nat.ofDigitChars 10 cs acc) = Nat.toDigits 10 acc ++ cs := by
  induction cs generalizing acc with
  | nil => simp
  | cons c rest ih =>
    obtain ⟨hlt, hchar⟩ := digitChar_of_isDigit (h c (by simp))
    have hdigit : Nat.toDigits 10 acc ++ [c] =
        Nat.toDigits 10 (10 * acc + (c.toNat - '0'.toNat)) := by
      rw [← Nat.toDigits_append_toDigits (by decide) hacc hlt, Nat.toDigits_of_lt_base hlt, hchar]
    rw [Nat.ofDigitChars_cons, ih (by omega) fun d hd => h d (List.mem_cons_of_mem c hd), ← hdigit]
    simp

/-- Digits are those of the number they are read as, behind zeros. -/
theorem exists_zeros_toDigits (hne : cs ≠ []) (h : ∀ c ∈ cs, c.isDigit) :
    ∃ zeros, cs = List.replicate zeros '0' ++ Nat.toDigits 10 (Nat.ofDigitChars 10 cs 0) := by
  induction cs with
  | nil => exact absurd rfl hne
  | cons c rest ih =>
    obtain ⟨hlt, hchar⟩ := digitChar_of_isDigit (h c (by simp))
    have hrest : ∀ d ∈ rest, d.isDigit := fun d hd => h d (List.mem_cons_of_mem c hd)
    rw [Nat.ofDigitChars_cons, Nat.mul_zero, Nat.zero_add]
    by_cases hzero : c = '0'
    · subst hzero
      cases rest with
      | nil => exact ⟨0, rfl⟩
      | cons d rest =>
        obtain ⟨zeros, hzeros⟩ := ih (by simp) hrest
        exact ⟨zeros + 1, congrArg ('0' :: ·) hzeros⟩
    · have hpos : 0 < c.toNat - '0'.toNat := by
        refine Nat.pos_of_ne_zero fun h0 => hzero ?_
        rw [← hchar, h0]
        rfl
      refine ⟨0, ?_⟩
      rw [toDigits_ofDigitChars hpos hrest, Nat.toDigits_of_lt_base hlt, hchar]
      rfl

theorem isDigit_of_decimal? (h : decimal? cs = some n) : ∀ c ∈ cs, c.isDigit := by
  rw [decimal?] at h
  split at h
  · cases h
  · exact (decimalFrom?_eq_some_iff.1 h).1

/-- The texts that are read as a number are its digits behind zeros. -/
theorem decimal?_eq_some_iff :
    decimal? cs = some n ↔ ∃ zeros, cs = List.replicate zeros '0' ++ Nat.toDigits 10 n := by
  constructor
  · intro h
    rw [decimal?] at h
    split at h
    · cases h
    · rename_i hne
      obtain ⟨hdigits, hn⟩ := decimalFrom?_eq_some_iff.1 h
      obtain ⟨zeros, hcs⟩ := exists_zeros_toDigits (by simpa using hne) hdigits
      exact ⟨zeros, by rw [hn] at hcs; exact hcs⟩
  · rintro ⟨zeros, rfl⟩
    have hne : (List.replicate zeros '0' ++ Nat.toDigits 10 n).isEmpty = false := by
      simp
    rw [decimal?, hne, if_neg (by decide), decimalFrom?_eq_some_iff]
    constructor
    · intro c hc
      rcases List.mem_append.1 hc with hzero | hdigit
      · rw [List.eq_of_mem_replicate hzero]
        rfl
      · exact Nat.isDigit_of_mem_toDigits (by decide) (by decide) hdigit
    · rw [Nat.ofDigitChars_append, Nat.ofDigitChars_replicate_zero, Nat.mul_zero,
        Nat.ofDigitChars_ten_toDigits]

/-- Digits have the value of their base ten. -/
theorem decimal?_of_digits (hne : cs ≠ []) (h : ∀ c ∈ cs, c.isDigit) :
    decimal? cs = some (Nat.ofDigitChars 10 cs 0) := by
  rw [decimal?, if_neg (by simpa using hne), decimalFrom?_eq_some_iff]
  exact ⟨h, rfl⟩

/-- The texts that are read are digits. -/
theorem decimal?_isSome_iff : (decimal? cs).isSome ↔ cs ≠ [] ∧ ∀ c ∈ cs, c.isDigit := by
  constructor
  · intro h
    obtain ⟨n, hn⟩ := Option.isSome_iff_exists.1 h
    refine ⟨?_, isDigit_of_decimal? hn⟩
    rintro rfl
    cases hn
  · rintro ⟨hne, hdigits⟩
    rw [decimal?_of_digits hne hdigits]
    rfl

/-! ## Hexadecimal numbers -/

/-- A digit of base sixteen, in either case. -/
def IsHexDigit (c : Char) : Prop :=
  '0' ≤ c ∧ c ≤ '9' ∨ 'a' ≤ c ∧ c ≤ 'f' ∨ 'A' ≤ c ∧ c ≤ 'F'

theorem hexValue?_isSome_iff {c : Char} : (hexValue? c).isSome ↔ IsHexDigit c := by
  unfold hexValue? IsHexDigit
  split
  · simp [*]
  split
  · simp [*]
  split <;> simp [*]

theorem hexFrom?_isSome_iff (acc : Nat) : (hexFrom? acc cs).isSome ↔ ∀ c ∈ cs, IsHexDigit c := by
  induction cs generalizing acc with
  | nil => simp [hexFrom?]
  | cons c rest ih =>
    rw [List.forall_mem_cons, ← hexValue?_isSome_iff, hexFrom?]
    split
    · rename_i d hd
      simp [hd, ih]
    · rename_i hd
      simp [hd]

/-- The texts that are read are digits. -/
theorem hex?_isSome_iff : (hex? cs).isSome ↔ cs ≠ [] ∧ ∀ c ∈ cs, IsHexDigit c := by
  rw [← hexFrom?_isSome_iff 0, hex?]
  split
  · rename_i hempty
    simp [List.isEmpty_iff.1 hempty]
  · rename_i hne
    exact (and_iff_right (by simpa using hne)).symm

theorem hexValue?_hexDigit : ∀ n < 16, hexValue? (hexDigit n) = some n := by decide

theorem hexFrom?_append_digit (acc : Nat) (ds : List Char) (d : Char) :
    hexFrom? acc (ds ++ [d]) =
      (hexFrom? acc ds).bind fun n => (hexValue? d).map fun m => 16 * n + m := by
  induction ds generalizing acc with
  | nil =>
    rw [List.nil_append, hexFrom?, hexFrom?, Option.bind_some]
    cases hexValue? d <;> rfl
  | cons e ds ih =>
    rw [List.cons_append, hexFrom?, hexFrom?]
    cases hexValue? e with
    | none => rfl
    | some m => exact ih (16 * acc + m)

theorem hexFrom?_hexFixed (acc width n : Nat) :
    hexFrom? acc (hexFixed width n) = some (16 ^ width * acc + n % 16 ^ width) := by
  induction width generalizing n with
  | zero => simp [hexFixed, hexFrom?, Nat.mod_one]
  | succ width ih =>
    rw [hexFixed, hexFrom?_append_digit, ih, Option.bind_some,
      hexValue?_hexDigit _ (Nat.mod_lt n (by decide)), Option.map_some, Nat.pow_succ',
      Nat.mod_mul (x := n), Nat.mul_assoc]
    congr 1
    omega

/-- The digits of a number are read back if they are not too few. -/
theorem hex?_hexFixed {width n : Nat} (hwidth : 0 < width) (hn : n < 16 ^ width) :
    hex? (hexFixed width n) = some n := by
  have hne : (hexFixed width n).isEmpty = false := by
    cases width with
    | zero => cases hwidth
    | succ width => simp [hexFixed]
  rw [hex?, hne, if_neg (by decide), hexFrom?_hexFixed, Nat.mod_eq_of_lt hn, Nat.mul_zero,
    Nat.zero_add]

/-! ## Words -/

/-- A word is a number below the limit, behind an optional plus sign. -/
theorem word?_eq_some_iff {read : List Char → Option Nat} : word? read cs = some n ↔
    n < wordLimit ∧ (if cs.head? = some '+' then read cs.tail else read cs) = some n := by
  by_cases hplus : ∃ rest, cs = '+' :: rest
  · obtain ⟨rest, rfl⟩ := hplus
    rw [word?, List.head?_cons, if_pos rfl, List.tail_cons]
    cases read rest with
    | none => simp
    | some m => simp +contextual [and_comm]
  · have hhead : cs.head? ≠ some '+' := fun h =>
      hplus ((List.head?_eq_some_iff.1 h).imp fun _ => id)
    rw [word?, if_neg hhead]
    · cases read cs with
      | none => simp
      | some m => simp +contextual [and_comm]
    · exact fun rest h => hplus ⟨rest, h⟩

end Criteria.Text
