import Criteria.Proofs.Number.Numeral
import Criteria.Proofs.Number.Shortest
import Criteria.Proofs.Text.Blank

/-!
# The text of a number denotes the number

A double is written with digits enough to find it again, and an integer with all of its digits. Only the
sign of zero is not written.

* `parse_of_reads` — such a text is read as its decimal, behind a minus sign as its negative.
* `exists_reads_formatMagnitude` — the text of a magnitude denotes a decimal near it.
* `parse_format`, `parse_toString` — reading back a double and an integer.
-/

set_option autoImplicit false

namespace Criteria.Number

open Text

variable {cs : List Char} {m n : ℕ} {e j k : ℤ}

/-! ## Reading -/

theorem Reads.mem (h : Reads cs n j) : ∀ c ∈ cs, c.isDigit ∨ c = '.' := by
  intro c hc
  cases h with
  | whole h => exact .inl (h.2 c hc)
  | point h hd =>
    rcases List.mem_append.1 hc with hc | hc
    · exact .inl (h.2 c hc)
    rcases List.mem_cons.1 hc with rfl | hc
    · exact .inr rfl
    · exact .inl (hd.2 c hc)

/-- Such a text starts with a digit. -/
theorem Reads.exists_cons (h : Reads cs n j) : ∃ c rest, cs = c :: rest ∧ c.isDigit := by
  cases h with
  | whole h =>
    obtain ⟨c, rest, rfl⟩ := List.exists_cons_of_ne_nil h.1
    exact ⟨c, rest, rfl, h.2 c List.mem_cons_self⟩
  | point h hd =>
    obtain ⟨c, rest, rfl⟩ := List.exists_cons_of_ne_nil h.1
    exact ⟨c, _, rfl, h.2 c List.mem_cons_self⟩

theorem Reads.exists_split (h : Reads cs n j) : ∃ whole fraction,
    Split cs whole fraction [] ∧ decimal? (whole ++ fraction) = some n ∧ j = 0 - fraction.length := by
  have hnil : ∀ c ∈ ([] : List Char).head?, c.isDigit = false ∧ c ≠ '.' := fun _ hc => by cases hc
  cases h with
  | whole h =>
    have hsplit := Split.whole h.2 hnil
    rw [List.append_nil] at hsplit
    exact ⟨cs, [], hsplit, by rw [List.append_nil, decimal?_of_digits h.1 h.2], rfl⟩
  | @point cs ds h hd =>
    have hsplit := Split.point h.2 hd.2 fun c hc => (hnil c hc).1
    rw [List.append_nil] at hsplit
    refine ⟨cs, ds, hsplit, decimal?_of_digits (List.append_ne_nil_of_left_ne_nil h.1 ds) ?_, by omega⟩
    exact fun c hc => (List.mem_append.1 hc).elim (h.2 c) (hd.2 c)

/-- The text behind an optional minus sign. -/
def signed (negative : Bool) (cs : List Char) : List Char := if negative then '-' :: cs else cs

theorem Reads.splitSign_signed (h : Reads cs n j) (negative : Bool) :
    splitSign (signed negative cs) = (negative, cs) := by
  cases negative with
  | true => rfl
  | false =>
    obtain ⟨c, rest, rfl, hc⟩ := h.exists_cons
    show splitSign (c :: rest) = _
    rw [splitSign]
    · rintro ds ⟨rfl, -⟩
      cases hc
    · rintro ds ⟨rfl, -⟩
      cases hc

theorem Reads.mem_signed (h : Reads cs n j) (negative : Bool) :
    ∀ c ∈ signed negative cs, c.isDigit ∨ c = '.' ∨ c = '-' := by
  intro c hc
  have hcs : c ∈ cs → c.isDigit ∨ c = '.' ∨ c = '-' := fun hc => (h.mem c hc).imp_right .inl
  cases negative with
  | true =>
    rcases List.mem_cons.1 hc with rfl | hc
    · exact .inr (.inr rfl)
    · exact hcs hc
  | false => exact hcs hc

/-- What is neither empty nor a word, and has no prefix, is read as a decimal numeral. -/
theorem parseTrimmed_eq_decimalNumeral? (hne : cs ≠ []) (hword : 'I' ∉ cs) (hx : 'x' ∉ cs) (hX : 'X' ∉ cs) :
    parseTrimmed cs = (decimalNumeral? cs).getD nan := by
  have hinfinity : ¬ (cs = "Infinity".toList ∨ cs = "+Infinity".toList) := by
    rintro (rfl | rfl) <;> exact hword (by decide)
  have hminus : ¬ cs = "-Infinity".toList := by
    rintro rfl
    exact hword (by decide)
  have hbody : hexBody? cs = none := by
    unfold hexBody?
    split
    · exact absurd (List.mem_cons_of_mem _ List.mem_cons_self) hx
    · exact absurd (List.mem_cons_of_mem _ List.mem_cons_self) hX
    · rfl
  rw [parseTrimmed, if_neg (by simpa using hne), if_neg hinfinity, if_neg hminus, hbody]

/-- The text of a decimal is read as this decimal. -/
theorem parse_of_reads (h : Reads cs n j) (negative : Bool) :
    parse (signed negative cs) = ofDecimal negative n j := by
  have hmem := h.mem_signed negative
  have hnot {c : Char} (hc : ¬ (c.isDigit ∨ c = '.' ∨ c = '-')) : c ∉ signed negative cs :=
    fun hin => hc (hmem c hin)
  have hblank : ∀ c ∈ signed negative cs, isBlank c = false := by
    intro c hc
    rcases hmem c hc with hdigit | rfl | rfl
    · exact isBlank_of_isDigit hdigit
    · rfl
    · rfl
  have hne : signed negative cs ≠ [] := by
    intro hempty
    have hcs : splitSign (signed negative cs) = (false, []) := by rw [hempty]; rfl
    rw [h.splitSign_signed] at hcs
    obtain ⟨c, rest, rfl, -⟩ := h.exists_cons
    cases hcs
  obtain ⟨whole, fraction, hsplit, hn, hj⟩ := h.exists_split
  have hsign := h.splitSign_signed negative
  have hsplit' : Split (splitSign (signed negative cs)).2 whole fraction [] := by rwa [hsign]
  rw [parse, trim_of_forall_not_isBlank hblank, parseTrimmed_eq_decimalNumeral? hne (hnot (by decide))
    (hnot (by decide)) (hnot (by decide)), decimalNumeral?_eq hsplit', hn, hsign, hj]
  rfl

/-! ## Writing -/

/-- Positional notation keeps the value. -/
theorem exists_reads_positional (n : ℕ) (k : ℤ) :
    ∃ n' j, Reads (positional n k) n' j ∧ (n' : ℚ) * 10 ^ j = n * 10 ^ k := by
  by_cases hk : 0 ≤ k
  · refine ⟨_, 0, reads_positional_of_nonneg n hk, ?_⟩
    rw [Nat.cast_mul, Interval.cast_ten_pow hk, zpow_zero, mul_one, mul_comm]
  · exact ⟨n, k, reads_positional_of_neg n hk, rfl⟩

/-- The integer part of a double without a fraction is all of it. -/
theorem near_truncated (h : 0 ≤ e ∨ truncated m e <<< (-e).toNat = m) : Near m e (truncated m e) := by
  have hunit : (0 : ℚ) < 2 ^ e := by positivity
  have hvalue : (truncated m e : ℚ) = m * 2 ^ e := by
    by_cases he : 0 ≤ e
    · rw [truncated, if_pos he, Nat.shiftLeft_eq]
      push_cast
      rw [← zpow_natCast, Int.toNat_of_nonneg he]
    · have hshift := h.resolve_left he
      rw [Nat.shiftLeft_eq] at hshift
      have hcast : (truncated m e : ℚ) * 2 ^ (-e) = m := by
        rw [← Int.toNat_of_nonneg (show 0 ≤ -e by omega), zpow_natCast]
        exact_mod_cast hshift
      rw [← hcast, mul_assoc, ← zpow_add₀ (by norm_num), neg_add_cancel, zpow_zero, mul_one]
  have hreach := Near.reachBelow_pos m
  have hquotient : (truncated m e : ℚ) / 2 ^ e = m := by rw [hvalue, mul_div_cancel_right₀ _ hunit.ne']
  refine ⟨?_, ?_, fun _ => ⟨?_, ?_⟩⟩ <;> rw [hquotient] <;> linarith

/-- The text of a magnitude denotes a decimal near it. -/
theorem exists_reads_formatMagnitude (hc : Canonical m e) :
    ∃ n j, Reads (formatMagnitude m e) n j ∧ Near m e (n * 10 ^ j) := by
  unfold formatMagnitude
  dsimp only
  split
  · rename_i hwhole
    rw [Bool.and_eq_true, Bool.or_eq_true, decide_eq_true_eq, decide_eq_true_eq] at hwhole
    refine ⟨_, 0, reads_toDigits _, ?_⟩
    rw [zpow_zero, mul_one]
    exact near_truncated hwhole.1
  · obtain ⟨n, j, hreads, hvalue⟩ := exists_reads_positional (shortest m e).1 (shortest m e).2
    refine ⟨n, j, hreads, ?_⟩
    rw [hvalue]
    exact near_shortest hc

/-! ## Doubles -/

/-- A double is read back from its text, negative zero without its sign. -/
theorem parse_format {x : Float} (hx : x ≠ ofDyadic true 0 0) : parse (format x).toList = x := by
  cases hparts : Parts.ofFloat x with
  | nan =>
    have hnan : x = nan := eq_of_unpack (by rw [hparts]; rfl)
    rw [format, hparts, hnan]
    rfl
  | infinite negative =>
    cases negative with
    | false =>
      have hinfinite : x = infinity false := eq_of_unpack (by rw [hparts]; rfl)
      rw [format, hparts, hinfinite]
      rfl
    | true =>
      have hinfinite : x = infinity true := eq_of_unpack (by rw [hparts]; rfl)
      rw [format, hparts, hinfinite]
      rfl
  | finite negative m e =>
    by_cases hm : m = 0
    · subst hm
      have hzero : x = ofDyadic false 0 0 := by
        cases negative with
        | false => exact eq_of_unpack (by rw [hparts]; rfl)
        | true => exact absurd (eq_of_unpack (by rw [hparts]; rfl)) hx
      have htext : format x = "0" := by
        rw [format, hparts]
        exact if_pos rfl
      rw [htext, hzero]
      rfl
    · have hc := Parts.canonical x hparts hm
      obtain ⟨n, j, hreads, hnear⟩ := exists_reads_formatMagnitude hc
      have htext : (format x).toList = signed negative (formatMagnitude m e) := by
        rw [format, hparts]
        dsimp only
        rw [if_neg hm]
        cases negative with
        | false => exact String.toList_ofList
        | true => exact (String.toList_append ..).trans (congrArg _ String.toList_ofList)
      have hdouble : x = toDouble (Parts.sign negative) hc := by
        refine eq_of_unpack ?_
        rw [hparts, Parts.unpacked, dif_neg hm]
      rw [htext, parse_of_reads hreads, ofDecimal_of_near hc negative hnear, ← hdouble]

/-! ## Integers -/

theorem ofDecimal_natural (hn : n < 2 ^ 64) : ofDecimal false n 0 = Float.ofNat n := by
  have hlength : (Nat.toDigits 10 n).length ≤ 20 :=
    (Nat.length_toDigits_le_iff (by decide) (by decide)).2 (hn.trans (by decide))
  have hproduct : n * Nat.pow 10 (0 : ℤ).toNat = n := Nat.mul_one n
  by_cases hzero : n = 0
  · subst hzero
    rfl
  · rw [ofDecimal, if_neg Bool.false_ne_true, if_neg (by simp [hzero]), if_neg (by omega),
      if_pos (Int.le_refl 0), hproduct]
    rfl

/-- An integer is read back from its text as its double. -/
theorem parse_toString {a : ℤ} (ha : a.natAbs < 2 ^ 64) : parse (toString a).toList = Float.ofInt a := by
  cases a with
  | ofNat n =>
    have htext : (toString (Int.ofNat n)).toList = signed false (Nat.toDigits 10 n) :=
      Nat.toList_repr
    have hmagnitude : ofDecimal false n 0 = Float.ofNat n := ofDecimal_natural ha
    rw [htext, parse_of_reads (reads_toDigits n), hmagnitude]
    rfl
  | negSucc n =>
    have htext : (toString (Int.negSucc n)).toList = signed true (Nat.toDigits 10 (n + 1)) :=
      (String.toList_append ..).trans (congrArg _ Nat.toList_repr)
    have hmagnitude : ofDecimal false (n + 1) 0 = Float.ofNat (n + 1) := ofDecimal_natural ha
    rw [htext, parse_of_reads (reads_toDigits (n + 1))]
    exact congrArg (fun x : Float => -x) hmagnitude

end Criteria.Number
