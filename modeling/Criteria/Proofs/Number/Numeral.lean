import Criteria.Proofs.Number.Decimal
import Criteria.Proofs.Text.Blank
import Criteria.Proofs.Text.Digits
import Criteria.Value.Datum

/-!
# Texts that denote a number

A text denotes a number if it is a numeral of the host language, blanks around it aside. The conversion
keeps to this grammar but for hexadecimal numerals: a plus sign may stand before their digits, and those
beyond a word are refused.

* `HostNumeral` — the grammar.
* `decimalNumeral?_isSome_iff` — decimal numerals are read exactly.
* `isNaN_ofDecimal` — no numeral is read as NaN.
* `number_of_text` — which texts denote a number.
* `hexadecimal_beside_grammar` — a text that is no numeral and denotes a number, and the other way round.
-/

set_option autoImplicit false

namespace Criteria.Number

open Text

/-! ## The grammar -/

/-- Hexadecimal digits, at least one. -/
def HexDigits (cs : List Char) : Prop := cs ≠ [] ∧ ∀ c ∈ cs, IsHexDigit c

/-- An optional sign before a text. -/
inductive Signed (P : List Char → Prop) : List Char → Prop where
  | plain {cs : List Char} (h : P cs) : Signed P cs
  | plus {cs : List Char} (h : P cs) : Signed P ('+' :: cs)
  | minus {cs : List Char} (h : P cs) : Signed P ('-' :: cs)

/-- The prefix of a hexadecimal numeral before a text. -/
inductive Prefixed (P : List Char → Prop) : List Char → Prop where
  | lower {cs : List Char} (h : P cs) : Prefixed P ('0' :: 'x' :: cs)
  | upper {cs : List Char} (h : P cs) : Prefixed P ('0' :: 'X' :: cs)

/-- Digits with an optional fraction, which may be without digits, or a fraction alone. -/
inductive Significand : List Char → Prop where
  | whole {cs : List Char} (h : Digits cs) : Significand cs
  | point {cs ds : List Char} (h : Digits cs) (hd : ∀ d ∈ ds, d.isDigit) : Significand (cs ++ '.' :: ds)
  | fraction {ds : List Char} (h : Digits ds) : Significand ('.' :: ds)

/-- An optional exponent. -/
inductive Exponent : List Char → Prop where
  | none : Exponent []
  | lower {cs : List Char} (h : Signed Digits cs) : Exponent ('e' :: cs)
  | upper {cs : List Char} (h : Signed Digits cs) : Exponent ('E' :: cs)

/-- A decimal numeral without a sign. -/
inductive Decimal : List Char → Prop where
  | mk {cs ds : List Char} (h : Significand cs) (he : Exponent ds) : Decimal (cs ++ ds)

/-- The texts that the host language converts to a number, without blanks around them. -/
inductive HostNumeral : List Char → Prop where
  | empty : HostNumeral []
  | infinity {cs : List Char} (h : Signed (· = "Infinity".toList) cs) : HostNumeral cs
  | hexadecimal {cs : List Char} (h : Prefixed HexDigits cs) : HostNumeral cs
  | decimal {cs : List Char} (h : Signed Decimal cs) : HostNumeral cs

variable {P : List Char → Prop} {cs body whole fraction tail : List Char}

/-- The sign is what is split off, before texts that have none themselves. -/
theorem signed_iff (hplus : ∀ ds, ¬ P ('+' :: ds)) (hminus : ∀ ds, ¬ P ('-' :: ds)) :
    Signed P cs ↔ P (splitSign cs).2 := by
  constructor
  · rintro (h | h | h)
    · rw [splitSign]
      · exact h
      · rintro ds rfl
        exact hplus ds h
      · rintro ds rfl
        exact hminus ds h
    · exact h
    · exact h
  · intro h
    unfold splitSign at h
    split at h
    · exact .plus h
    · exact .minus h
    · exact .plain h

theorem prefixed_iff : Prefixed P cs ↔ ∃ ds, hexBody? cs = some ds ∧ P ds := by
  constructor
  · rintro (h | h)
    · exact ⟨_, rfl, h⟩
    · exact ⟨_, rfl, h⟩
  · rintro ⟨ds, hbody, h⟩
    unfold hexBody? at hbody
    split at hbody
    · cases hbody
      exact .lower h
    · cases hbody
      exact .upper h
    · cases hbody

theorem signed_digits_iff : Signed Digits cs ↔ (decimal? (splitSign cs).2).isSome := by
  rw [decimal?_isSome_iff]
  exact signed_iff (fun _ h => absurd (h.2 _ List.mem_cons_self) (by decide))
    fun _ h => absurd (h.2 _ List.mem_cons_self) (by decide)

/-- The exponent has the value of its digits. -/
theorem exponent?_cons {c : Char} (hc : c = 'e' ∨ c = 'E') (rest : List Char) :
    exponent? (c :: rest) = (decimal? (splitSign rest).2).map fun n : ℕ =>
      if (splitSign rest).1 then -(n : ℤ) else (n : ℤ) := by
  rw [exponent?, if_pos hc]
  obtain ⟨negative, digits⟩ := splitSign rest
  dsimp only
  cases decimal? digits <;> rfl

theorem exponent?_isSome_iff : (exponent? cs).isSome ↔ Exponent cs := by
  cases cs with
  | nil => exact iff_of_true rfl .none
  | cons c rest =>
    by_cases hc : c = 'e' ∨ c = 'E'
    · rw [exponent?_cons hc, Option.isSome_map, ← signed_digits_iff]
      constructor
      · intro h
        rcases hc with rfl | rfl
        · exact .lower h
        · exact .upper h
      · rintro (h | h | h)
        · exact h
        · exact h
    · rw [exponent?, if_neg hc]
      refine iff_of_false Bool.false_ne_true ?_
      rintro (h | h | h)
      · exact hc (.inl rfl)
      · exact hc (.inr rfl)

/-! ## The parts of a decimal numeral -/

/-- A text falls apart into digits, digits behind a point, and a tail. -/
inductive Split : List Char → List Char → List Char → List Char → Prop where
  | whole {whole tail : List Char} (hwhole : ∀ c ∈ whole, c.isDigit)
      (htail : ∀ c ∈ tail.head?, c.isDigit = false ∧ c ≠ '.') : Split (whole ++ tail) whole [] tail
  | point {whole fraction tail : List Char} (hwhole : ∀ c ∈ whole, c.isDigit)
      (hfraction : ∀ c ∈ fraction, c.isDigit) (htail : ∀ c ∈ tail.head?, c.isDigit = false) :
      Split (whole ++ '.' :: (fraction ++ tail)) whole fraction tail

/-- The parts as they are computed. -/
def parts (body : List Char) : List Char × List Char × List Char :=
  (body.takeWhile Char.isDigit, match body.dropWhile Char.isDigit with
    | '.' :: rest => (rest.takeWhile Char.isDigit, rest.dropWhile Char.isDigit)
    | rest => ([], rest))

theorem isDigit_of_mem_takeWhile (cs : List Char) : ∀ c ∈ cs.takeWhile Char.isDigit, c.isDigit :=
  fun _ => List.mem_takeWhile_imp

theorem isDigit_of_head?_dropWhile (cs : List Char) :
    ∀ c ∈ (cs.dropWhile Char.isDigit).head?, c.isDigit = false := by
  intro c h
  have hhead := List.head?_dropWhile_not Char.isDigit cs
  rw [Option.mem_def.1 h] at hhead
  exact hhead

theorem split_parts (body : List Char) :
    Split body (parts body).1 (parts body).2.1 (parts body).2.2 := by
  have hsplit := List.takeWhile_append_dropWhile (p := Char.isDigit) (l := body)
  have hwhole := isDigit_of_mem_takeWhile body
  have htail := isDigit_of_head?_dropWhile body
  generalize hdrop : body.dropWhile Char.isDigit = rest at hsplit htail
  rw [parts, hdrop]
  split
  · rename_i rest
    have hpoint := Split.point hwhole (isDigit_of_mem_takeWhile rest) (isDigit_of_head?_dropWhile rest)
    rwa [List.takeWhile_append_dropWhile, hsplit] at hpoint
  · rename_i hpoint
    have hnone := Split.whole hwhole fun c hc => ⟨htail c hc, ?_⟩
    · rwa [hsplit] at hnone
    · rintro rfl
      obtain ⟨ds, rfl⟩ := List.head?_eq_some_iff.1 hc
      exact hpoint ds rfl

theorem Split.parts_eq (h : Split body whole fraction tail) : parts body = (whole, fraction, tail) := by
  cases h with
  | whole hwhole htail =>
    obtain ⟨htake, hdrop⟩ := span_append hwhole fun c hc => (htail c hc).1
    rw [parts, htake, hdrop]
    split
    · exact absurd rfl (htail '.' rfl).2
    · rfl
  | point hwhole hfraction htail =>
    have hpoint : ∀ c ∈ ('.' :: (fraction ++ tail)).head?, c.isDigit = false := by
      intro c hc
      cases hc
      rfl
    obtain ⟨htake, hdrop⟩ := span_append hwhole hpoint
    obtain ⟨htake', hdrop'⟩ := span_append hfraction htail
    rw [parts, htake, hdrop]
    exact congrArg (Prod.mk whole) (Prod.ext htake' hdrop')

/-- A decimal numeral is read from its parts. -/
theorem decimalNumeral?_eq (h : Split (splitSign cs).2 whole fraction tail) :
    decimalNumeral? cs = (decimal? (whole ++ fraction)).bind fun n =>
      (exponent? tail).map fun e => ofDecimal (splitSign cs).1 n (e - fraction.length) := by
  have hdigits (n : Option ℕ) : decimal? ((parts (splitSign cs).2).1 ++ (parts (splitSign cs).2).2.1) = n ↔
      decimal? (whole ++ fraction) = n := by rw [h.parts_eq]
  have hexponent (e : Option ℤ) : exponent? (parts (splitSign cs).2).2.2 = e ↔ exponent? tail = e := by
    rw [h.parts_eq]
  unfold decimalNumeral?
  dsimp only
  split
  · rename_i n e hn he
    have hlength : (parts (splitSign cs).2).2.1.length = fraction.length := by rw [h.parts_eq]
    rw [(hdigits _).1 hn, (hexponent _).1 he, ← hlength]
    rfl
  · rename_i hnone
    cases hn : decimal? (whole ++ fraction) with
    | none => rfl
    | some n =>
      cases he : exponent? tail with
      | none => rfl
      | some e => exact (hnone n e ((hdigits _).2 hn) ((hexponent _).2 he)).elim

theorem Split.isDigit (h : Split body whole fraction tail) : ∀ c ∈ whole ++ fraction, c.isDigit := by
  cases h with
  | whole hwhole => simpa using hwhole
  | point hwhole hfraction =>
    intro c hc
    exact (List.mem_append.1 hc).elim (hwhole c) (hfraction c)

/-- The digits of a significand and its point, before a tail. -/
theorem Significand.exists_split (h : Significand cs)
    (htail : ∀ c ∈ tail.head?, c.isDigit = false ∧ c ≠ '.') :
    ∃ whole fraction, Split (cs ++ tail) whole fraction tail ∧ whole ++ fraction ≠ [] := by
  cases h with
  | whole h => exact ⟨cs, [], .whole h.2 htail, by simpa using h.1⟩
  | @point cs ds h hd =>
    refine ⟨cs, ds, ?_, by simp [h.1]⟩
    rw [List.append_assoc]
    exact .point h.2 hd fun c hc => (htail c hc).1
  | @fraction ds h =>
    exact ⟨[], ds, .point (fun _ hc => absurd hc List.not_mem_nil) h.2 fun c hc => (htail c hc).1,
      by simpa using h.1⟩

theorem Exponent.head? (h : Exponent tail) : ∀ c ∈ tail.head?, c.isDigit = false ∧ c ≠ '.' := by
  intro c hc
  cases h with
  | none => cases hc
  | lower | upper =>
    cases hc
    decide

/-- A decimal numeral has digits before its exponent. -/
theorem Split.decimal_iff (h : Split body whole fraction tail) :
    Decimal body ↔ Digits (whole ++ fraction) ∧ Exponent tail := by
  constructor
  · rintro ⟨hs, he⟩
    obtain ⟨whole', fraction', hsplit, hne⟩ := hs.exists_split he.head?
    obtain ⟨rfl, rfl, rfl⟩ : whole' = whole ∧ fraction' = fraction ∧ _ = tail := by
      simpa using hsplit.parts_eq.symm.trans h.parts_eq
    exact ⟨⟨hne, h.isDigit⟩, he⟩
  · rintro ⟨hdigits, he⟩
    cases h with
    | whole =>
      rw [List.append_nil] at hdigits
      exact .mk (.whole hdigits) he
    | point hwhole hfraction =>
      by_cases hne : whole = []
      · subst hne
        have hfraction := Decimal.mk (.fraction hdigits) he
        exact hfraction
      · have hpoint := Decimal.mk (.point ⟨hne, hwhole⟩ hfraction) he
        rwa [List.append_assoc] at hpoint

theorem not_decimal_cons {c : Char} (hc : c.isDigit = false) (hpoint : c ≠ '.') (ds : List Char) :
    ¬ Decimal (c :: ds) := by
  intro h
  have hsplit : Split ([] ++ c :: ds) [] [] (c :: ds) :=
    .whole (fun _ h => absurd h List.not_mem_nil) fun d hd => by
      cases hd
      exact ⟨hc, hpoint⟩
  exact (hsplit.decimal_iff.1 h).1.1 rfl

theorem signed_decimal_iff : Signed Decimal cs ↔ Decimal (splitSign cs).2 :=
  signed_iff (fun _ => not_decimal_cons rfl (by decide) _) fun _ => not_decimal_cons rfl (by decide) _

/-- Decimal numerals are read exactly. -/
theorem decimalNumeral?_isSome_iff : (decimalNumeral? cs).isSome ↔ Signed Decimal cs := by
  have hsplit := split_parts (splitSign cs).2
  rw [signed_decimal_iff, hsplit.decimal_iff, decimalNumeral?_eq hsplit, ← exponent?_isSome_iff,
    Digits, ← decimal?_isSome_iff]
  cases decimal? ((parts (splitSign cs).2).1 ++ (parts (splitSign cs).2).2.1) with
  | none => simp
  | some n => simp

/-! ## Numerals are no NaN -/

section NaN

open Float.Model UnpackedFloat

theorem isNaN_roundWithAccuracy (fmt : Format) (s : Sign) (n : ℕ) (e : ℤ) (acc : Accuracy) :
    (roundWithAccuracy fmt s n e acc).isNaN = false := by
  unfold roundWithAccuracy
  dsimp only
  split <;> rfl

theorem isNaN_unpacked_ofScientific (n : ℕ) (k : ℤ) :
    (UnpackedFloat.ofScientific Format.binary64 n k).isNaN = false := by
  unfold UnpackedFloat.ofScientific
  split
  · rfl
  split
  · rfl
  split
  · rfl
  split
  · exact isNaN_roundWithAccuracy ..
  · exact isNaN_roundWithAccuracy ..

theorem isNaN_ofScientific {n : ℕ} (hn : n ≠ 0) (negative : Bool) (k : ℕ) :
    (Float.ofScientific n negative k).isNaN = false := by
  by_cases hfast : n < 2 ^ 53 ∧ k ≤ 22
  · obtain ⟨p, f, hp, hunpack, -⟩ := (unpack_toFloat hn hfast.1).exists_value
    obtain ⟨q, g, hq, hunpack', -⟩ := (shows_powerOfTen hfast.2).exists_value
    cases negative with
    | true =>
      rw [ofScientific_quotient hfast]
      refine (isNaN_pack _).trans ?_
      rw [hunpack, hunpack']
      exact isNaN_roundWithAccuracy ..
    | false =>
      rw [ofScientific_product hfast]
      refine (isNaN_pack _).trans ?_
      rw [hunpack, hunpack']
      exact isNaN_roundWithAccuracy ..
  · rw [ofScientific_unpacked hfast]
    exact (isNaN_pack _).trans (isNaN_unpacked_ofScientific n _)

theorem isNaN_neg (x : Float) : (-x).isNaN = x.isNaN := by
  have hneg (u : UnpackedFloat) : u.neg.isNaN = u.isNaN := by cases u <;> rfl
  exact (isNaN_pack _).trans (hneg _)

/-- No decimal is converted to NaN. -/
theorem isNaN_ofDecimal (negative : Bool) (n : ℕ) (k : ℤ) : (ofDecimal negative n k).isNaN = false := by
  have hmagnitude : (ofDecimal false n k).isNaN = false := by
    rw [ofDecimal, if_neg Bool.false_ne_true]
    split
    · rfl
    rename_i hn
    have hne : n ≠ 0 := by
      rintro rfl
      simp at hn
    split
    · rfl
    split
    · exact isNaN_ofScientific (Nat.mul_ne_zero hne (Nat.ne_of_gt (Nat.pow_pos (by decide)))) false 0
    · exact isNaN_ofScientific hne true _
  cases negative with
  | false => exact hmagnitude
  | true => exact (isNaN_neg _).trans hmagnitude

/-- No word is converted to NaN. -/
theorem isNaN_ofInt {a : ℤ} (ha : a.natAbs < 2 ^ 64) : (Float.ofInt a).isNaN = false := by
  by_cases hzero : a = 0
  · rw [hzero]
    rfl
  · obtain ⟨m, e, hm, hunpack, -⟩ := shows_ofInt hzero ha
    show (Float.ofInt a).toModel.unpack.isNaN = false
    rw [hunpack]
    rfl

end NaN

/-! ## Texts -/

/-- The digits of a hexadecimal numeral are too many for a word. -/
def Oversized (ds : List Char) : Prop := ∃ n, hex? ds = some n ∧ wordLimit ≤ n

/-- A word in hexadecimal digits behind a plus sign. -/
def PlusWord (cs : List Char) : Prop := ∃ ds n, cs = '+' :: ds ∧ hex? ds = some n ∧ n < wordLimit

theorem word?_isSome_iff {ds : List Char} :
    (word? hex? ds).isSome ↔ HexDigits ds ∧ ¬ Oversized ds ∨ PlusWord ds := by
  constructor
  · intro h
    obtain ⟨n, hn⟩ := Option.isSome_iff_exists.1 h
    obtain ⟨hlt, hread⟩ := word?_eq_some_iff.1 hn
    split at hread
    · rename_i hhead
      obtain ⟨rest, rfl⟩ := List.head?_eq_some_iff.1 hhead
      exact .inr ⟨rest, n, rfl, hread, hlt⟩
    · refine .inl ⟨hex?_isSome_iff.1 (Option.isSome_of_eq_some hread), ?_⟩
      rintro ⟨m, hm, hle⟩
      obtain rfl : n = m := Option.some.inj (hread.symm.trans hm)
      exact Nat.not_lt.2 hle hlt
  · rintro (⟨hdigits, hsize⟩ | ⟨rest, n, rfl, hn, hlt⟩)
    · obtain ⟨n, hn⟩ := Option.isSome_iff_exists.1 (hex?_isSome_iff.2 hdigits)
      have hhead : ds.head? ≠ some '+' := fun h =>
        absurd (hdigits.2 '+' (List.mem_of_mem_head? h)) (by unfold IsHexDigit; decide)
      have hlt : n < wordLimit := Nat.not_le.1 fun hle => hsize ⟨n, hn, hle⟩
      exact Option.isSome_of_eq_some (word?_eq_some_iff.2 ⟨hlt, (if_neg hhead).trans hn⟩)
    · exact Option.isSome_of_eq_some (word?_eq_some_iff.2 ⟨hlt, (if_pos rfl).trans hn⟩)

theorem isNaN_decimalNumeral? {x : Float} (h : decimalNumeral? cs = some x) : x.isNaN = false := by
  rw [decimalNumeral?_eq (split_parts _)] at h
  obtain ⟨n, -, h⟩ := Option.bind_eq_some_iff.1 h
  obtain ⟨e, -, rfl⟩ := Option.map_eq_some_iff.1 h
  exact isNaN_ofDecimal _ n _

theorem isNaN_word {n : ℕ} {ds : List Char} (h : word? hex? ds = some n) :
    (Float.ofInt n).isNaN = false := by
  have hlt : n < 2 ^ 64 := (word?_eq_some_iff.1 h).1
  exact isNaN_ofInt (by omega)

theorem signed_infinity_iff : Signed (· = "Infinity".toList) cs ↔
    (cs = "Infinity".toList ∨ cs = "+Infinity".toList) ∨ cs = "-Infinity".toList := by
  constructor
  · rintro (rfl | rfl | rfl)
    · exact .inl (.inl rfl)
    · exact .inl (.inr rfl)
    · exact .inr rfl
  · rintro ((rfl | rfl) | rfl)
    · exact .plain rfl
    · exact .plus rfl
    · exact .minus rfl

/-- Without the prefix of a hexadecimal numeral, a text is a decimal one, a word or empty. -/
theorem isNaN_parseTrimmed_of_none (h : hexBody? cs = none) :
    (parseTrimmed cs).isNaN = false ↔ HostNumeral cs := by
  rw [parseTrimmed]
  split
  · rename_i hempty
    rw [List.isEmpty_iff.1 hempty]
    exact iff_of_true rfl .empty
  rename_i hne
  split
  · rename_i hword
    exact iff_of_true rfl (.infinity (signed_infinity_iff.2 (.inl hword)))
  rename_i hplus
  split
  · rename_i hword
    exact iff_of_true rfl (.infinity (signed_infinity_iff.2 (.inr hword)))
  rename_i hminus
  rw [h]
  have hdecimal : HostNumeral cs ↔ Signed Decimal cs := by
    refine ⟨?_, .decimal⟩
    rintro (_ | hword | hhex | hsigned)
    · exact absurd rfl hne
    · exact absurd (signed_infinity_iff.1 hword) (not_or.2 ⟨hplus, hminus⟩)
    · obtain ⟨ds, hds, -⟩ := prefixed_iff.1 hhex
      rw [h] at hds
      cases hds
    · exact hsigned
  rw [hdecimal, ← decimalNumeral?_isSome_iff]
  dsimp only
  cases hread : decimalNumeral? cs with
  | none => exact iff_of_false (by decide) Bool.false_ne_true
  | some x => exact iff_of_true (isNaN_decimalNumeral? hread) rfl

/-- The mark of a hexadecimal numeral begins no exponent. -/
theorem not_signed_decimal_of_mark {x : Char} (hx : x = 'x' ∨ x = 'X') (ds : List Char) :
    ¬ Signed Decimal ('0' :: x :: ds) := by
  have hmark : ∀ c ∈ (x :: ds).head?, c.isDigit = false ∧ c ≠ '.' := by
    intro c hc
    cases hc
    rcases hx with rfl | rfl <;> decide
  have hzero : ∀ c ∈ ['0'], c.isDigit := List.forall_mem_singleton.2 rfl
  have hsplit := Split.whole hzero hmark
  have hbody : (splitSign ('0' :: x :: ds)).2 = ['0'] ++ x :: ds := rfl
  rw [signed_decimal_iff, hbody, hsplit.decimal_iff, ← exponent?_isSome_iff, exponent?,
    if_neg (by rcases hx with rfl | rfl <;> decide)]
  exact fun h => Bool.false_ne_true h.2

/-- A numeral with the prefix is a hexadecimal one. -/
theorem hostNumeral_iff_hexDigits {ds : List Char} (h : hexBody? cs = some ds) :
    HostNumeral cs ↔ HexDigits ds := by
  have hmark : ∃ x, (x = 'x' ∨ x = 'X') ∧ cs = '0' :: x :: ds := by
    unfold hexBody? at h
    split at h
    · cases h
      exact ⟨'x', .inl rfl, rfl⟩
    · cases h
      exact ⟨'X', .inr rfl, rfl⟩
    · cases h
  constructor
  · rintro (_ | hword | hhex | hsigned)
    · cases h
    · rcases signed_infinity_iff.1 hword with (rfl | rfl) | rfl <;> cases h
    · obtain ⟨ds', hds, hdigits⟩ := prefixed_iff.1 hhex
      obtain rfl : ds = ds' := Option.some.inj (h.symm.trans hds)
      exact hdigits
    · obtain ⟨x, hx, rfl⟩ := hmark
      exact absurd hsigned (not_signed_decimal_of_mark hx ds)
  · intro hdigits
    exact .hexadecimal (prefixed_iff.2 ⟨ds, h, hdigits⟩)

theorem isNaN_parseTrimmed_of_some {ds : List Char} (h : hexBody? cs = some ds) :
    (parseTrimmed cs).isNaN = false ↔ (word? hex? ds).isSome := by
  have hne : ¬ cs.isEmpty = true := by
    intro hempty
    rw [List.isEmpty_iff.1 hempty] at h
    cases h
  have hword : ¬ ((cs = "Infinity".toList ∨ cs = "+Infinity".toList) ∨ cs = "-Infinity".toList) := by
    rintro ((rfl | rfl) | rfl) <;> cases h
  rw [parseTrimmed, if_neg hne, if_neg (not_or.1 hword).1, if_neg (not_or.1 hword).2, h]
  dsimp only
  cases hread : word? hex? ds with
  | none => exact iff_of_false (by decide) Bool.false_ne_true
  | some n => exact iff_of_true (isNaN_word hread) rfl

theorem isNaN_parseTrimmed (cs : List Char) : (parseTrimmed cs).isNaN = false ↔
    HostNumeral cs ∧ ¬ Prefixed Oversized cs ∨ Prefixed PlusWord cs := by
  cases h : hexBody? cs with
  | none =>
    have hprefixed (P : List Char → Prop) : ¬ Prefixed P cs := by
      intro hP
      obtain ⟨ds, hds, -⟩ := prefixed_iff.1 hP
      rw [h] at hds
      cases hds
    rw [isNaN_parseTrimmed_of_none h, and_iff_left (hprefixed _), or_iff_left (hprefixed _)]
  | some ds =>
    have hprefixed (P : List Char → Prop) : Prefixed P cs ↔ P ds := by
      rw [prefixed_iff, h]
      simp
    rw [isNaN_parseTrimmed_of_some h, word?_isSome_iff, hostNumeral_iff_hexDigits h, hprefixed,
      hprefixed]

theorem Prefixed.imp {Q : List Char → Prop} (h : Prefixed P cs) (hPQ : ∀ ds, P ds → Q ds) :
    Prefixed Q cs := by
  obtain ⟨ds, hds, hP⟩ := prefixed_iff.1 h
  exact prefixed_iff.2 ⟨ds, hds, hPQ ds hP⟩

theorem HostNumeral.of_oversized (h : Prefixed Oversized cs) : HostNumeral cs :=
  .hexadecimal (h.imp fun _ hds => by
    obtain ⟨n, hn, -⟩ := hds
    exact hex?_isSome_iff.1 (Option.isSome_of_eq_some hn))

/-- A plus sign is no digit. -/
theorem not_hostNumeral_of_plusWord (h : Prefixed PlusWord cs) : ¬ HostNumeral cs := by
  obtain ⟨ds, hds, rest, n, rfl, -⟩ := prefixed_iff.1 h
  rw [hostNumeral_iff_hexDigits hds]
  exact fun hdigits => absurd (hdigits.2 '+' List.mem_cons_self) (by unfold IsHexDigit; decide)

/-! ## Characters -/

/-- The characters of numerals are letters, digits, signs and the point. -/
def IsNumeralChar (c : Char) : Prop := c.isAlphanum ∨ c = '+' ∨ c = '-' ∨ c = '.'

theorem isNumeralChar_of_isDigit {c : Char} (h : c.isDigit) : IsNumeralChar c :=
  .inl (by simp [Char.isAlphanum, h])

theorem isNumeralChar_of_isHexDigit {c : Char} (h : IsHexDigit c) : IsNumeralChar c := by
  left
  simp only [Char.isAlphanum, Char.isAlpha, Char.isUpper, Char.isLower, Char.isDigit, Bool.or_eq_true,
    Bool.and_eq_true, decide_eq_true_eq, ge_iff_le, UInt32.le_iff_toNat_le]
  rcases h with h | h | h
  · exact .inr h
  · have hlow : 97 ≤ c.val.toNat := h.1
    have hhigh : c.val.toNat ≤ 102 := h.2
    exact .inl (.inr ⟨hlow, Nat.le_trans hhigh (by decide)⟩)
  · have hlow : 65 ≤ c.val.toNat := h.1
    have hhigh : c.val.toNat ≤ 70 := h.2
    exact .inl (.inl ⟨hlow, Nat.le_trans hhigh (by decide)⟩)

theorem Signed.isNumeralChar (h : Signed P cs) (hP : ∀ ds, P ds → ∀ c ∈ ds, IsNumeralChar c) :
    ∀ c ∈ cs, IsNumeralChar c := by
  rcases h with h | h | h
  · exact hP _ h
  · exact List.forall_mem_cons.2 ⟨.inr (.inl rfl), hP _ h⟩
  · exact List.forall_mem_cons.2 ⟨.inr (.inr (.inl rfl)), hP _ h⟩

theorem Prefixed.isNumeralChar (h : Prefixed P cs) (hP : ∀ ds, P ds → ∀ c ∈ ds, IsNumeralChar c) :
    ∀ c ∈ cs, IsNumeralChar c := by
  rcases h with h | h
  · exact List.forall_mem_cons.2 ⟨.inl rfl, List.forall_mem_cons.2 ⟨.inl rfl, hP _ h⟩⟩
  · exact List.forall_mem_cons.2 ⟨.inl rfl, List.forall_mem_cons.2 ⟨.inl rfl, hP _ h⟩⟩

theorem Digits.isNumeralChar (h : Digits cs) : ∀ c ∈ cs, IsNumeralChar c := fun c hc =>
  isNumeralChar_of_isDigit (h.2 c hc)

theorem HexDigits.isNumeralChar (h : HexDigits cs) : ∀ c ∈ cs, IsNumeralChar c := fun c hc =>
  isNumeralChar_of_isHexDigit (h.2 c hc)

theorem Significand.isNumeralChar (h : Significand cs) : ∀ c ∈ cs, IsNumeralChar c := by
  have hpoint : IsNumeralChar '.' := .inr (.inr (.inr rfl))
  cases h with
  | whole h => exact h.isNumeralChar
  | point h hd =>
    exact List.forall_mem_append.2 ⟨h.isNumeralChar,
      List.forall_mem_cons.2 ⟨hpoint, fun c hc => isNumeralChar_of_isDigit (hd c hc)⟩⟩
  | fraction h => exact List.forall_mem_cons.2 ⟨hpoint, h.isNumeralChar⟩

theorem Exponent.isNumeralChar (h : Exponent cs) : ∀ c ∈ cs, IsNumeralChar c := by
  cases h with
  | none => exact List.forall_mem_nil _
  | lower h | upper h =>
    exact List.forall_mem_cons.2 ⟨.inl rfl, h.isNumeralChar fun _ => Digits.isNumeralChar⟩

theorem Decimal.isNumeralChar (h : Decimal cs) : ∀ c ∈ cs, IsNumeralChar c := by
  obtain ⟨h, he⟩ := h
  exact List.forall_mem_append.2 ⟨h.isNumeralChar, he.isNumeralChar⟩

theorem HostNumeral.isNumeralChar (h : HostNumeral cs) : ∀ c ∈ cs, IsNumeralChar c := by
  cases h with
  | empty => exact List.forall_mem_nil _
  | infinity h =>
    refine h.isNumeralChar ?_
    rintro _ rfl c hc
    have hletters : "Infinity".toList.all Char.isAlphanum = true := rfl
    exact .inl (List.all_eq_true.1 hletters c hc)
  | hexadecimal h => exact h.isNumeralChar fun _ => HexDigits.isNumeralChar
  | decimal h => exact h.isNumeralChar fun _ => Decimal.isNumeralChar

theorem PlusWord.isNumeralChar (h : PlusWord cs) : ∀ c ∈ cs, IsNumeralChar c := by
  obtain ⟨ds, n, rfl, hn, -⟩ := h
  have hdigits : HexDigits ds := hex?_isSome_iff.1 (Option.isSome_of_eq_some hn)
  exact List.forall_mem_cons.2 ⟨.inr (.inl rfl), hdigits.isNumeralChar⟩

/-- A text with another character is no number. -/
theorem parse_eq_nan_of_mem {c : Char} (hc : c ∈ cs) (hblank : isBlank c = false)
    (hchar : ¬ IsNumeralChar c) : parse cs = nan := by
  refine eq_nan_of_isNaN ?_
  rw [parse, ← Bool.not_eq_false, isNaN_parseTrimmed]
  have htrim := mem_trim hc hblank
  rintro (h | h)
  · exact hchar (h.1.isNumeralChar c htrim)
  · exact hchar (h.isNumeralChar (fun _ => PlusWord.isNumeralChar) c htrim)

end Criteria.Number

namespace Criteria

open Number Text

theorem Store.number_str (s : Store) (t : String) : s.number (.str t) = parse t.toList := by
  rw [number, datum, unfold, Datum.number]

/-- **Numeric texts.** A text denotes a number exactly when it is a numeral of the host language, blanks
around it aside, but for two sorts of hexadecimal texts: numerals beyond a word denote none, and words with
a plus sign before their digits denote one. For all other texts the conversion keeps to the grammar, and
only for those. -/
theorem number_of_text (s : Store) (t : String) :
    ((s.number (.str t)).isNaN = false ↔
      HostNumeral (trim t.toList) ∧ ¬ Prefixed Oversized (trim t.toList) ∨
        Prefixed PlusWord (trim t.toList)) ∧
    (((s.number (.str t)).isNaN = false ↔ HostNumeral (trim t.toList)) ↔
      ¬ Prefixed Oversized (trim t.toList) ∧ ¬ Prefixed PlusWord (trim t.toList)) := by
  rw [s.number_str, parse, isNaN_parseTrimmed]
  refine ⟨Iff.rfl, ?_⟩
  by_cases hsize : Prefixed Oversized (trim t.toList)
  · have hnumeral := HostNumeral.of_oversized hsize
    have hplus : ¬ Prefixed PlusWord (trim t.toList) := fun h => not_hostNumeral_of_plusWord h hnumeral
    simp [hsize, hnumeral, hplus]
  by_cases hplus : Prefixed PlusWord (trim t.toList)
  · simp [hsize, hplus, not_hostNumeral_of_plusWord hplus]
  · simp [hsize, hplus]

/-- A text with a plus sign between the prefix and the digits is no numeral and denotes a number, and the
number past the largest word in hexadecimal digits is a numeral and denotes none. -/
theorem hexadecimal_beside_grammar :
    (({} : Store).number (.str "0x+ff")).isNaN = false ∧ ¬ HostNumeral (trim "0x+ff".toList) ∧
      (({} : Store).number (.str "0x10000000000000000")).isNaN = true ∧
      HostNumeral (trim "0x10000000000000000".toList) := by
  have hplus : Prefixed PlusWord (trim "0x+ff".toList) := .lower ⟨"ff".toList, 255, rfl, rfl, by decide⟩
  have hsize : Prefixed Oversized (trim "0x10000000000000000".toList) :=
    .lower ⟨wordLimit, rfl, Nat.le_refl _⟩
  have hnumeral := HostNumeral.of_oversized hsize
  refine ⟨?_, not_hostNumeral_of_plusWord hplus, ?_, hnumeral⟩
  · rw [Store.number_str, parse, isNaN_parseTrimmed]
    exact .inr hplus
  · rw [Store.number_str, parse, ← Bool.not_eq_false, isNaN_parseTrimmed]
    rintro (h | h)
    · exact h.2 hsize
    · exact not_hostNumeral_of_plusWord h hnumeral

end Criteria
