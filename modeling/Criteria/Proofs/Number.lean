import Criteria.Number.Text
import Mathlib

/-!
# Doubles

What the comparisons of doubles say, by way of the unpacked form that they are defined on, and how a
double is written.

* `beq_comm`, `beq_trans`, `beq_self` — equality.
* `lt_zero_iff` — a double is below zero when its parts say so.
* `Reads` — digits with an optional fraction, and the decimal that they denote.
* `reads_positional_of_nonneg`, `reads_positional_of_neg` — positional notation.
* `format_eq` — the text of a double: a minus sign if it is below zero, and a word or a numeral.
-/

set_option autoImplicit false

namespace Criteria.Number

open Float.Model

/-! ## Equality -/

theorem beq_finite {s t : UnpackedFloat.Sign} {m n : Nat} {e f : Int} {hm : 0 < m} {hn : 0 < n} :
    (UnpackedFloat.finite s m e hm).beq (.finite t n f hn) = true ↔ s = t ∧ e = f ∧ m = n := by
  cases s <;> cases t <;> simp [UnpackedFloat.beq, UnpackedFloat.compare]

/-- The number with a zero made positive. -/
def withoutZeroSign : UnpackedFloat → UnpackedFloat
  | .zero _ => .zero .positive
  | x => x

/-- Equality disregards the sign of a zero and relates NaN to nothing. -/
theorem unpacked_beq_iff (x y : UnpackedFloat) : x.beq y = true ↔
    withoutZeroSign x = withoutZeroSign y ∧ (withoutZeroSign x).isNaN = false := by
  cases x with
  | notANumber => cases y <;> simp [UnpackedFloat.beq, UnpackedFloat.compare, withoutZeroSign,
      UnpackedFloat.isNaN]
  | infinity s | zero s =>
    cases y with
    | notANumber => cases s <;> simp [UnpackedFloat.beq, UnpackedFloat.compare, withoutZeroSign]
    | infinity t | zero t | finite t n f hn =>
      cases s <;> cases t <;> simp [UnpackedFloat.beq, UnpackedFloat.compare, withoutZeroSign,
        UnpackedFloat.isNaN] <;> rfl
  | finite s m e hm =>
    cases y with
    | notANumber => cases s <;> simp [UnpackedFloat.beq, UnpackedFloat.compare, withoutZeroSign]
    | infinity t | zero t =>
      cases s <;> cases t <;> simp [UnpackedFloat.beq, UnpackedFloat.compare, withoutZeroSign]
    | finite t n f hn =>
      simp [beq_finite, withoutZeroSign, UnpackedFloat.isNaN, and_comm]

theorem unpacked_beq_comm (x y : UnpackedFloat) : x.beq y = y.beq x := by
  rw [Bool.eq_iff_iff, unpacked_beq_iff, unpacked_beq_iff]
  exact ⟨fun ⟨heq, hnan⟩ => ⟨heq.symm, heq ▸ hnan⟩, fun ⟨heq, hnan⟩ => ⟨heq.symm, heq ▸ hnan⟩⟩

theorem unpacked_beq_self (x : UnpackedFloat) : x.beq x = !x.isNaN := by
  rw [Bool.eq_iff_iff, unpacked_beq_iff, Bool.not_eq_true']
  cases x <;> simp [withoutZeroSign, UnpackedFloat.isNaN]

/-- Equality of doubles is symmetric. -/
theorem beq_comm (x y : Float) : (x == y) = (y == x) :=
  unpacked_beq_comm x.toModel.unpack y.toModel.unpack

/-- Equality of doubles is transitive. -/
theorem beq_trans {x y z : Float} (hxy : (x == y) = true) (hyz : (y == z) = true) :
    (x == z) = true :=
  have ⟨hxy, hnan⟩ := (unpacked_beq_iff _ _).1 hxy
  (unpacked_beq_iff _ _).2 ⟨hxy.trans ((unpacked_beq_iff _ _).1 hyz).1, hnan⟩

/-- Only NaN is different from itself. -/
theorem beq_self (x : Float) : (x == x) = !x.isNaN := unpacked_beq_self x.toModel.unpack

/-! ## Sign -/

section Sign

variable (x : Float)

/-- The bits of a double, as the comparisons see them. -/
abbrev packed : BitVec Format.binary64.numBits := x.toBits.toBitVec

theorem unpackMantissa_eq_zero_iff :
    UnpackedFloat.unpackMantissa (packed x) = 0#_ ↔ x.toBits.toNat % hiddenBit = 0 := by
  rw [← BitVec.toNat_inj]
  simp [UnpackedFloat.unpackMantissa, hiddenBit]

theorem toNat_unpackExponent : (UnpackedFloat.unpackExponent (packed x)).toNat =
    x.toBits.toNat / hiddenBit % 2048 := by
  simp [UnpackedFloat.unpackExponent, hiddenBit, Nat.shiftRight_eq_div_pow]

theorem unpackExponent_eq_ones_iff :
    UnpackedFloat.unpackExponent (packed x) = -1#_ ↔ x.toBits.toNat / hiddenBit % 2048 = 2047 := by
  rw [← BitVec.toNat_inj, toNat_unpackExponent]
  simp

theorem unpackExponent_eq_zero_iff :
    UnpackedFloat.unpackExponent (packed x) = 0#_ ↔ x.toBits.toNat / hiddenBit % 2048 = 0 := by
  rw [← BitVec.toNat_inj, toNat_unpackExponent]
  simp

theorem ofBitVec_unpackSign : UnpackedFloat.Sign.ofBitVec (UnpackedFloat.unpackSign (packed x)) =
    if signBit ≤ x.toBits.toNat then .negative else .positive := by
  have hlt := x.toBits.toNat_lt
  have htop : (UnpackedFloat.unpackSign (packed x)).toNat = x.toBits.toNat / signBit := by
    simp [UnpackedFloat.unpackSign, signBit, Nat.shiftRight_eq_div_pow]
    omega
  have hzero : UnpackedFloat.unpackSign (packed x) = 0#1 ↔ ¬ signBit ≤ x.toBits.toNat := by
    rw [← BitVec.toNat_inj, htop, BitVec.toNat_ofNat, signBit]
    omega
  simp only [UnpackedFloat.Sign.ofBitVec, hzero, ite_not]

/-- Whether the parts are those of a number below zero. -/
def Parts.isNegative : Parts → Bool
  | .nan => false
  | .infinite negative => negative
  | .finite negative m _ => negative && m != 0

/-- Whether an unpacked number is below zero. -/
def unpackedIsNegative : UnpackedFloat → Bool
  | .infinity s => s == .negative
  | .finite s _ _ _ => s == .negative
  | _ => false

theorem sign_beq_negative {p : Prop} [Decidable p] :
    ((if p then .negative else .positive : UnpackedFloat.Sign) == .negative) = decide p := by
  by_cases hp : p
  · rw [if_pos hp, decide_eq_true hp]
    rfl
  · rw [if_neg hp, decide_eq_false hp]
    rfl

theorem unpackedIsNegative_unpack :
    unpackedIsNegative x.toModel.unpack = (Parts.ofFloat x).isNegative := by
  have hunpack : x.toModel.unpack = UnpackedFloat.unpack .binary64 (packed x) := rfl
  have hsign := ofBitVec_unpackSign x
  have hmantissa := unpackMantissa_eq_zero_iff x
  have hones := unpackExponent_eq_ones_iff x
  have hzero := unpackExponent_eq_zero_iff x
  rw [hunpack, UnpackedFloat.unpack, Parts.ofFloat]
  simp only [hsign, hmantissa, hones, hzero]
  split
  · split <;> simp [unpackedIsNegative, Parts.isNegative, sign_beq_negative]
  split
  · split <;> simp_all [unpackedIsNegative, Parts.isNegative, sign_beq_negative]
  · simp [unpackedIsNegative, Parts.isNegative, sign_beq_negative, hiddenBit]

theorem lt_zero_iff_unpacked : x < 0 ↔ unpackedIsNegative x.toModel.unpack = true := by
  have hzero : (0 : Float).toModel.unpack = .zero .positive := rfl
  have hlt : x < 0 ↔ x.toModel.unpack.lt (.zero .positive) = true := by
    rw [← hzero]
    exact decide_eq_true_iff
  rw [hlt]
  cases x.toModel.unpack with
  | notANumber | zero s => exact ⟨nofun, nofun⟩
  | infinity s | finite s m e hm => cases s <;> exact ⟨fun h => h, fun h => h⟩

/-- A double is below zero when it has a sign and is neither zero nor NaN. -/
theorem lt_zero_iff : x < 0 ↔ (Parts.ofFloat x).isNegative = true := by
  rw [lt_zero_iff_unpacked, unpackedIsNegative_unpack]

end Sign

/-! ## Text -/

/-- Digits, with a fraction or without. -/
def IsNumeral (cs : List Char) : Prop :=
  ∃ c whole, c.isDigit ∧ (∀ d ∈ whole, d.isDigit) ∧ (cs = c :: whole ∨
    ∃ d fraction, d.isDigit ∧ (∀ e ∈ fraction, e.isDigit) ∧ cs = c :: whole ++ '.' :: d :: fraction)

namespace IsNumeral

/-- A numeral starts with a digit. -/
theorem exists_cons {cs : List Char} (h : IsNumeral cs) : ∃ c rest, cs = c :: rest ∧ c.isDigit := by
  obtain ⟨c, whole, hc, -, rfl | ⟨d, fraction, -, -, rfl⟩⟩ := h
  · exact ⟨c, whole, rfl, hc⟩
  · exact ⟨c, _, rfl, hc⟩

end IsNumeral

/-- Digits, at least one. -/
def Digits (cs : List Char) : Prop := cs ≠ [] ∧ ∀ c ∈ cs, c.isDigit

/-- Digits with an optional fraction denote a decimal `n · 10^j`. -/
inductive Reads : List Char → Nat → Int → Prop where
  | whole {cs : List Char} (h : Digits cs) : Reads cs (Nat.ofDigitChars 10 cs 0) 0
  | point {cs ds : List Char} (h : Digits cs) (hd : Digits ds) :
    Reads (cs ++ '.' :: ds) (Nat.ofDigitChars 10 (cs ++ ds) 0) (-ds.length)

/-- The text of a decimal is a numeral. -/
theorem Reads.isNumeral {cs : List Char} {n : Nat} {j : Int} (h : Reads cs n j) : IsNumeral cs := by
  cases h with
  | whole h =>
    obtain ⟨c, rest, rfl⟩ := List.exists_cons_of_ne_nil h.1
    obtain ⟨hc, hrest⟩ := List.forall_mem_cons.1 h.2
    exact ⟨c, rest, hc, hrest, .inl rfl⟩
  | point h hd =>
    obtain ⟨c, rest, rfl⟩ := List.exists_cons_of_ne_nil h.1
    obtain ⟨d, fraction, rfl⟩ := List.exists_cons_of_ne_nil hd.1
    obtain ⟨hc, hrest⟩ := List.forall_mem_cons.1 h.2
    obtain ⟨hd, hfraction⟩ := List.forall_mem_cons.1 hd.2
    exact ⟨c, rest, hc, hrest, .inr ⟨d, fraction, hd, hfraction, rfl⟩⟩

theorem isDigit_toDigits (n : Nat) : ∀ c ∈ Nat.toDigits 10 n, c.isDigit := fun _ hc =>
  Nat.isDigit_of_mem_toDigits (by decide) (by decide) hc

theorem exists_digit (n : Nat) : ∃ c rest, Nat.toDigits 10 n = c :: rest ∧ c.isDigit := by
  obtain ⟨c, rest, hdigits⟩ := List.exists_cons_of_ne_nil (Nat.toDigits_ne_nil (n := n) (b := 10))
  exact ⟨c, rest, hdigits, isDigit_toDigits n c (hdigits ▸ List.mem_cons_self)⟩

theorem reads_toDigits (n : Nat) : Reads (Nat.toDigits 10 n) n 0 := by
  have hreads := Reads.whole ⟨Nat.toDigits_ne_nil, isDigit_toDigits n⟩
  rwa [Nat.ofDigitChars_ten_toDigits] at hreads

theorem isDigit_zeros (z : Nat) : ∀ c ∈ List.replicate z '0', c.isDigit := by
  intro c hc
  rw [List.eq_of_mem_replicate hc]
  rfl

/-- Zeros behind the digits. -/
theorem reads_positional_of_nonneg (n : Nat) {k : Int} (hk : 0 ≤ k) :
    Reads (positional n k) (10 ^ k.toNat * n) 0 := by
  have hdigits : Digits (Nat.toDigits 10 n ++ List.replicate k.toNat '0') :=
    ⟨List.append_ne_nil_of_left_ne_nil Nat.toDigits_ne_nil _,
      List.forall_mem_append.2 ⟨isDigit_toDigits n, isDigit_zeros _⟩⟩
  have hreads := Reads.whole hdigits
  rw [Nat.ofDigitChars_append, Nat.ofDigitChars_ten_toDigits, Nat.ofDigitChars_replicate_zero] at hreads
  rw [positional, if_pos hk]
  exact hreads

/-- A point and zeros before digits. -/
theorem Digits.reads_behind_zeros {ds : List Char} (h : Digits ds) (z : Nat) :
    Reads ('0' :: '.' :: (List.replicate z '0' ++ ds)) (Nat.ofDigitChars 10 ds 0)
      (-(z + ds.length : Nat)) := by
  have hfraction : Digits (List.replicate z '0' ++ ds) :=
    ⟨List.append_ne_nil_of_right_ne_nil _ h.1, List.forall_mem_append.2 ⟨isDigit_zeros z, h.2⟩⟩
  have hreads := Reads.point ⟨List.cons_ne_nil '0' [], isDigit_zeros 1⟩ hfraction
  rw [Nat.ofDigitChars_append, Nat.ofDigitChars_append, Nat.ofDigitChars_replicate_zero,
    List.length_append, List.length_replicate] at hreads
  exact hreads

/-- A point among digits. -/
theorem Digits.reads_split {ds : List Char} (h : Digits ds) {places : Nat} (hpos : 0 < places)
    (hlt : places < ds.length) :
    Reads (ds.take (ds.length - places) ++ '.' :: ds.drop (ds.length - places))
      (Nat.ofDigitChars 10 ds 0) (-places) := by
  have hwhole : Digits (ds.take (ds.length - places)) := by
    refine ⟨?_, fun c hc => h.2 c (List.mem_of_mem_take hc)⟩
    rw [Ne, List.take_eq_nil_iff, not_or]
    exact ⟨by omega, h.1⟩
  have hfraction : Digits (ds.drop (ds.length - places)) := by
    refine ⟨?_, fun c hc => h.2 c (List.mem_of_mem_drop hc)⟩
    rw [Ne, List.drop_eq_nil_iff]
    omega
  have hlength : (ds.drop (ds.length - places)).length = places := by
    rw [List.length_drop]
    omega
  have hreads := Reads.point hwhole hfraction
  rwa [List.take_append_drop, hlength] at hreads

/-- A point among the digits, or before them and zeros. -/
theorem reads_positional_of_neg (n : Nat) {k : Int} (hk : ¬ 0 ≤ k) : Reads (positional n k) n k := by
  have hdigits : Digits (Nat.toDigits 10 n) := ⟨Nat.toDigits_ne_nil, isDigit_toDigits n⟩
  have hplaces : -((-k).toNat : Int) = k := by omega
  rw [positional, if_neg hk]
  dsimp only
  split
  · rename_i hle
    have hreads := hdigits.reads_behind_zeros ((-k).toNat - (Nat.toDigits 10 n).length)
    rwa [Nat.ofDigitChars_ten_toDigits, Nat.sub_add_cancel hle, hplaces] at hreads
  · have hpos : 0 < (-k).toNat := by omega
    have hreads := hdigits.reads_split hpos (by omega)
    rwa [Nat.ofDigitChars_ten_toDigits, hplaces] at hreads

theorem isNumeral_toDigits (n : Nat) : IsNumeral (Nat.toDigits 10 n) :=
  (reads_toDigits n).isNumeral

theorem isNumeral_positional (n : Nat) (k : Int) : IsNumeral (positional n k) := by
  by_cases hk : 0 ≤ k
  · exact (reads_positional_of_nonneg n hk).isNumeral
  · exact (reads_positional_of_neg n hk).isNumeral

theorem isNumeral_formatMagnitude (m : Nat) (e : Int) : IsNumeral (formatMagnitude m e) := by
  rw [formatMagnitude]
  split
  · exact isNumeral_toDigits _
  · exact isNumeral_positional _ _

/-- The text of a double has a minus sign if it is below zero; the rest is a numeral or one of two
words. -/
theorem format_eq (x : Float) : ∃ text : String,
    format x = (if x < 0 then "-" ++ text else text) ∧
      (text = "NaN" ∨ text = "Infinity" ∨ IsNumeral text.toList) := by
  simp only [lt_zero_iff]
  rw [format]
  cases Parts.ofFloat x with
  | nan => exact ⟨"NaN", rfl, .inl rfl⟩
  | infinite negative => cases negative <;> exact ⟨"Infinity", rfl, .inr (.inl rfl)⟩
  | finite negative m e =>
    have hmagnitude : IsNumeral (String.ofList (formatMagnitude m e)).toList := by
      rw [String.toList_ofList]
      exact isNumeral_formatMagnitude m e
    by_cases hm : m = 0
    · have hzero : IsNumeral "0".toList := isNumeral_toDigits 0
      refine ⟨"0", ?_, .inr (.inr hzero)⟩
      simp [hm, Parts.isNegative]
    · refine ⟨String.ofList (formatMagnitude m e), ?_, .inr (.inr hmagnitude)⟩
      simp [hm, Parts.isNegative]

end Criteria.Number
