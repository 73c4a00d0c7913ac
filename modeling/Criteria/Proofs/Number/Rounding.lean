import Criteria.Proofs.Number.Packing

/-!
# The double nearest to an integer

An integer is converted to the nearest double: the nearest number with 53 significant bits, of two that
are equally near the one whose last bit is zero. Numbers below `2 ^ 53` are converted exactly, larger
ones to a number that is no less than that.

* `roundShift` — a quotient by a power of two, rounded.
* `nearest` — the nearest number with 53 significant bits.
* `shows_ofNat`, `shows_ofInt` — the double of a number is the nearest one.
* `ofInt_beq_iff` — integers with equal doubles.
* `large_of_beq` — different integers that equal one double are `2 ^ 53` or more in magnitude.
-/

set_option autoImplicit false

namespace Criteria.Number

open Float.Model UnpackedFloat

/-! ## Rounding -/

/-- The quotient by `2 ^ t`, rounded to the nearest integer, halfway between two to the even one. -/
def roundShift (n t : Nat) : Nat :=
  let q := n / 2 ^ t
  let r := n % 2 ^ t
  if 2 * r < 2 ^ t then q else if 2 * r = 2 ^ t then q + q % 2 else q + 1

/-- The number of bits behind the first 53. -/
def excess (n : Nat) : Nat := n.log2 - 52

/-- The nearest number with 53 significant bits. -/
def nearest (n : Nat) : Nat := roundShift n (excess n) * 2 ^ excess n

theorem roundShift_zero (n : Nat) : roundShift n 0 = n := by
  simp [roundShift, Nat.mod_one]

theorem roundShift_bounds (n t : Nat) :
    n / 2 ^ t ≤ roundShift n t ∧ roundShift n t ≤ n / 2 ^ t + 1 := by
  unfold roundShift
  dsimp only
  split
  · omega
  split
  · omega
  · omega

/-- A factor that is shifted away does not matter. -/
theorem roundShift_mul (n t s : Nat) : roundShift (n * 2 ^ s) (t + s) = roundShift n t := by
  have hpos : 0 < 2 ^ s := Nat.two_pow_pos s
  have hmul : 2 * (n % 2 ^ t * 2 ^ s) = 2 * (n % 2 ^ t) * 2 ^ s := (Nat.mul_assoc ..).symm
  unfold roundShift
  simp only [Nat.pow_add, Nat.mul_div_mul_right _ _ hpos, Nat.mul_mod_mul_right, hmul,
    Nat.mul_lt_mul_right hpos, Nat.mul_left_inj (Nat.ne_of_gt hpos)]

theorem nearest_of_lt {n : Nat} (h : n < 2 ^ 53) : nearest n = n := by
  have hexcess : excess n = 0 := by
    by_cases hn : n = 0
    · rw [hn]
      rfl
    · have hlog := (Nat.log2_lt hn).2 h
      rw [excess]
      omega
  rw [nearest, hexcess, roundShift_zero, Nat.pow_zero, Nat.mul_one]

theorem le_nearest {n : Nat} (h : 2 ^ 53 ≤ n) : 2 ^ 53 ≤ nearest n := by
  have hn : n ≠ 0 := by
    rintro rfl
    exact absurd h (by decide)
  have hlog : 53 ≤ n.log2 := (Nat.le_log2 hn).2 h
  have hsplit : 2 ^ n.log2 = 2 ^ 52 * 2 ^ excess n := by
    rw [← Nat.pow_add, excess]
    congr 1
    omega
  have hquotient : 2 ^ 52 ≤ n / 2 ^ excess n := by
    rw [Nat.le_div_iff_mul_le (Nat.two_pow_pos _), ← hsplit]
    exact Nat.log2_self_le hn
  calc 2 ^ 53 ≤ 2 ^ n.log2 := Nat.pow_le_pow_right (by decide) hlog
    _ = 2 ^ 52 * 2 ^ excess n := hsplit
    _ ≤ nearest n := Nat.mul_le_mul_right _ (hquotient.trans (roundShift_bounds n _).1)

/-- Numbers with the same nearest number are the same, or both are too large to be converted exactly. -/
theorem eq_or_large_of_nearest {n m : Nat} (h : nearest n = nearest m) :
    n = m ∨ 2 ^ 53 ≤ n ∧ 2 ^ 53 ≤ m := by
  by_cases hn : n < 2 ^ 53 <;> by_cases hm : m < 2 ^ 53
  · rw [nearest_of_lt hn, nearest_of_lt hm] at h
    exact .inl h
  · have hle := le_nearest (Nat.le_of_not_lt hm)
    rw [← h, nearest_of_lt hn] at hle
    omega
  · have hle := le_nearest (Nat.le_of_not_lt hn)
    rw [h, nearest_of_lt hm] at hle
    omega
  · exact .inr ⟨Nat.le_of_not_lt hn, Nat.le_of_not_lt hm⟩

/-! ## Shifting a mantissa -/

/-- The bits that are dropped: whether the first one is set, and whether one of the others is. -/
theorem shiftRight_exact (m t : Nat) : (ExtendedMantissa.mk m false false) >>> t =
    ⟨m / 2 ^ t, decide (2 ^ t ≤ 2 * (m % 2 ^ t)), decide (2 * (m % 2 ^ t) % 2 ^ t ≠ 0)⟩ := by
  induction t with
  | zero => simp [HShiftRight.hShiftRight, Nat.repeat, Nat.mod_one]
  | succ t ih =>
    have hr := Nat.mod_lt m (Nat.two_pow_pos t)
    have hquotient : m / 2 ^ (t + 1) = m / 2 ^ t / 2 := by
      rw [Nat.pow_succ, Nat.div_div_eq_div_mul]
    have hrest : m % 2 ^ (t + 1) = m % 2 ^ t + 2 ^ t * (m / 2 ^ t % 2) := Nat.mod_pow_succ
    have hfirst : (m / 2 ^ t % 2 != 0) = decide (2 ^ (t + 1) ≤ 2 * (m % 2 ^ (t + 1))) := by
      rw [Bool.eq_iff_iff, bne_iff_ne, decide_eq_true_iff, hrest, Nat.pow_succ]
      rcases Nat.mod_two_eq_zero_or_one (m / 2 ^ t) with hbit | hbit <;> rw [hbit] <;> omega
    have hothers : 2 * (m % 2 ^ (t + 1)) % 2 ^ (t + 1) = 2 * (m % 2 ^ t) := by
      rw [hrest, Nat.pow_succ', Nat.mul_mod_mul_left, Nat.add_mul_mod_self_left, Nat.mod_mod]
    show ExtendedMantissa.shiftRightOne (ExtendedMantissa.mk m false false >>> t) = _
    rw [ih, ExtendedMantissa.shiftRightOne, ← hfirst, hothers, hquotient]
    generalize m % 2 ^ t = r at *
    congr 1
    -- some bit was set before just when the first one or one of the others was
    by_cases hzero : r = 0
    · simp [hzero]
    · by_cases hhalf : 2 ^ t ≤ 2 * r
      · simp [hhalf, hzero]
      · rw [Nat.mod_eq_of_lt (Nat.lt_of_not_le hhalf)]
        simp [hhalf]

theorem roundedMantissa_shiftRight (m t : Nat) :
    ((ExtendedMantissa.mk m false false) >>> t).roundedMantissa = roundShift m t := by
  have hr := Nat.mod_lt m (Nat.two_pow_pos t)
  rw [shiftRight_exact, ExtendedMantissa.roundedMantissa, roundShift]
  dsimp only
  generalize m % 2 ^ t = r at *
  rcases Nat.lt_trichotomy (2 * r) (2 ^ t) with hlt | heq | hgt
  · have hfirst : ¬ 2 ^ t ≤ 2 * r := Nat.not_le_of_lt hlt
    rw [if_pos hlt, Nat.mod_eq_of_lt hlt, decide_eq_false hfirst]
    by_cases hzero : 2 * r ≠ 0 <;> simp [hzero, ExtendedMantissa.accuracy, Accuracy.roundToNearestEven]
  · rw [if_neg (Nat.not_lt_of_le heq.ge), if_pos heq, heq, Nat.mod_self, decide_eq_true (Nat.le_refl _)]
    rfl
  · have hrest : 2 * r % 2 ^ t ≠ 0 := by
      rw [Nat.mod_eq_sub_mod (Nat.le_of_lt hgt), Nat.mod_eq_of_lt (by omega)]
      omega
    rw [if_neg (Nat.not_lt_of_lt hgt), if_neg (Nat.ne_of_gt hgt), decide_eq_true (Nat.le_of_lt hgt),
      decide_eq_true hrest]
    rfl

/-! ## Numbers with 53 significant bits -/

/-- The unpacked number is a whole one with 53 significant bits, of this sign and magnitude. -/
def Shows (x : UnpackedFloat) (sign : Sign) (magnitude : Nat) : Prop :=
  ∃ (m E : Nat) (h : 0 < m), x = .finite sign m (E - 52) h ∧ 2 ^ 52 ≤ m ∧ m < 2 ^ 53 ∧ E ≤ 1000 ∧
    m * 2 ^ E = magnitude * 2 ^ 52

namespace Shows

variable {x y : UnpackedFloat} {s s' : Sign} {v v' : Nat}

/-- The mantissa leaves no choice for the exponent. -/
theorem exponent_le {m m' E E' : Nat} (hhigh : m < 2 ^ 53) (hlow' : 2 ^ 52 ≤ m')
    (h : m * 2 ^ E = m' * 2 ^ E') : E' ≤ E := by
  by_contra hlt
  obtain ⟨d, rfl⟩ := Nat.exists_eq_add_of_lt (Nat.lt_of_not_le hlt)
  have hm : m = m' * 2 ^ d * 2 := by
    refine Nat.eq_of_mul_eq_mul_right (Nat.two_pow_pos E) (h.trans ?_)
    rw [Nat.pow_succ, Nat.pow_add]
    ring
  have hd : m' ≤ m' * 2 ^ d := Nat.le_mul_of_pos_right m' (Nat.two_pow_pos d)
  omega

/-- Such numbers are equal when their signs and magnitudes are. -/
theorem beq_iff (hx : Shows x s v) (hy : Shows y s' v') : x.beq y = true ↔ s = s' ∧ v = v' := by
  obtain ⟨m, E, hm, rfl, hlow, hhigh, -, hv⟩ := hx
  obtain ⟨m', E', hm', rfl, hlow', hhigh', -, hv'⟩ := hy
  rw [beq_finite]
  refine and_congr_right fun _ => ⟨?_, ?_⟩
  · rintro ⟨hE, rfl⟩
    obtain rfl : E = E' := by omega
    exact Nat.eq_of_mul_eq_mul_right (Nat.two_pow_pos 52) (hv.symm.trans hv')
  · rintro rfl
    have hsame := hv.trans hv'.symm
    obtain rfl : E = E' :=
      Nat.le_antisymm (exponent_le hhigh' hlow hsame.symm) (exponent_le hhigh hlow' hsame)
    exact ⟨rfl, Nat.eq_of_mul_eq_mul_right (Nat.two_pow_pos E) hsame⟩

theorem neg (hx : Shows x s v) : Shows x.neg (-s) v := by
  obtain ⟨m, E, hm, rfl, h⟩ := hx
  exact ⟨m, E, hm, rfl, h⟩

/-- Packing and unpacking gives the same number again. -/
theorem unpack_pack (hx : Shows x s v) : (Float.Model.pack x).unpack = x := by
  obtain ⟨m, E, hm, rfl, hlow, hhigh, hE, -⟩ := hx
  exact unpack_pack_finite s hm ⟨hm, hhigh, by omega, by omega, .inl hlow⟩

end Shows

theorem targetExponent_eq (m : Nat) (e : Int) :
    Format.binary64.targetExponent (totalExponent m e) = max (m.log2 + e - 52) (-1074) := by
  have hbits : (Format.binary64.mantissaBits : Int) = 53 := rfl
  have hmin : Format.binary64.minExponent = -1074 := by decide
  rw [Format.targetExponent, totalExponent, hbits, hmin]
  omega

theorem shiftToTargetExponent_eq {m t : Nat} {e : Int} (h : m.log2 + e - 52 = e + t)
    (he : -1074 ≤ e + t) : shiftToTargetExponent Format.binary64 m e .exact =
      (ExtendedMantissa.mk m false false >>> t, e + t) := by
  have hshift : (max ((m.log2 : Int) + e - 52) (-1074) - e).toNat = t := by omega
  rw [shiftToTargetExponent, targetExponent_eq, shiftToExponent, hshift]
  rfl

theorem shows_roundWithAccuracy {s : Sign} {m t E v : Nat} {e : Int} (hm : m ≠ 0)
    (ht : m.log2 = 52 + t) (he : e + t = E - 52) (hE : E < 1000)
    (hv : roundShift m t * 2 ^ E = v * 2 ^ 52) :
    Shows (roundWithAccuracy Format.binary64 s m e .exact) s v := by
  have hfirst := shiftToTargetExponent_eq (m := m) (t := t) (e := e) (by omega) (by omega)
  rw [roundWithAccuracy, hfirst]
  dsimp only
  rw [roundedMantissa_shiftRight]
  have hlow : 2 ^ 52 ≤ m / 2 ^ t := by
    rw [Nat.le_div_iff_mul_le (Nat.two_pow_pos t), ← Nat.pow_add, ← ht]
    exact Nat.log2_self_le hm
  have hhigh : m / 2 ^ t < 2 ^ 53 := by
    rw [Nat.div_lt_iff_lt_mul (Nat.two_pow_pos t), ← Nat.pow_add]
    refine (Nat.log2_lt hm).1 ?_
    omega
  obtain ⟨hfloor, hceil⟩ := roundShift_bounds m t
  generalize roundShift m t = q at *
  by_cases hq : q < 2 ^ 53
  · have hlog := log2_eq (hlow.trans hfloor) hq
    have hsecond := shiftToTargetExponent_eq (m := q) (t := 0) (e := e + t) (by omega) (by omega)
    have hfinal : (ExtendedMantissa.mk q false false >>> 0).mantissa = q := by
      rw [shiftRight_exact, Nat.pow_zero, Nat.div_one]
    have hpos : q ≠ 0 := by omega
    simp only [hsecond, hfinal, dif_neg hpos]
    have hexponent : e + t + (0 : Nat) = E - 52 := by omega
    exact ⟨q, E, Nat.pos_of_ne_zero hpos, (finite.injEq ..).mpr ⟨rfl, rfl, hexponent⟩,
      hlow.trans hfloor, hq, by omega, hv⟩
  · obtain rfl : q = 2 ^ 53 := by omega
    have hsecond := shiftToTargetExponent_eq (m := 2 ^ 53) (t := 1) (e := e + t)
      (by rw [Nat.log2_two_pow]; omega) (by omega)
    have hfinal : (ExtendedMantissa.mk (2 ^ 53) false false >>> 1).mantissa = 2 ^ 52 := by
      rw [shiftRight_exact]
      rfl
    have hpos : 2 ^ 52 ≠ 0 := by decide
    simp only [hsecond, hfinal, dif_neg hpos]
    have hexponent : e + t + (1 : Nat) = (E + 1 : Nat) - 52 := by omega
    refine ⟨2 ^ 52, E + 1, by decide, (finite.injEq ..).mpr ⟨rfl, rfl, hexponent⟩, Nat.le_refl _,
      by decide, by omega, ?_⟩
    rw [← hv, Nat.pow_succ]
    ring

/-! ## Conversion -/

theorem unpack_one : (Float.ofBits 4607182418800017408).toModel.unpack =
    .finite .positive (2 ^ 52) (-52) (by decide) := rfl

theorem log2_mul_two_pow {n : Nat} (hn : n ≠ 0) (d : Nat) : (n * 2 ^ d).log2 = n.log2 + d := by
  rw [Nat.log2_eq_iff (Nat.mul_ne_zero hn (Nat.ne_of_gt (Nat.two_pow_pos d)))]
  constructor
  · rw [Nat.pow_add]
    exact Nat.mul_le_mul_right _ (Nat.log2_self_le hn)
  · rw [Nat.add_right_comm, Nat.pow_add]
    exact Nat.mul_lt_mul_of_pos_right Nat.lt_log2_self (Nat.two_pow_pos d)

theorem shows_ofUInt64 {n : Nat} (hn : n ≠ 0) (h : n < 2 ^ 53) :
    Shows (UnpackedFloat.ofUInt64 Format.binary64 n.toUInt64) .positive n := by
  have hnat : n.toUInt64.toNat = n := by
    rw [Nat.toUInt64, UInt64.toNat_ofNat']
    omega
  have hlog := (Nat.log2_lt hn).2 h
  have hcompare : compare (n : Int) 0 = .gt := by
    rw [compare_gt_iff_gt]
    omega
  have hshift : (0 - max ((n.log2 : Int) + 0 - 52) (-1074)).toNat = 52 - n.log2 := by omega
  have hbits : (n * 2 ^ (52 - n.log2)).log2 = 52 + 0 := by
    rw [log2_mul_two_pow hn]
    omega
  have hvalue : roundShift (n * 2 ^ (52 - n.log2)) 0 * 2 ^ n.log2 = n * 2 ^ 52 := by
    rw [roundShift_zero, Nat.mul_assoc, ← Nat.pow_add]
    congr 2
    omega
  rw [UnpackedFloat.ofUInt64, hnat, UnpackedFloat.ofNat, UnpackedFloat.ofInt, UnpackedFloat.normalize,
    hcompare]
  dsimp only
  rw [UnpackedFloat.round, Int.toNat_natCast, targetExponent_eq, decreaseExponent, hshift,
    Nat.shiftLeft_eq]
  exact shows_roundWithAccuracy (Nat.mul_ne_zero hn (Nat.ne_of_gt (Nat.two_pow_pos _))) hbits
    (by omega) (by omega) hvalue

/-- The number is shown by a product with one as well. -/
theorem Shows.mul_one {x : UnpackedFloat} {s : Sign} {v : Nat} (hx : Shows x s v) (hv : v < 2 ^ 64) :
    Shows (UnpackedFloat.mul Format.binary64 x (.finite .positive (2 ^ 52) (-52) (by decide))) s v := by
  obtain ⟨m, E, hm, rfl, hlow, hhigh, -, hvalue⟩ := hx
  have hE : E < 64 := by
    have hle : 2 ^ E * 2 ^ 52 ≤ v * 2 ^ 52 := by
      rw [← hvalue, Nat.mul_comm]
      exact Nat.mul_le_mul_right _ hlow
    exact (Nat.pow_lt_pow_iff_right (by decide)).1
      ((Nat.le_of_mul_le_mul_right hle (by decide)).trans_lt hv)
  have hsign : s * .positive = s := by cases s <;> rfl
  have hbits : (m * 2 ^ 52).log2 = 52 + 52 := by
    rw [log2_mul_two_pow (Nat.ne_of_gt hm), log2_eq hlow hhigh]
  have hround : roundShift (m * 2 ^ 52) 52 = m := by
    have hmul := roundShift_mul m 0 52
    rwa [Nat.zero_add, roundShift_zero] at hmul
  rw [UnpackedFloat.mul, hsign]
  exact shows_roundWithAccuracy (E := E) (Nat.mul_ne_zero (Nat.ne_of_gt hm) (by decide)) hbits
    (by omega) (by omega) (by rw [hround, hvalue])

theorem shows_ofScientific {n : Nat} (h : 2 ^ 53 ≤ n) (h' : n < 2 ^ 64) :
    Shows (UnpackedFloat.ofScientific Format.binary64 n 0) .positive (nearest n) := by
  have hn : n ≠ 0 := by
    rintro rfl
    exact absurd h (by decide)
  have hlog : 53 ≤ n.log2 := (Nat.le_log2 hn).2 h
  have hlog' : n.log2 < 64 := (Nat.log2_lt hn).2 h'
  have hbits : (n * 2 ^ 53).log2 = 52 + (excess n + 53) := by
    rw [log2_mul_two_pow hn, excess]
    omega
  have hvalue : roundShift (n * 2 ^ 53) (excess n + 53) * 2 ^ n.log2 = nearest n * 2 ^ 52 := by
    rw [roundShift_mul, nearest, Nat.mul_assoc, ← Nat.pow_add, excess]
    congr 2
    omega
  have hproduct : UnpackedFloat.ofScientific Format.binary64 n 0 =
      roundWithAccuracy Format.binary64 .positive (n * 2 ^ 53) (-53) .exact := by
    have hexponent : ¬ (0 : Int) < -((2 ^ Format.binary64.exponentBits : Int) + n.log2) := by
      have hpos : (0 : Int) < 2 ^ Format.binary64.exponentBits := by decide
      omega
    have hmantissa : n <<< Format.binary64.mantissaBits * 10 ^ (0 : Int).toNat = n * 2 ^ 53 := by
      rw [Nat.shiftLeft_eq]
      exact Nat.mul_one _
    rw [UnpackedFloat.ofScientific, dif_neg hn, if_neg (by decide), if_neg hexponent,
      if_pos (Int.le_refl 0), UnpackedFloat.mul, hmantissa]
    rfl
  rw [hproduct]
  exact shows_roundWithAccuracy (Nat.mul_ne_zero hn (by decide)) hbits (by rw [excess]; omega)
    (by omega) hvalue

/-- The double of a number has the nearest number with 53 significant bits as its value. -/
theorem shows_ofNat {n : Nat} (hn : n ≠ 0) (h : n < 2 ^ 64) :
    Shows (Float.ofNat n).toModel.unpack .positive (nearest n) := by
  by_cases hsmall : n < 2 ^ 53
  · have hproduct : (Float.ofNat n).toModel.unpack = (Float.Model.pack (UnpackedFloat.mul Format.binary64
        (Float.Model.pack (UnpackedFloat.ofUInt64 Format.binary64 n.toUInt64)).unpack
        (Float.ofBits 4607182418800017408).toModel.unpack)).unpack := by
      have hfloat : Float.ofNat n = n.toUInt64.toFloat * Float.ofBits 4607182418800017408 :=
        dif_pos ⟨hsmall, by decide⟩
      rw [hfloat]
      rfl
    have hshows := shows_ofUInt64 hn hsmall
    have hone := hshows.mul_one h
    rw [hproduct, hshows.unpack_pack, unpack_one, hone.unpack_pack, nearest_of_lt hsmall]
    exact hone
  · have hfloat : (Float.ofNat n).toModel =
        Float.Model.pack (UnpackedFloat.ofScientific Format.binary64 n 0) := by
      have hslow : Float.ofNat n = Float.ofModel (Float.Model.ofScientific n (Int.ofNat 0)) :=
        dif_neg fun hfast => hsmall hfast.1
      rw [hslow]
      rfl
    have hshows := shows_ofScientific (Nat.le_of_not_lt hsmall) h
    rw [hfloat, hshows.unpack_pack]
    exact hshows

/-- The integer nearest to an integer that has 53 significant bits. -/
def nearestInt (a : Int) : Int := a.sign * nearest a.natAbs

theorem nearest_pos {n : Nat} (hn : n ≠ 0) : 0 < nearest n := by
  by_cases hsmall : n < 2 ^ 53
  · rw [nearest_of_lt hsmall]
    exact Nat.pos_of_ne_zero hn
  · exact Nat.lt_of_lt_of_le (by decide) (le_nearest (Nat.le_of_not_lt hsmall))

theorem nearestInt_cases (a : Int) :
    a = 0 ∧ nearestInt a = 0 ∨ 0 < a ∧ nearestInt a = nearest a.natAbs ∨
      a < 0 ∧ nearestInt a = -nearest a.natAbs := by
  rcases Int.lt_trichotomy a 0 with hneg | rfl | hpos
  · exact .inr (.inr ⟨hneg, by rw [nearestInt, Int.sign_eq_neg_one_of_neg hneg, Int.neg_one_mul]⟩)
  · exact .inl ⟨rfl, rfl⟩
  · exact .inr (.inl ⟨hpos, by rw [nearestInt, Int.sign_eq_one_of_pos hpos, Int.one_mul]⟩)

theorem nearestInt_ne_zero {a : Int} (ha : a ≠ 0) : nearestInt a ≠ 0 := by
  have hpos := nearest_pos (Int.natAbs_ne_zero.2 ha)
  have hcases := nearestInt_cases a
  omega

/-- Different integers with the same nearest one are too large to be converted exactly. -/
theorem large_of_nearestInt {a b : Int} (h : nearestInt a = nearestInt b) (hne : a ≠ b) :
    2 ^ 53 ≤ a.natAbs ∧ 2 ^ 53 ≤ b.natAbs := by
  have ha : a ≠ 0 → 0 < nearest a.natAbs := fun h => nearest_pos (Int.natAbs_ne_zero.2 h)
  have hb : b ≠ 0 → 0 < nearest b.natAbs := fun h => nearest_pos (Int.natAbs_ne_zero.2 h)
  have hmagnitude : nearest a.natAbs = nearest b.natAbs → a.natAbs = b.natAbs ∨ _ :=
    eq_or_large_of_nearest
  have hcases := nearestInt_cases a
  have hcases' := nearestInt_cases b
  omega

/-- The double of an integer has the nearest integer with 53 significant bits as its value. -/
theorem shows_ofInt {a : Int} (ha : a ≠ 0) (h : a.natAbs < 2 ^ 64) :
    Shows (Float.ofInt a).toModel.unpack (if a < 0 then .negative else .positive)
      (nearest a.natAbs) := by
  cases a with
  | ofNat n =>
    have hn : n ≠ 0 := fun hn => ha (congrArg Int.ofNat hn)
    have hneg : ¬ Int.ofNat n < 0 := Int.not_lt_of_ge (Int.natCast_nonneg n)
    rw [if_neg hneg]
    exact shows_ofNat hn h
  | negSucc n =>
    have hshows := (shows_ofNat (Nat.succ_ne_zero n) h).neg
    have hfloat : (Float.ofInt (.negSucc n)).toModel =
        Float.Model.pack (Float.ofNat (n + 1)).toModel.unpack.neg := rfl
    rw [if_pos (Int.negSucc_lt_zero n), hfloat, hshows.unpack_pack]
    exact hshows

/-- Zero is the double of no other integer. -/
theorem zero_beq_ofInt {a : Int} (ha : a ≠ 0) (h : a.natAbs < 2 ^ 64) :
    (Float.ofInt 0 == Float.ofInt a) = false := by
  show UnpackedFloat.beq (.zero .positive) (Float.ofInt a).toModel.unpack = false
  obtain ⟨m, E, hm, hfinite, -⟩ := shows_ofInt ha h
  rw [hfinite]
  split <;> rfl

/-- The doubles of two integers are equal when the same integer with 53 significant bits is nearest. -/
theorem ofInt_beq_iff {a b : Int} (ha : a.natAbs < 2 ^ 64) (hb : b.natAbs < 2 ^ 64) :
    (Float.ofInt a == Float.ofInt b) = true ↔ nearestInt a = nearestInt b := by
  by_cases hza : a = 0 <;> by_cases hzb : b = 0
  · rw [hza, hzb]
    exact iff_of_true rfl rfl
  · rw [hza, zero_beq_ofInt hzb hb]
    exact iff_of_false Bool.false_ne_true (nearestInt_ne_zero hzb).symm
  · rw [hzb, beq_comm, zero_beq_ofInt hza ha]
    exact iff_of_false Bool.false_ne_true (nearestInt_ne_zero hza)
  · have hpos := nearest_pos (Int.natAbs_ne_zero.2 hza)
    have hpos' := nearest_pos (Int.natAbs_ne_zero.2 hzb)
    have hcases := nearestInt_cases a
    have hcases' := nearestInt_cases b
    refine ((shows_ofInt hza ha).beq_iff (shows_ofInt hzb hb)).trans ?_
    by_cases hneg : a < 0 <;> by_cases hneg' : b < 0 <;>
      simp only [hneg, hneg', if_true, if_false, true_and, reduceCtorEq, false_and, false_iff] <;>
      omega

theorem natAbs_toInt_lt (n : Int64) : n.toInt.natAbs < 2 ^ 64 := by
  have hlow := n.le_toInt
  have hhigh := n.toInt_lt
  omega

/-- Different integers that equal one double are `2 ^ 53` or more in magnitude and round alike. -/
theorem large_of_beq {a b : Int64} {x : Float} (hne : a ≠ b) (ha : (Float.ofInt a.toInt == x) = true)
    (hb : (Float.ofInt b.toInt == x) = true) : nearestInt a.toInt = nearestInt b.toInt ∧
      2 ^ 53 ≤ a.toInt.natAbs ∧ 2 ^ 53 ≤ b.toInt.natAbs := by
  rw [beq_comm] at hb
  have hnearest := (ofInt_beq_iff (natAbs_toInt_lt a) (natAbs_toInt_lt b)).1 (beq_trans ha hb)
  exact ⟨hnearest, large_of_nearestInt hnearest fun heq => hne (Int64.toInt_inj.1 heq)⟩

end Criteria.Number
