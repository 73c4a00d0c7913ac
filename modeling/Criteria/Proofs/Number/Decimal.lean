import Criteria.Proofs.Number.Nearest

/-!
# Doubles from decimals

A decimal `n · 10^k` is turned into a double by one multiplication or division. Both factors are exact,
so that only the result is rounded.

* `mul_of_near`, `div_of_near` — the product and the quotient of numbers whose exact result is near a
  double.
* `ofScientific_of_near` — a decimal near a double is converted to this double.
* `ofDecimal_of_near` — also where the size of the decimal is looked at first.
-/

set_option autoImplicit false

namespace Criteria.Number

open Float.Model UnpackedFloat

variable {m m₁ m₂ n k : ℕ} {e e₁ e₂ : ℤ} {v : ℚ}

/-! ## Products -/

theorem mul_of_near (hc : Canonical m e) (h₁ : 0 < m₁) (h₂ : 0 < m₂) (hbits : 2 ^ 52 ≤ m₁ * m₂)
    (hv : Near m e (m₁ * 2 ^ e₁ * (m₂ * 2 ^ e₂))) :
    UnpackedFloat.mul Format.binary64 (.finite .positive m₁ e₁ h₁) (.finite .positive m₂ e₂ h₂) =
      .finite .positive m e hc.pos := by
  have hvalue : (m₁ * 2 ^ e₁ * (m₂ * 2 ^ e₂) : ℚ) / 2 ^ (e₁ + e₂) = (m₁ * m₂ : ℕ) := by
    rw [zpow_add₀ (by norm_num)]
    field_simp
    push_cast
    ring
  have hexact : Denotes (ExtendedMantissa.ofMantissaAndAccuracy (m₁ * m₂) .exact) (m₁ * m₂ : ℕ) :=
    .exact (m₁ * m₂)
  rw [← hvalue] at hexact
  exact roundWithAccuracy_of_near hc hv .positive hexact (.inl hbits)

/-! ## Quotients -/

/-- A quotient with the comparison of its remainder. -/
theorem denotes_accuracyOfFraction (q : ℕ) {r d : ℕ} (h : r < d) :
    Denotes (ExtendedMantissa.ofMantissaAndAccuracy q (accuracyOfFraction r d)) (q + r / d) := by
  have hd : (0 : ℚ) < d := by exact_mod_cast Nat.zero_lt_of_lt h
  have hlt : (r : ℚ) / d < 1 := (div_lt_one hd).2 (by exact_mod_cast h)
  unfold accuracyOfFraction
  by_cases hr : r = 0
  · rw [if_pos hr, hr, Nat.cast_zero, zero_div, add_zero]
    exact .exact q
  have hpos : 0 < (r : ℚ) / d := div_pos (by exact_mod_cast Nat.pos_of_ne_zero hr) hd
  rw [if_neg hr]
  rcases lt_trichotomy (2 * r) d with hless | heq | hmore
  · have hhalf : (r : ℚ) / d < 1 / 2 := by
      rw [div_lt_div_iff₀ hd (by norm_num)]
      have hcast : (2 * r : ℚ) < d := by exact_mod_cast hless
      linarith
    rw [compare_lt_iff_lt.2 hless]
    exact .below (by linarith) (by linarith)
  · have hhalf : (r : ℚ) / d = 1 / 2 := by
      rw [div_eq_div_iff hd.ne' (by norm_num)]
      have hcast : (2 * r : ℚ) = d := by exact_mod_cast heq
      linarith
    rw [compare_eq_iff_eq.2 heq, hhalf]
    exact .half q
  · have hhalf : 1 / 2 < (r : ℚ) / d := by
      rw [div_lt_div_iff₀ (by norm_num) hd]
      have hcast : (d : ℚ) < 2 * r := by exact_mod_cast hmore
      linarith
    rw [compare_gt_iff_gt.2 hmore]
    exact .above (by linarith) (by linarith)

/-- The exponent to which a quotient is computed. -/
def quotientExponent (m₁ : ℕ) (e₁ : ℤ) (m₂ : ℕ) (e₂ : ℤ) : ℤ :=
  min (e₁ - e₂) (max (m₁.log2 + e₁ - (m₂.log2 + e₂) - 53) (-1074))

/-- The dividend with bits for this exponent. -/
def dividend (m₁ : ℕ) (e₁ : ℤ) (m₂ : ℕ) (e₂ : ℤ) : ℕ :=
  m₁ * 2 ^ (e₁ - e₂ - quotientExponent m₁ e₁ m₂ e₂).toNat

theorem divCore_eq (m₁ : ℕ) (e₁ : ℤ) (m₂ : ℕ) (e₂ : ℤ) :
    divCore Format.binary64 m₁ e₁ m₂ e₂ = (dividend m₁ e₁ m₂ e₂ / m₂, quotientExponent m₁ e₁ m₂ e₂,
      accuracyOfFraction (dividend m₁ e₁ m₂ e₂ % m₂) m₂) := by
  have htarget : min (e₁ - e₂) (Format.binary64.targetExponent
      (totalExponent m₁ e₁ - totalExponent m₂ e₂)) = quotientExponent m₁ e₁ m₂ e₂ := by
    have hbits : (Format.binary64.mantissaBits : ℤ) = 53 := rfl
    have hmin : Format.binary64.minExponent = -1074 := by decide
    rw [Format.targetExponent, totalExponent, totalExponent, hbits, hmin, quotientExponent]
    omega
  rw [divCore, htarget, Nat.shiftLeft_eq]
  rfl

/-- The quotient has enough bits. -/
theorem le_dividend_div (h₁ : 0 < m₁) (h₂ : 0 < m₂) :
    2 ^ 52 ≤ dividend m₁ e₁ m₂ e₂ / m₂ ∨ quotientExponent m₁ e₁ m₂ e₂ ≤ -1074 := by
  by_cases hleast : quotientExponent m₁ e₁ m₂ e₂ ≤ -1074
  · exact .inr hleast
  left
  have hdigits : m₂.log2 + 53 ≤ m₁.log2 + (e₁ - e₂ - quotientExponent m₁ e₁ m₂ e₂).toNat := by
    unfold quotientExponent at hleast ⊢
    omega
  rw [Nat.le_div_iff_mul_le h₂]
  calc 2 ^ 52 * m₂ ≤ 2 ^ 52 * 2 ^ (m₂.log2 + 1) :=
        Nat.mul_le_mul_left _ (Nat.le_of_lt Nat.lt_log2_self)
    _ = 2 ^ (m₂.log2 + 53) := by rw [← Nat.pow_add]; congr 1; omega
    _ ≤ 2 ^ (m₁.log2 + (e₁ - e₂ - quotientExponent m₁ e₁ m₂ e₂).toNat) :=
        Nat.pow_le_pow_right (by decide) hdigits
    _ = 2 ^ m₁.log2 * 2 ^ (e₁ - e₂ - quotientExponent m₁ e₁ m₂ e₂).toNat := Nat.pow_add ..
    _ ≤ dividend m₁ e₁ m₂ e₂ := Nat.mul_le_mul_right _ (Nat.log2_self_le (Nat.ne_of_gt h₁))

theorem cast_dividend (m₁ : ℕ) (e₁ : ℤ) (m₂ : ℕ) (e₂ : ℤ) :
    (dividend m₁ e₁ m₂ e₂ : ℚ) = m₁ * 2 ^ (e₁ - e₂ - quotientExponent m₁ e₁ m₂ e₂) := by
  have hshift : 0 ≤ e₁ - e₂ - quotientExponent m₁ e₁ m₂ e₂ := by
    unfold quotientExponent
    omega
  rw [dividend]
  push_cast
  rw [← zpow_natCast, Int.toNat_of_nonneg hshift]

/-- A quotient with its remainder. -/
theorem div_add_mod_div {d : ℕ} (hd : 0 < d) (a : ℕ) : ((a / d : ℕ) : ℚ) + (a % d : ℕ) / d = a / d := by
  have hne : (d : ℚ) ≠ 0 := by exact_mod_cast Nat.ne_of_gt hd
  have hsplit : (d : ℚ) * (a / d : ℕ) + (a % d : ℕ) = a := by exact_mod_cast Nat.div_add_mod a d
  rw [eq_div_iff hne, add_mul, div_mul_cancel₀ _ hne, ← hsplit]
  ring

theorem div_of_near (hc : Canonical m e) (h₁ : 0 < m₁) (h₂ : 0 < m₂)
    (hv : Near m e (m₁ * 2 ^ e₁ / (m₂ * 2 ^ e₂))) :
    UnpackedFloat.div Format.binary64 (.finite .positive m₁ e₁ h₁) (.finite .positive m₂ e₂ h₂) =
      .finite .positive m e hc.pos := by
  have hvalue : (m₁ * 2 ^ e₁ / (m₂ * 2 ^ e₂) : ℚ) / 2 ^ quotientExponent m₁ e₁ m₂ e₂ =
      (dividend m₁ e₁ m₂ e₂ / m₂ : ℕ) + (dividend m₁ e₁ m₂ e₂ % m₂ : ℕ) / m₂ := by
    rw [div_add_mod_div h₂, cast_dividend, zpow_sub₀ (by norm_num), zpow_sub₀ (by norm_num)]
    field_simp
  have hdenotes := denotes_accuracyOfFraction (dividend m₁ e₁ m₂ e₂ / m₂)
    (Nat.mod_lt (dividend m₁ e₁ m₂ e₂) h₂)
  rw [← hvalue] at hdenotes
  have hround := roundWithAccuracy_of_near hc hv .positive hdenotes (le_dividend_div h₁ h₂)
  rw [UnpackedFloat.div, divCore_eq]
  exact hround

/-! ## Exact factors -/

/-- The value of a number that is shown. -/
theorem Shows.exists_value {x : UnpackedFloat} {w : ℕ} (h : Shows x .positive w) :
    ∃ (p : ℕ) (f : ℤ) (hp : 0 < p), x = .finite .positive p f hp ∧ 2 ^ 52 ≤ p ∧ (p : ℚ) * 2 ^ f = w := by
  obtain ⟨p, E, hp, hx, hlow, -, -, hvalue⟩ := h
  refine ⟨p, E - 52, hp, hx, hlow, ?_⟩
  have hcast : (p : ℚ) * 2 ^ E = w * 2 ^ 52 := by exact_mod_cast hvalue
  rw [zpow_sub₀ (by norm_num), zpow_natCast, mul_div_assoc', div_eq_iff (by norm_num), hcast]
  norm_num

/-- The place of the first bit of a power of ten in the table. -/
def tenExponent (k : ℕ) : ℕ := k * 3322 / 1000

/-- The power of ten with its first bit at place 52. -/
def tenMantissa (k : ℕ) : ℕ := 10 ^ k * 2 ^ 52 / 2 ^ tenExponent k

theorem tenMantissa_spec : ∀ k < 23, 2 ^ 52 ≤ tenMantissa k ∧ tenMantissa k < 2 ^ 53 ∧
    tenExponent k ≤ 1000 ∧ tenMantissa k * 2 ^ tenExponent k = 10 ^ k * 2 ^ 52 := by
  decide

theorem ofFloat_power : ∀ k : Fin 23, Parts.ofFloat Float.exactlyRepresentablePowersOfTen[k] =
    .finite false (tenMantissa k) (tenExponent k - 52) := by
  decide +kernel

/-- The powers of ten in the table are exact. -/
theorem shows_power (k : Fin 23) :
    Shows Float.exactlyRepresentablePowersOfTen[k].toModel.unpack .positive (10 ^ k.val) := by
  obtain ⟨hlow, hhigh, hexponent, hvalue⟩ := tenMantissa_spec k k.isLt
  have hpos : tenMantissa k ≠ 0 := by omega
  rw [unpack_eq, ofFloat_power, Parts.unpacked, dif_neg hpos]
  exact ⟨_, _, Nat.pos_of_ne_zero hpos, rfl, hlow, hhigh, hexponent, hvalue⟩

/-- The power of ten in the table. -/
def powerOfTen (hk : k ≤ 22) : Float :=
  Float.exactlyRepresentablePowersOfTen[(⟨k, Nat.lt_succ_of_le hk⟩ : Fin 23)]

theorem shows_powerOfTen (hk : k ≤ 22) : Shows (powerOfTen hk).toModel.unpack .positive (10 ^ k) :=
  shows_power ⟨k, Nat.lt_succ_of_le hk⟩

theorem ofScientific_product (h : n < 2 ^ 53 ∧ k ≤ 22) :
    Float.ofScientific n false k = n.toUInt64.toFloat * powerOfTen h.2 :=
  dif_pos h

theorem ofScientific_quotient (h : n < 2 ^ 53 ∧ k ≤ 22) :
    Float.ofScientific n true k = n.toUInt64.toFloat / powerOfTen h.2 :=
  dif_pos h

/-- Where a factor is not exact, the conversion computes with more bits. -/
theorem ofScientific_unpacked (h : ¬ (n < 2 ^ 53 ∧ k ≤ 22)) (negative : Bool) :
    Float.ofScientific n negative k = Float.ofModel (Float.Model.pack (UnpackedFloat.ofScientific
      Format.binary64 n (if negative then Int.negOfNat k else Int.ofNat k))) :=
  dif_neg h

theorem unpack_toFloat (hn : n ≠ 0) (h : n < 2 ^ 53) :
    Shows n.toUInt64.toFloat.toModel.unpack .positive n := by
  have hshows := shows_ofUInt64 hn h
  show Shows (Float.Model.pack (UnpackedFloat.ofUInt64 Format.binary64 n.toUInt64)).unpack .positive n
  rwa [hshows.unpack_pack]

/-! ## Decimals -/

/-- The double with a mantissa and an exponent. -/
def toDouble (s : Sign) (hc : Canonical m e) : Float :=
  Float.ofModel (Float.Model.pack (.finite s m e hc.pos))

theorem Near.ne_zero (hc : Canonical m e) (hv : Near m e v) : v ≠ 0 := by
  rintro rfl
  have hm : (1 : ℚ) ≤ m := by exact_mod_cast hc.pos
  have hhalf := hv.half_le
  rw [zero_div] at hhalf
  linarith

theorem Near.nat_ne_zero (hc : Canonical m e) (hv : Near m e n) : n ≠ 0 := by
  exact_mod_cast hv.ne_zero hc

/-- Values near a double are not too small. -/
theorem Near.two_zpow_neg_le (hc : Canonical m e) (hv : Near m e v) : (2 : ℚ) ^ (-1075 : ℤ) ≤ v := by
  have hm : (1 : ℚ) ≤ m := by exact_mod_cast hc.pos
  have hhalf : (2 : ℚ) ^ (-1 : ℤ) ≤ v / 2 ^ e := by
    have hlow := hv.half_le
    norm_num at hlow ⊢
    linarith
  calc (2 : ℚ) ^ (-1075 : ℤ) ≤ 2 ^ (-1 + e) :=
        zpow_le_zpow_right₀ (by norm_num) (by have hleast := hc.le_exponent; omega)
    _ = 2 ^ (-1 : ℤ) * 2 ^ e := zpow_add₀ (by norm_num) ..
    _ ≤ v := (le_div_iff₀ (by positivity)).1 hhalf

/-- The size of a quotient near a double is within the limits of the conversion. -/
theorem Near.exponent_le (hc : Canonical m e) (hv : Near m e (n / 10 ^ k)) : (k : ℤ) < n.log2 + 1076 := by
  have htwo : (2 : ℚ) ^ k ≤ 10 ^ k := pow_le_pow_left₀ (by norm_num) (by norm_num) k
  have hn : (n : ℚ) < 2 ^ ((n.log2 : ℤ) + 1) := by exact_mod_cast Nat.lt_log2_self
  have hlt : (n : ℚ) / 10 ^ k < 2 ^ ((n.log2 : ℤ) + 1 - k) := by
    rw [zpow_sub₀ (by norm_num), zpow_natCast]
    calc (n : ℚ) / 10 ^ k ≤ n / 2 ^ k := div_le_div_of_nonneg_left (by positivity) (by positivity) htwo
      _ < 2 ^ ((n.log2 : ℤ) + 1) / 2 ^ k := div_lt_div_of_pos_right hn (by positivity)
  have hexponent := lt_of_zpow (hv.two_zpow_neg_le hc) hlt
  omega

section Scientific

variable (hc : Canonical m e)

theorem unpacked_ofScientific_of_near (hv : Near m e n) :
    UnpackedFloat.ofScientific Format.binary64 n 0 = .finite .positive m e hc.pos := by
  have hn := hv.nat_ne_zero hc
  have hexponent : ¬ (0 : ℤ) < -((2 ^ Format.binary64.exponentBits : ℤ) + n.log2) := by
    have hpos : (0 : ℤ) < 2 ^ Format.binary64.exponentBits := by decide
    omega
  have hshift : n <<< Format.binary64.mantissaBits = n * 2 ^ 53 := Nat.shiftLeft_eq ..
  have hbits : 2 ^ 52 ≤ n <<< Format.binary64.mantissaBits * 10 ^ (0 : ℤ).toNat := by
    rw [hshift, Int.toNat_zero]
    omega
  have hnear : Near m e ((n <<< Format.binary64.mantissaBits : ℕ) *
      2 ^ (-(Format.binary64.mantissaBits : ℤ)) * ((10 ^ (0 : ℤ).toNat : ℕ) * 2 ^ (0 : ℤ))) := by
    have hvalue : ((n * 2 ^ 53 : ℕ) : ℚ) * 2 ^ (-53 : ℤ) * ((10 ^ (0 : ℤ).toNat : ℕ) * 2 ^ (0 : ℤ)) =
        n := by
      push_cast
      norm_num
      field_simp
    rw [hshift]
    show Near m e (((n * 2 ^ 53 : ℕ) : ℚ) * 2 ^ (-53 : ℤ) * _)
    rwa [hvalue]
  rw [UnpackedFloat.ofScientific, dif_neg hn, if_neg (by decide), if_neg hexponent,
    if_pos (Int.le_refl 0)]
  exact mul_of_near hc _ _ hbits hnear

/-- A whole number near a double. -/
theorem ofScientific_of_near (hv : Near m e n) :
    Float.ofScientific n false 0 = toDouble .positive hc := by
  have hn := hv.nat_ne_zero hc
  by_cases hfast : n < 2 ^ 53
  · obtain ⟨p, f, hp, hunpack, hbits, hvalue⟩ := (unpack_toFloat hn hfast).exists_value
    obtain ⟨q, g, hq, hunpack', hbits', hvalue'⟩ := (shows_powerOfTen (Nat.zero_le 22)).exists_value
    have hnear : Near m e (p * 2 ^ f * (q * 2 ^ g)) := by
      rw [hvalue, hvalue']
      simpa using hv
    have hmul := mul_of_near hc hp hq (by nlinarith) hnear
    rw [ofScientific_product ⟨hfast, Nat.zero_le 22⟩]
    show Float.ofModel (Float.Model.pack (UnpackedFloat.mul _ _ _)) = _
    rw [hunpack, hunpack', hmul]
    rfl
  · have hunpacked := unpacked_ofScientific_of_near hc hv
    rw [ofScientific_unpacked fun h => hfast h.1]
    exact congrArg (fun u => Float.ofModel (Float.Model.pack u)) hunpacked

theorem unpacked_ofScientific_neg_of_near (hk : 0 < k) (hv : Near m e (n / 10 ^ k)) :
    UnpackedFloat.ofScientific Format.binary64 n (-k) = .finite .positive m e hc.pos := by
  have hn : n ≠ 0 := by
    rintro rfl
    exact hv.ne_zero hc (by simp)
  have hsize := hv.exponent_le hc
  have hbits : (2 ^ Format.binary64.exponentBits : ℤ) = 2048 := by decide
  have htoNat : (-(-(k : ℤ))).toNat = k := by omega
  have hnear : Near m e (n * 2 ^ (0 : ℤ) / ((10 ^ (-(-(k : ℤ))).toNat : ℕ) * 2 ^ (0 : ℤ))) := by
    rw [htoNat]
    push_cast
    simpa using hv
  rw [UnpackedFloat.ofScientific, dif_neg hn, if_neg (by omega), if_neg (by omega),
    if_neg (by omega)]
  exact div_of_near hc _ _ hnear

/-- A decimal fraction near a double. -/
theorem ofScientific_true_of_near (hk : 0 < k) (hv : Near m e (n / 10 ^ k)) :
    Float.ofScientific n true k = toDouble .positive hc := by
  have hn : n ≠ 0 := by
    rintro rfl
    exact hv.ne_zero hc (by simp)
  by_cases hfast : n < 2 ^ 53 ∧ k ≤ 22
  · obtain ⟨p, f, hp, hunpack, hbits, hvalue⟩ := (unpack_toFloat hn hfast.1).exists_value
    obtain ⟨q, g, hq, hunpack', hbits', hvalue'⟩ := (shows_powerOfTen hfast.2).exists_value
    have hnear : Near m e (p * 2 ^ f / (q * 2 ^ g)) := by
      rw [hvalue, hvalue']
      simpa using hv
    have hdiv := div_of_near hc hp hq hnear
    rw [ofScientific_quotient hfast]
    show Float.ofModel (Float.Model.pack (UnpackedFloat.div _ _ _)) = _
    rw [hunpack, hunpack', hdiv]
    rfl
  · have hneg : Int.negOfNat k = -(k : ℤ) := Int.negOfNat_eq
    rw [ofScientific_unpacked hfast, if_pos rfl, hneg, unpacked_ofScientific_neg_of_near hc hk hv]
    rfl

end Scientific

/-! ## The size of a decimal -/

theorem lt_pow_length (n : ℕ) : n < 10 ^ (Nat.toDigits 10 n).length :=
  (Nat.length_toDigits_le_iff (by decide) Nat.length_toDigits_pos).1 (Nat.le_refl _)

theorem pow_length_le (hn : n ≠ 0) : 10 ^ (Nat.toDigits 10 n).length ≤ n * 10 := by
  by_cases hone : (Nat.toDigits 10 n).length = 1
  · rw [hone]
    omega
  · have hpos := Nat.length_toDigits_pos (b := 10) (n := n)
    have hlonger : ¬ (Nat.toDigits 10 n).length ≤ (Nat.toDigits 10 n).length - 1 := by omega
    rw [Nat.length_toDigits_le_iff (by decide) (by omega), Nat.not_lt] at hlonger
    calc 10 ^ (Nat.toDigits 10 n).length = 10 ^ ((Nat.toDigits 10 n).length - 1) * 10 := by
          rw [← Nat.pow_succ]
          congr 1
          omega
      _ ≤ n * 10 := Nat.mul_le_mul_right 10 hlonger

/-- Powers of ten from `10^330` on are beyond the doubles, and so are their inverses. -/
theorem two_pow_le_ten_pow : (2 : ℚ) ^ (1089 : ℤ) ≤ 10 ^ (330 : ℤ) := by
  have hpow : ((2 : ℚ) ^ 33) ^ 33 ≤ ((10 : ℚ) ^ 10) ^ 33 :=
    pow_le_pow_left₀ (by norm_num) (by norm_num) 33
  have htwo : (2 : ℚ) ^ (1089 : ℤ) = (2 ^ 33) ^ 33 := by rw [← pow_mul]; rfl
  have hten : (10 : ℚ) ^ (330 : ℤ) = (10 ^ 10) ^ 33 := by rw [← pow_mul]; rfl
  rwa [htwo, hten]

/-- A decimal near a double is of a size that is looked at closer. -/
theorem Near.size_bounds (hc : Canonical m e) {j : ℤ} (hv : Near m e (n * 10 ^ j)) :
    ¬ ((Nat.toDigits 10 n).length + j < -330) ∧ ¬ 330 < (Nat.toDigits 10 n).length + j := by
  have hten : (0 : ℚ) < 10 ^ j := by positivity
  have hn : n ≠ 0 := by
    rintro rfl
    exact hv.ne_zero hc (by simp)
  constructor
  · intro hsize
    have hhigh : (n : ℚ) * 10 ^ j < 10 ^ ((Nat.toDigits 10 n).length + j) := by
      rw [zpow_add₀ (by norm_num)]
      exact mul_lt_mul_of_pos_right (by exact_mod_cast lt_pow_length n) hten
    have hlimit : (10 : ℚ) ^ ((Nat.toDigits 10 n).length + j) ≤ 10 ^ (-(330 : ℤ)) :=
      zpow_le_zpow_right₀ (by norm_num) (by omega)
    have hinv : (10 : ℚ) ^ (-(330 : ℤ)) ≤ 2 ^ (-(1089 : ℤ)) := by
      rw [zpow_neg, zpow_neg]
      exact inv_anti₀ (by positivity) two_pow_le_ten_pow
    have hsmall : (2 : ℚ) ^ (-(1089 : ℤ)) ≤ 2 ^ (-1075 : ℤ) :=
      zpow_le_zpow_right₀ (by norm_num) (by decide)
    have hvalue := hhigh.trans_le (hlimit.trans (hinv.trans hsmall))
    exact absurd (hv.two_zpow_neg_le hc) (not_le.2 hvalue)
  · intro hsize
    have hlow : (10 : ℚ) ^ ((Nat.toDigits 10 n).length - 1 + j) ≤ n * 10 ^ j := by
      have hpow : ((10 ^ (Nat.toDigits 10 n).length : ℕ) : ℚ) ≤ (n * 10 : ℕ) := by
        exact_mod_cast pow_length_le hn
      push_cast at hpow
      rw [zpow_add₀ (by norm_num), zpow_sub_one₀ (by norm_num), zpow_natCast]
      refine mul_le_mul_of_nonneg_right ?_ hten.le
      linarith
    have hlimit : (10 : ℚ) ^ (330 : ℤ) ≤ 10 ^ ((Nat.toDigits 10 n).length - 1 + j) :=
      zpow_le_zpow_right₀ (by norm_num) (by omega)
    have hexponent : (2 : ℚ) ^ (53 + e) ≤ 2 ^ (1089 : ℤ) :=
      zpow_le_zpow_right₀ (by norm_num) (by have hlast := hc.exponent_le; omega)
    have hhigh := (hv.lt_two_zpow hc).trans_le (hexponent.trans two_pow_le_ten_pow)
    exact absurd (hlimit.trans hlow) (not_le.2 hhigh)

theorem neg_toDouble (hc : Canonical m e) : -toDouble .positive hc = toDouble .negative hc := by
  show Float.ofModel (Float.Model.pack (Float.Model.pack _).unpack.neg) = _
  rw [unpack_pack_finite .positive hc.pos hc]
  rfl

/-- A decimal near a double is converted to this double. -/
theorem ofDecimal_of_near (hc : Canonical m e) (negative : Bool) {j : ℤ} (hv : Near m e (n * 10 ^ j)) :
    ofDecimal negative n j = toDouble (Parts.sign negative) hc := by
  have hn : n ≠ 0 := by
    rintro rfl
    exact hv.ne_zero hc (by simp)
  obtain ⟨hsmall, hlarge⟩ := hv.size_bounds hc
  have hmagnitude : (if 0 ≤ j then Float.ofScientific (n * Nat.pow 10 j.toNat) false 0
      else Float.ofScientific n true (-j).toNat) = toDouble .positive hc := by
    split
    · rename_i hj
      refine ofScientific_of_near hc ?_
      have hvalue : ((n * 10 ^ j.toNat : ℕ) : ℚ) = n * 10 ^ j := by
        push_cast
        rw [← zpow_natCast, Int.toNat_of_nonneg hj]
      show Near m e (n * 10 ^ j.toNat : ℕ)
      rwa [hvalue]
    · rename_i hj
      refine ofScientific_true_of_near hc (by omega) ?_
      rwa [← zpow_natCast, Int.toNat_of_nonneg (by omega), zpow_neg, div_inv_eq_mul]
  have hzero : ¬ (n = 0 || decide ((Nat.toDigits 10 n).length + j < -330)) = true := by
    simp [hn, hsmall]
  unfold ofDecimal
  dsimp only
  rw [if_neg hzero, if_neg hlarge, hmagnitude]
  cases negative with
  | false => rfl
  | true => exact neg_toDouble hc

end Criteria.Number
