import Criteria.Proofs.Number.Nearest

/-!
# The shortest decimal rounds back

The search for a short decimal goes through finer and finer grids and stops at the first one with a
point in the rounding interval. Whatever it finds is therefore near the double, and it finds something,
since the last grid that it can try is finer than the interval is wide.

* `Interval.Contains` — the values in an interval.
* `contains_ofParts_iff` — the interval of a double holds the values near it.
* `coarsest?_contains`, `coarsest?_isSome` — what the search finds, and that it does.
* `near_shortest` — the shortest decimal is near the double.
-/

set_option autoImplicit false

namespace Criteria.Number

variable {m n : ℕ} {e k : ℤ} {v : ℚ}

/-! ## Intervals -/

/-- The value lies in the interval; an open one has its ends outside. -/
structure Interval.Contains (i : Interval) (v : ℚ) : Prop where
  low : (i.low : ℚ) ≤ v * i.denominator
  high : v * i.denominator ≤ i.high
  ends : i.closed = false → (i.low : ℚ) < v * i.denominator ∧ v * i.denominator < i.high

namespace Interval

variable {i : Interval}

theorem holds_iff (n : ℕ) : i.holds n = true ↔ i.Contains n := by
  unfold holds
  constructor
  · intro h
    split at h
    · rename_i hclosed
      rw [Bool.and_eq_true, decide_eq_true_eq, decide_eq_true_eq] at h
      refine ⟨by exact_mod_cast h.1, by exact_mod_cast h.2, fun hopen => ?_⟩
      rw [hclosed] at hopen
      cases hopen
    · rw [Bool.and_eq_true, decide_eq_true_eq, decide_eq_true_eq] at h
      have hlow : (i.low : ℚ) < n * i.denominator := by exact_mod_cast h.1
      have hhigh : (n : ℚ) * i.denominator < i.high := by exact_mod_cast h.2
      exact ⟨hlow.le, hhigh.le, fun _ => ⟨hlow, hhigh⟩⟩
  · intro h
    split
    · rw [Bool.and_eq_true, decide_eq_true_eq, decide_eq_true_eq]
      exact ⟨by exact_mod_cast h.low, by exact_mod_cast h.high⟩
    · rename_i hopen
      obtain ⟨hlow, hhigh⟩ := h.ends (Bool.eq_false_iff.2 hopen)
      rw [Bool.and_eq_true, decide_eq_true_eq, decide_eq_true_eq]
      exact ⟨by exact_mod_cast hlow, by exact_mod_cast hhigh⟩

/-- The value that an interval is around. -/
def center (i : Interval) : ℚ := i.value / i.denominator

theorem inUnits_of_nonneg (hk : 0 ≤ k) :
    i.inUnits k = { i with denominator := i.denominator * 10 ^ k.toNat } :=
  if_pos hk

theorem inUnits_of_neg (hk : ¬ 0 ≤ k) :
    i.inUnits k = { i with
      low := i.low * 10 ^ (-k).toNat
      value := i.value * 10 ^ (-k).toNat
      high := i.high * 10 ^ (-k).toNat } :=
  if_neg hk

theorem cast_ten_pow (hk : 0 ≤ k) : ((10 ^ k.toNat : ℕ) : ℚ) = 10 ^ k := by
  push_cast
  rw [← zpow_natCast, Int.toNat_of_nonneg hk]

theorem cast_ten_pow_neg (hk : ¬ 0 ≤ k) : ((10 ^ (-k).toNat : ℕ) : ℚ) = (10 ^ k)⁻¹ := by
  rw [cast_ten_pow (by omega), zpow_neg]

/-- An interval and a value of another scale. -/
theorem contains_iff_of_scale {i' : Interval} {v' c : ℚ} (hc : 0 < c) (hlow : (i'.low : ℚ) = c * i.low)
    (hhigh : (i'.high : ℚ) = c * i.high) (hclosed : i'.closed = i.closed)
    (hv : v' * i'.denominator = c * (v * i.denominator)) : i'.Contains v' ↔ i.Contains v := by
  constructor
  · rintro ⟨low, high, ends⟩
    rw [hlow, hv, mul_le_mul_iff_right₀ hc] at low
    rw [hhigh, hv, mul_le_mul_iff_right₀ hc] at high
    rw [hlow, hhigh, hv, mul_lt_mul_iff_right₀ hc, mul_lt_mul_iff_right₀ hc, hclosed] at ends
    exact ⟨low, high, ends⟩
  · rintro ⟨low, high, ends⟩
    refine ⟨?_, ?_, ?_⟩
    · rwa [hlow, hv, mul_le_mul_iff_right₀ hc]
    · rwa [hhigh, hv, mul_le_mul_iff_right₀ hc]
    · rwa [hlow, hhigh, hv, mul_lt_mul_iff_right₀ hc, mul_lt_mul_iff_right₀ hc, hclosed]

/-- The unit of the grid is a power of ten. -/
theorem contains_inUnits_iff (k : ℤ) (v : ℚ) : (i.inUnits k).Contains v ↔ i.Contains (v * 10 ^ k) := by
  by_cases hk : 0 ≤ k
  · rw [inUnits_of_nonneg hk]
    refine contains_iff_of_scale one_pos (one_mul _).symm (one_mul _).symm rfl ?_
    rw [Nat.cast_mul, cast_ten_pow hk]
    ring
  · have hten : (10 : ℚ) ^ k ≠ 0 := by positivity
    rw [inUnits_of_neg hk]
    refine contains_iff_of_scale (c := (10 ^ k)⁻¹) (by positivity) ?_ ?_ rfl ?_
    · rw [Nat.cast_mul, cast_ten_pow_neg hk, mul_comm]
    · rw [Nat.cast_mul, cast_ten_pow_neg hk, mul_comm]
    · field_simp

theorem center_inUnits (i : Interval) (k : ℤ) : (i.inUnits k).center = i.center / 10 ^ k := by
  by_cases hk : 0 ≤ k
  · rw [inUnits_of_nonneg hk, center, center, Nat.cast_mul, cast_ten_pow hk, div_div]
  · rw [inUnits_of_neg hk, center, center, Nat.cast_mul, cast_ten_pow_neg hk, ← div_eq_mul_inv,
      div_right_comm]

/-! ## The search -/

theorem denominator_inUnits_pos (hi : 0 < i.denominator) (k : ℤ) : 0 < (i.inUnits k).denominator := by
  by_cases hk : 0 ≤ k
  · rw [inUnits_of_nonneg hk]
    exact Nat.mul_pos hi (by positivity)
  · rwa [inUnits_of_neg hk]

theorem nearest?_holds (h : i.nearest? = some n) : i.holds n = true := by
  unfold nearest? at h
  dsimp only at h
  split at h
  · cases h
  · cases h
    assumption
  · cases h
    assumption
  · split at h <;> cases h <;> assumption

theorem nearest?_isSome (h : i.holds (i.value / i.denominator + 1) = true) : i.nearest?.isSome := by
  unfold nearest?
  dsimp only
  rw [h]
  cases i.holds (i.value / i.denominator)
  · rfl
  · dsimp only
    split <;> rfl

/-- What the search finds lies in the interval. -/
theorem coarsest?_contains {fuel : ℕ} {k : ℤ} {point : ℕ × ℤ} (h : i.coarsest? fuel k = some point) :
    i.Contains (point.1 * 10 ^ point.2) := by
  induction fuel generalizing k with
  | zero => cases h
  | succ fuel ih =>
    rw [coarsest?] at h
    split at h
    · rename_i n hn
      cases h
      exact (contains_inUnits_iff k n).1 ((holds_iff n).1 (nearest?_holds hn))
    · exact ih h

/-- The search finds something if there is something on one of its grids. -/
theorem coarsest?_isSome {fuel j : ℕ} (hj : j < fuel) {k : ℤ}
    (h : (i.inUnits (k - j)).nearest?.isSome) : (i.coarsest? fuel k).isSome := by
  induction fuel generalizing j k with
  | zero => cases hj
  | succ fuel ih =>
    rw [coarsest?]
    split
    · rfl
    · rename_i hnone
      cases j with
      | zero =>
        rw [Nat.cast_zero, Int.sub_zero, hnone] at h
        cases h
      | succ j =>
        have hnext : k - (j + 1 : ℕ) = k - 1 - j := by omega
        rw [hnext] at h
        exact ih (Nat.lt_of_succ_lt_succ hj) h

/-- The first integer above the value is at most one above it. -/
theorem lt_succ_div (hi : 0 < i.denominator) :
    i.center < (i.value / i.denominator + 1 : ℕ) ∧ ((i.value / i.denominator + 1 : ℕ) : ℚ) ≤ i.center + 1 := by
  have hden : (0 : ℚ) < i.denominator := by exact_mod_cast hi
  constructor
  · rw [center, div_lt_iff₀ hden]
    exact_mod_cast Nat.lt_mul_of_div_lt (Nat.lt_succ_self _) hi
  · rw [Nat.cast_succ]
    gcongr
    exact Nat.cast_div_le

/-! ## The interval of a double -/

theorem cast_scale (n : ℕ) (e : ℤ) : ((if 2 ≤ e then n <<< (e - 2).toNat else n : ℕ) : ℚ) =
    n * 2 ^ (e - 2) * (if 2 ≤ e then 1 else 1 <<< (2 - e).toNat : ℕ) := by
  split
  · rename_i he
    rw [Nat.shiftLeft_eq, Nat.cast_mul, Nat.cast_pow, ← zpow_natCast, Int.toNat_of_nonneg (by omega)]
    push_cast
    ring
  · rename_i he
    rw [Nat.one_shiftLeft, Nat.cast_pow, ← zpow_natCast, Int.toNat_of_nonneg (by omega), mul_assoc,
      Nat.cast_ofNat, ← zpow_add₀ (by norm_num), sub_add_sub_cancel, sub_self, zpow_zero, mul_one]

theorem denominator_ofParts_pos (m : ℕ) (e : ℤ) : 0 < (ofParts m e).denominator := by
  show 0 < if 2 ≤ e then 1 else 1 <<< (2 - e).toNat
  split
  · decide
  · rw [Nat.one_shiftLeft]
    positivity

theorem low_ofParts (hm : 0 < m) : ((ofParts m e).low : ℚ) =
    (m - reachBelow m / 4) * 2 ^ e * (ofParts m e).denominator := by
  have hreach : reachBelow m ≤ 4 * m := by
    have hle := Near.reachBelow_le m
    omega
  have hscale := cast_scale (4 * m - reachBelow m) e
  rw [Nat.cast_sub hreach, zpow_sub₀ (by norm_num)] at hscale
  refine hscale.trans ?_
  show _ = (m - reachBelow m / 4) * 2 ^ e * ((if 2 ≤ e then 1 else 1 <<< (2 - e).toNat : ℕ) : ℚ)
  push_cast
  ring

theorem high_ofParts (m : ℕ) (e : ℤ) : ((ofParts m e).high : ℚ) =
    (m + 1 / 2) * 2 ^ e * (ofParts m e).denominator := by
  have hscale := cast_scale (4 * m + 2) e
  rw [zpow_sub₀ (by norm_num)] at hscale
  refine hscale.trans ?_
  show _ = (m + 1 / 2) * 2 ^ e * ((if 2 ≤ e then 1 else 1 <<< (2 - e).toNat : ℕ) : ℚ)
  push_cast
  ring

theorem center_ofParts (m : ℕ) (e : ℤ) : (ofParts m e).center = m * 2 ^ e := by
  have hden : ((ofParts m e).denominator : ℚ) ≠ 0 := by
    exact_mod_cast Nat.ne_of_gt (denominator_ofParts_pos m e)
  have hscale := cast_scale (4 * m) e
  rw [zpow_sub₀ (by norm_num)] at hscale
  rw [center, div_eq_iff hden]
  refine hscale.trans ?_
  show _ = m * 2 ^ e * ((if 2 ≤ e then 1 else 1 <<< (2 - e).toNat : ℕ) : ℚ)
  push_cast
  ring

/-- The interval of a double holds the values near it. -/
theorem contains_ofParts_iff (hm : 0 < m) : (ofParts m e).Contains v ↔ Near m e v := by
  have hden : (0 : ℚ) < (ofParts m e).denominator := by exact_mod_cast denominator_ofParts_pos m e
  have hunit : (0 : ℚ) < 2 ^ e := by positivity
  have hclosed : (ofParts m e).closed = false ↔ m % 2 = 1 := by
    show decide (m % 2 = 0) = false ↔ _
    rw [decide_eq_false_iff_not]
    exact Nat.mod_two_ne_zero
  have hlow : ((ofParts m e).low : ℚ) ≤ v * (ofParts m e).denominator ↔
      (m : ℚ) - reachBelow m / 4 ≤ v / 2 ^ e := by
    rw [low_ofParts hm, mul_le_mul_iff_left₀ hden, le_div_iff₀ hunit]
  have hhigh : v * (ofParts m e).denominator ≤ (ofParts m e).high ↔ v / 2 ^ e ≤ m + 1 / 2 := by
    rw [high_ofParts, mul_le_mul_iff_left₀ hden, div_le_iff₀ hunit]
  have hlow' : ((ofParts m e).low : ℚ) < v * (ofParts m e).denominator ↔
      (m : ℚ) - reachBelow m / 4 < v / 2 ^ e := by
    rw [low_ofParts hm, mul_lt_mul_iff_left₀ hden, lt_div_iff₀ hunit]
  have hhigh' : v * (ofParts m e).denominator < (ofParts m e).high ↔ v / 2 ^ e < m + 1 / 2 := by
    rw [high_ofParts, mul_lt_mul_iff_left₀ hden, div_lt_iff₀ hunit]
  constructor
  · intro h
    exact ⟨hlow.1 h.low, hhigh.1 h.high,
      fun hm => (h.ends (hclosed.2 hm)).imp hlow'.1 hhigh'.1⟩
  · intro h
    exact ⟨hlow.2 h.low, hhigh.2 h.high,
      fun hm => (h.ends (hclosed.1 hm)).imp hlow'.2 hhigh'.2⟩

end Interval

/-! ## Fine grids -/

/-- A value not far above a double is near it. -/
theorem Near.of_above (hlow : m * 2 ^ e < v) (hhigh : v < (m + 1 / 2) * 2 ^ e) : Near m e v := by
  have hunit : (0 : ℚ) < 2 ^ e := by positivity
  have habove : (m : ℚ) < v / 2 ^ e := (lt_div_iff₀ hunit).2 hlow
  have hreach : (m : ℚ) - reachBelow m / 4 ≤ m := sub_le_self _ (by positivity)
  have hbelow : v / 2 ^ e < m + 1 / 2 := (div_lt_iff₀ hunit).2 hhigh
  exact ⟨(hreach.trans_lt habove).le, hbelow.le, fun _ => ⟨hreach.trans_lt habove, hbelow⟩⟩

/-- A grid that is fine enough has a point in the interval. -/
theorem nearest?_ofParts_isSome (hm : 0 < m) (hk : (10 : ℚ) ^ k ≤ 2 ^ (e - 2)) :
    ((Interval.ofParts m e).inUnits k).nearest?.isSome := by
  have hten : (0 : ℚ) < 10 ^ k := by positivity
  have hunit : (0 : ℚ) < 2 ^ e := by positivity
  obtain ⟨hlow, hhigh⟩ := Interval.lt_succ_div
    (Interval.denominator_inUnits_pos (Interval.denominator_ofParts_pos m e) k)
  rw [Interval.center_inUnits, Interval.center_ofParts] at hlow hhigh
  rw [zpow_sub₀ (by norm_num)] at hk
  refine Interval.nearest?_isSome ?_
  rw [Interval.holds_iff, Interval.contains_inUnits_iff, Interval.contains_ofParts_iff hm]
  refine Near.of_above ((div_lt_iff₀ hten).1 hlow) ?_
  rw [div_add_one hten.ne', le_div_iff₀ hten] at hhigh
  linarith

theorem zpow_pow_comm (a : ℚ) (k : ℤ) (n : ℕ) : (a ^ k) ^ n = (a ^ n) ^ k := by
  rw [← zpow_natCast, ← zpow_natCast, ← zpow_mul, ← zpow_mul, mul_comm]

/-- As `10^3` is below `2^10`. -/
theorem ten_zpow_le_of_nonneg {f : ℤ} (hk : 0 ≤ k) (h : 10 * k ≤ 3 * f) : (10 : ℚ) ^ k ≤ 2 ^ f := by
  refine (pow_le_pow_iff_left₀ (by positivity) (by positivity) (by decide : 3 ≠ 0)).1 ?_
  calc ((10 : ℚ) ^ k) ^ 3 = (10 ^ 3) ^ k := zpow_pow_comm ..
    _ ≤ (2 ^ 10) ^ k := zpow_le_zpow_left₀ hk (by norm_num) (by norm_num)
    _ = (2 ^ k) ^ 10 := (zpow_pow_comm ..).symm
    _ = 2 ^ (k * 10) := by rw [zpow_mul]; rfl
    _ ≤ 2 ^ (f * 3) := zpow_le_zpow_right₀ (by norm_num) (by omega)
    _ = (2 ^ f) ^ 3 := by rw [zpow_mul]; rfl

/-- As `10^10` is above `2^33`. -/
theorem ten_zpow_le_of_nonpos {f : ℤ} (hk : k ≤ 0) (h : 33 * k ≤ 10 * f) : (10 : ℚ) ^ k ≤ 2 ^ f := by
  refine (pow_le_pow_iff_left₀ (by positivity) (by positivity) (by decide : 10 ≠ 0)).1 ?_
  have hbase : ((2 : ℚ) ^ 33) ^ (-k) ≤ (10 ^ 10) ^ (-k) :=
    zpow_le_zpow_left₀ (by omega) (by norm_num) (by norm_num)
  have hinv : ((10 : ℚ) ^ 10) ^ k ≤ (2 ^ 33) ^ k := by
    rwa [zpow_neg, zpow_neg, inv_le_inv₀ (by positivity) (by positivity)] at hbase
  calc ((10 : ℚ) ^ k) ^ 10 = (10 ^ 10) ^ k := zpow_pow_comm ..
    _ ≤ (2 ^ 33) ^ k := hinv
    _ = (2 ^ k) ^ 33 := (zpow_pow_comm ..).symm
    _ = 2 ^ (k * 33) := by rw [zpow_mul]; rfl
    _ ≤ 2 ^ (f * 10) := zpow_le_zpow_right₀ (by norm_num) (by omega)
    _ = (2 ^ f) ^ 10 := by rw [zpow_mul]; rfl

/-- The last grid that is tried is fine enough. -/
theorem last_grid_le (hc : Canonical m e) : (10 : ℚ) ^ (decimalCeiling m e - 20) ≤ 2 ^ (e - 2) := by
  have hlog : m.log2 < 53 := (Nat.log2_lt (Nat.ne_of_gt hc.pos)).2 hc.lt
  have hlow := hc.le_exponent
  have hhigh := hc.exponent_le
  by_cases hk : 0 ≤ decimalCeiling m e - 20
  · refine ten_zpow_le_of_nonneg hk ?_
    unfold decimalCeiling
    omega
  · refine ten_zpow_le_of_nonpos (by omega) ?_
    unfold decimalCeiling
    omega

/-- The shortest decimal of a double is near it. -/
theorem near_shortest (hc : Canonical m e) : Near m e ((shortest m e).1 * 10 ^ (shortest m e).2) := by
  have hsome : ((Interval.ofParts m e).coarsest? 21 (decimalCeiling m e)).isSome :=
    Interval.coarsest?_isSome (by decide : 20 < 21)
      (nearest?_ofParts_isSome hc.pos (last_grid_le hc))
  obtain ⟨point, hpoint⟩ := Option.isSome_iff_exists.1 hsome
  rw [shortest, hpoint]
  exact (Interval.contains_ofParts_iff hc.pos).1 (Interval.coarsest?_contains hpoint)

end Criteria.Number
