import Criteria.Proofs.Number.Rounding

/-!
# Values that round to a double

A computed result is a mantissa with two bits that say how far off it is. These are enough to round it:
every value closer to a double than half the way to its neighbours comes out as this double.

* `Denotes` — the value of a mantissa with its two bits.
* `Rounds` — the integer that a value is rounded to.
* `Near` — the values that round to a double.
* `roundWithAccuracy_of_near` — rounding a value that is near a double gives the double.
-/

set_option autoImplicit false

namespace Criteria.Number

open Float.Model UnpackedFloat

/-! ## Rounding to an integer -/

/-- The value is nearest to the integer, which is even if there is another one just as near. -/
structure Rounds (x : ℚ) (k : ℕ) : Prop where
  low : (k : ℚ) - 1 / 2 ≤ x
  high : x ≤ k + 1 / 2
  even : x = k - 1 / 2 ∨ x = k + 1 / 2 → k % 2 = 0

theorem Rounds.le {x : ℚ} {k l : ℕ} (hk : Rounds x k) (hl : Rounds x l) : k ≤ l := by
  by_contra hlt
  have hsucc : (l : ℚ) + 1 ≤ k := by exact_mod_cast Nat.lt_of_not_le hlt
  have hlow := hk.low
  have hhigh := hl.high
  -- the value lies halfway between the two, and only one of them is even
  have hl_even := hl.even (.inr (by linarith))
  have hk_even := hk.even (.inl (by linarith))
  have hk_eq : (k : ℚ) = (l + 1 : ℕ) := by
    push_cast
    linarith
  have hnat : k = l + 1 := by exact_mod_cast hk_eq
  omega

theorem Rounds.unique {x : ℚ} {k l : ℕ} (hk : Rounds x k) (hl : Rounds x l) : k = l :=
  Nat.le_antisymm (hk.le hl) (hl.le hk)

/-! ## The two bits -/

/-- The value of a mantissa with its two bits. The first says whether half a unit comes on top of it, the
second whether there is less than half a unit more. -/
inductive Denotes : ExtendedMantissa → ℚ → Prop where
  | exact (m : ℕ) : Denotes ⟨m, false, false⟩ m
  | below {m : ℕ} {x : ℚ} (hlow : m < x) (hhigh : x < m + 1 / 2) : Denotes ⟨m, false, true⟩ x
  | half (m : ℕ) : Denotes ⟨m, true, false⟩ (m + 1 / 2)
  | above {m : ℕ} {x : ℚ} (hlow : m + 1 / 2 < x) (hhigh : x < m + 1) : Denotes ⟨m, true, true⟩ x

theorem shiftRightOne_double (m : ℕ) (round sticky : Bool) :
    (ExtendedMantissa.mk (2 * m) round sticky).shiftRightOne = ⟨m, false, round || sticky⟩ := by
  have hbit : (2 * m % 2 != 0) = false := by simp
  rw [ExtendedMantissa.shiftRightOne, hbit, Nat.mul_div_cancel_left m (by decide)]

theorem shiftRightOne_double_add_one (m : ℕ) (round sticky : Bool) :
    (ExtendedMantissa.mk (2 * m + 1) round sticky).shiftRightOne = ⟨m, true, round || sticky⟩ := by
  have hbit : ((2 * m + 1) % 2 != 0) = true := by
    rw [bne_iff_ne]
    omega
  have hhalf : (2 * m + 1) / 2 = m := by omega
  rw [ExtendedMantissa.shiftRightOne, hbit, hhalf]

namespace Denotes

variable {em : ExtendedMantissa} {x : ℚ}

theorem bounds (h : Denotes em x) : em.mantissa ≤ x ∧ x < em.mantissa + 1 := by
  cases h with
  | exact m => constructor <;> linarith
  | below hlow hhigh => constructor <;> linarith
  | half m => constructor <;> linarith
  | above hlow hhigh => constructor <;> linarith

/-- Half the value has the last bit of the mantissa as its first one. -/
theorem shiftRightOne (h : Denotes em x) : Denotes em.shiftRightOne (x / 2) := by
  obtain ⟨n, round, sticky⟩ := em
  obtain ⟨m, rfl | rfl⟩ := Nat.even_or_odd' n
  · rw [shiftRightOne_double]
    cases h with
    | exact =>
      have hx : ((2 * m : ℕ) : ℚ) / 2 = m := by
        push_cast
        ring
      rw [hx]
      exact .exact m
    | below hlow hhigh | above hlow hhigh =>
      push_cast at hlow hhigh
      exact .below (by linarith) (by linarith)
    | half => exact .below (by push_cast; linarith) (by push_cast; linarith)
  · rw [shiftRightOne_double_add_one]
    cases h with
    | exact =>
      have hx : ((2 * m + 1 : ℕ) : ℚ) / 2 = m + 1 / 2 := by
        push_cast
        ring
      rw [hx]
      exact .half m
    | below hlow hhigh | above hlow hhigh =>
      push_cast at hlow hhigh
      exact .above (by linarith) (by linarith)
    | half => exact .above (by push_cast; linarith) (by push_cast; linarith)

theorem shiftRight (h : Denotes em x) (t : ℕ) : Denotes (em >>> t) (x / 2 ^ t) := by
  show Denotes (t.repeat ExtendedMantissa.shiftRightOne em) _
  induction t with
  | zero => simpa [Nat.repeat] using h
  | succ t ih =>
    rw [pow_succ, ← div_div]
    exact ih.shiftRightOne

theorem rounds (h : Denotes em x) : Rounds x em.roundedMantissa := by
  cases h with
  | exact m =>
    show Rounds m m
    exact ⟨by linarith, by linarith, fun h => by rcases h with h | h <;> linarith⟩
  | @below m x hlow hhigh =>
    show Rounds x m
    exact ⟨by linarith, by linarith, fun h => by rcases h with h | h <;> linarith⟩
  | half m =>
    show Rounds (m + 1 / 2) (m + m % 2)
    rcases Nat.mod_two_eq_zero_or_one m with hm | hm <;> rw [hm]
    · exact ⟨by push_cast; linarith, by push_cast; linarith, fun _ => hm⟩
    · exact ⟨by push_cast; linarith, by push_cast; linarith, fun _ => by omega⟩
  | @above m x hlow hhigh =>
    show Rounds x (m + 1)
    refine ⟨by push_cast; linarith, by push_cast; linarith, fun h => ?_⟩
    push_cast at h
    rcases h with h | h <;> linarith

end Denotes

/-! ## Values near a double -/

/-- How far the values that round to a mantissa go down from it, in quarters of its last bit. Below a
power of two the next double is half as far. -/
def reachBelow (m : ℕ) : ℕ := if m = hiddenBit then 1 else 2

/-- The value is one of those that round to `m · 2^e`. -/
structure Near (m : ℕ) (e : ℤ) (v : ℚ) : Prop where
  low : (m : ℚ) - reachBelow m / 4 ≤ v / 2 ^ e
  high : v / 2 ^ e ≤ m + 1 / 2
  /-- The ends of the interval belong to the even one of two neighbours. -/
  ends : m % 2 = 1 → (m : ℚ) - reachBelow m / 4 < v / 2 ^ e ∧ v / 2 ^ e < m + 1 / 2

namespace Near

variable {m : ℕ} {e : ℤ} {v : ℚ}

theorem reachBelow_le (m : ℕ) : reachBelow m ≤ 2 := by
  unfold reachBelow
  split <;> decide

theorem reachBelow_pos (m : ℕ) : 0 < (reachBelow m : ℚ) := by
  unfold reachBelow
  split <;> norm_num

theorem half_le (h : Near m e v) : (m : ℚ) - 1 / 2 ≤ v / 2 ^ e := by
  have hreach : (reachBelow m : ℚ) ≤ 2 := by exact_mod_cast reachBelow_le m
  have hlow := h.low
  linarith

theorem rounds (h : Near m e v) : Rounds (v / 2 ^ e) m where
  low := h.half_le
  high := h.high
  even := by
    intro heq
    by_contra hodd
    obtain ⟨hlow, hhigh⟩ := h.ends (Nat.mod_two_ne_zero.1 hodd)
    have hreach : (reachBelow m : ℚ) ≤ 2 := by exact_mod_cast reachBelow_le m
    rcases heq with heq | heq <;> linarith

/-- A value between the double before a power of two and this power, with one more bit. -/
theorem rounds_double (h : Near (2 ^ 52) e v) (hlt : v / 2 ^ e < (2 ^ 52 : ℕ)) :
    Rounds (v / 2 ^ (e - 1)) (2 ^ 53) := by
  have hdouble : v / 2 ^ (e - 1) = 2 * (v / 2 ^ e) := by
    rw [zpow_sub_one₀ (by norm_num)]
    field_simp
  have hlow := h.low
  have hreach : reachBelow (2 ^ 52) = 1 := rfl
  rw [hreach] at hlow
  push_cast at hlow hlt
  rw [hdouble]
  exact ⟨by push_cast; linarith, by push_cast; linarith, fun _ => by decide⟩

end Near

/-! ## The exponent of the result -/

/-- The exponent to which a mantissa with an exponent is rounded. -/
def target (n : ℕ) (e : ℤ) : ℤ := max (n.log2 + e - 52) (-1074)

section Target

variable {m n : ℕ} {e f : ℤ} {v : ℚ}

/-- The last bit of the result is not before that of what is rounded. -/
theorem le_target (h : 2 ^ 52 ≤ n ∨ f ≤ -1074) : f ≤ target n f := by
  unfold target
  rcases h with h | h
  · have hlog : 52 ≤ n.log2 := (Nat.le_log2 (by omega)).2 h
    omega
  · omega

theorem Canonical.target_eq (h : Canonical m e) : target m e = e := by
  have hlow := h.le_exponent
  unfold target
  rcases h.normal with hnormal | hleast
  · rw [log2_eq hnormal h.lt]
    omega
  · have hlog : m.log2 < 53 := (Nat.log2_lt (Nat.ne_of_gt h.pos)).2 h.lt
    omega

/-- The first bit of a value. -/
theorem two_zpow_log2_le (hn : n ≠ 0) (h : (n : ℚ) ≤ v / 2 ^ f) : (2 : ℚ) ^ (n.log2 + f) ≤ v := by
  have hpow : (2 : ℚ) ^ (n.log2 : ℤ) ≤ n := by exact_mod_cast Nat.log2_self_le hn
  rw [zpow_add₀ (by norm_num), ← le_div_iff₀ (by positivity)]
  exact hpow.trans h

theorem lt_two_zpow_log2 (h : v / 2 ^ f < n + 1) : v < (2 : ℚ) ^ (n.log2 + 1 + f) := by
  have hpow : (n : ℚ) + 1 ≤ 2 ^ ((n.log2 : ℤ) + 1) := by exact_mod_cast Nat.lt_log2_self
  rw [zpow_add₀ (by norm_num), ← div_lt_iff₀ (by positivity)]
  exact h.trans_le hpow

theorem lt_of_zpow {a b : ℤ} (ha : (2 : ℚ) ^ a ≤ v) (hb : v < 2 ^ b) : a < b :=
  (zpow_lt_zpow_iff_right₀ (by norm_num)).1 (ha.trans_lt hb)

theorem Near.lt_two_zpow (hc : Canonical m e) (hv : Near m e v) : v < (2 : ℚ) ^ (53 + e) := by
  have hm : (m : ℚ) + 1 ≤ 2 ^ (53 : ℤ) := by exact_mod_cast hc.lt
  have hhigh := hv.high
  rw [zpow_add₀ (by norm_num), ← div_lt_iff₀ (by positivity)]
  linarith

/-- The exponent of the result is not larger than that of a double near by. -/
theorem target_le (hc : Canonical m e) (hv : Near m e v) (hlow : (n : ℚ) ≤ v / 2 ^ f)
    (hbits : 2 ^ 52 ≤ n ∨ f ≤ -1074) : target n f ≤ e := by
  have hleast := hc.le_exponent
  unfold target
  by_cases hn : n = 0
  · subst hn
    have hlog : (0 : ℕ).log2 = 0 := rfl
    omega
  · have hlt := lt_of_zpow (two_zpow_log2_le hn hlow) (hv.lt_two_zpow hc)
    omega

/-- A value near a normal double is that large. -/
theorem Near.two_zpow_le (hm : 2 ^ 52 ≤ m) (hv : Near m e v) : (2 : ℚ) ^ (51 + e) ≤ v := by
  have hhalf := hv.half_le
  have hm' : ((2 ^ 52 : ℕ) : ℚ) ≤ m := by exact_mod_cast hm
  push_cast at hm'
  rw [zpow_add₀ (by norm_num), ← le_div_iff₀ (by positivity)]
  norm_num
  linarith

/-- The exponent of a value near a double is that of the double, unless the value lies below a power of
two and the double is this power. -/
theorem target_of_near (hc : Canonical m e) (hv : Near m e v) (hlow : (n : ℚ) ≤ v / 2 ^ f)
    (hhigh : v / 2 ^ f < n + 1) (hbits : 2 ^ 52 ≤ n ∨ f ≤ -1074) :
    target n f = e ∨ target n f = e - 1 ∧ m = 2 ^ 52 ∧ v / 2 ^ e < (2 ^ 52 : ℕ) := by
  have hle := target_le hc hv hlow hbits
  have hleast := hc.le_exponent
  by_cases he : e = -1074
  -- there is no smaller exponent
  · left
    unfold target at hle ⊢
    omega
  have hm : 2 ^ 52 ≤ m := hc.normal.resolve_right he
  have hlog : 51 + e < n.log2 + 1 + f :=
    lt_of_zpow (hv.two_zpow_le hm) (lt_two_zpow_log2 hhigh)
  by_cases hbelow : v / 2 ^ e < (2 ^ 52 : ℕ)
  · right
    have hn : n ≠ 0 := by
      rintro rfl
      have hzero : (0 : ℕ).log2 = 0 := rfl
      omega
    have hlog' : n.log2 + f < 52 + e := by
      refine lt_of_zpow (two_zpow_log2_le hn hlow) ?_
      rw [zpow_add₀ (by norm_num), ← div_lt_iff₀ (by positivity)]
      exact_mod_cast hbelow
    have hm52 : m = 2 ^ 52 := by
      by_contra hne
      have hsucc : ((2 ^ 52 + 1 : ℕ) : ℚ) ≤ m := by
        exact_mod_cast Nat.lt_of_le_of_ne hm (Ne.symm hne)
      have hhalf := hv.half_le
      push_cast at hsucc hbelow
      linarith
    refine ⟨?_, hm52, hbelow⟩
    unfold target at hle ⊢
    omega
  · left
    have hlog' : 52 + e < n.log2 + 1 + f := by
      refine lt_of_zpow (v := v) ?_ (lt_two_zpow_log2 hhigh)
      rw [zpow_add₀ (by norm_num), ← le_div_iff₀ (by positivity)]
      exact_mod_cast not_lt.1 hbelow
    unfold target at hle ⊢
    omega

end Target

/-! ## Rounding -/

section Round

variable {m n : ℕ} {e f : ℤ} {v : ℚ}

theorem shiftToTargetExponent_of_le (acc : Accuracy) (h : f ≤ target n f) :
    shiftToTargetExponent Format.binary64 n f acc =
      (ExtendedMantissa.ofMantissaAndAccuracy n acc >>> (target n f - f).toNat, target n f) := by
  rw [shiftToTargetExponent, targetExponent_eq, shiftToExponent]
  have hexponent : f + (target n f - f).toNat = target n f := by omega
  exact congrArg (Prod.mk _) hexponent

/-- A mantissa that fits stays as it is. -/
theorem shiftToTargetExponent_self (h : target n f = f) :
    shiftToTargetExponent Format.binary64 n f .exact = (⟨n, false, false⟩, f) := by
  rw [shiftToTargetExponent_of_le .exact (Int.le_of_eq h.symm), h, Int.sub_self]
  rfl

theorem mantissa_bounds {acc : Accuracy} {x : ℚ}
    (h : Denotes (ExtendedMantissa.ofMantissaAndAccuracy n acc) x) : (n : ℚ) ≤ x ∧ x < n + 1 := by
  have hmantissa : (ExtendedMantissa.ofMantissaAndAccuracy n acc).mantissa = n := by
    cases acc with
    | exact => rfl
    | inexact o => cases o <;> rfl
  have hbounds := h.bounds
  rwa [hmantissa] at hbounds

/-- Rounding a value that is near a double, and is known with enough bits, gives the double. -/
theorem roundWithAccuracy_of_near (hc : Canonical m e) (hv : Near m e v) (s : Sign) {acc : Accuracy}
    (hn : Denotes (ExtendedMantissa.ofMantissaAndAccuracy n acc) (v / 2 ^ f))
    (hbits : 2 ^ 52 ≤ n ∨ f ≤ -1074) :
    roundWithAccuracy Format.binary64 s n f acc = .finite s m e hc.pos := by
  obtain ⟨hlow, hhigh⟩ := mantissa_bounds hn
  have hle := le_target hbits
  have hshifted : Denotes (ExtendedMantissa.ofMantissaAndAccuracy n acc >>> (target n f - f).toNat)
      (v / 2 ^ target n f) := by
    have hshift := hn.shiftRight (target n f - f).toNat
    rwa [div_div, ← zpow_natCast, Int.toNat_of_nonneg (by omega), ← zpow_add₀ (by norm_num),
      add_sub_cancel] at hshift
  have hrounds := hshifted.rounds
  rw [roundWithAccuracy, shiftToTargetExponent_of_le acc hle]
  dsimp only
  rcases target_of_near hc hv hlow hhigh hbits with htarget | ⟨htarget, rfl, hbelow⟩
  · rw [htarget] at hrounds ⊢
    rw [hrounds.unique hv.rounds, shiftToTargetExponent_self hc.target_eq]
    exact dif_neg (Nat.ne_of_gt hc.pos)
  · rw [htarget] at hrounds ⊢
    have hcarry : target (2 ^ 53) (e - 1) = e := by
      have hleast := hc.le_exponent
      rw [target, Nat.log2_two_pow]
      omega
    have hone : (target (2 ^ 53) (e - 1) - (e - 1)).toNat = 1 := by omega
    rw [hrounds.unique (hv.rounds_double hbelow),
      shiftToTargetExponent_of_le .exact (by omega), hone, hcarry]
    rfl

end Round

end Criteria.Number
