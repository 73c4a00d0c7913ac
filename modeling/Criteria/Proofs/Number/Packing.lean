import Criteria.Proofs.Number

/-!
# Bits and parts

The bits of a double fall apart into sign, exponent and mantissa, and are put together from them again.

* `Canonical` — a mantissa and an exponent as a double has them.
* `unpack_pack_finite`, `pack_unpack` — unpacking and packing undo each other.
* `unpack_eq`, `Parts.canonical` — the parts of a double are its unpacked form.
* `isNaN_pack` — packing makes no NaN.
-/

set_option autoImplicit false

namespace Criteria.Number

open Float.Model UnpackedFloat

/-! ## Bits -/

theorem toBitVec_ofBitVec : ∀ b : BitVec 1, (Sign.ofBitVec b).toBitVec = b := by decide

theorem ofBitVec_toBitVec (s : Sign) : Sign.ofBitVec s.toBitVec = s := by
  cases s <;> rfl

/-- The bits are those of the sign, then those of the exponent, then those of the mantissa. -/
theorem packComponents_unpack (b : BitVec Format.binary64.numBits) :
    packComponents Format.binary64 (Sign.ofBitVec (unpackSign b)) (unpackExponent b)
      (unpackMantissa b) = b := by
  rw [packComponents, toBitVec_ofBitVec, unpackSign, unpackExponent, unpackMantissa]
  simp only [BitVec.extractLsb, BitVec.cast_eq]
  rw [BitVec.extractLsb'_append_extractLsb'_eq_extractLsb' (by decide),
    BitVec.extractLsb'_append_extractLsb'_eq_extractLsb' (by decide)]
  exact BitVec.extractLsb'_eq_self

theorem unpackSign_packComponents (s : Sign) (e : BitVec 11) (m : BitVec 52) :
    unpackSign (packComponents Format.binary64 s e m) = s.toBitVec := by
  ext i hi
  obtain rfl : i = 0 := by omega
  have hbit : (s.toBitVec ++ e ++ m).getLsbD 63 = s.toBitVec[0] := by
    rw [BitVec.getLsbD_append, BitVec.getLsbD_append]
    rfl
  rw [unpackSign, packComponents, BitVec.getElem_cast, BitVec.extractLsb, BitVec.getElem_extractLsb']
  exact hbit

/-- A normal mantissa has its first bit besides those that are kept. -/
theorem toNat_one_append (b : BitVec 52) : (1#1 ++ b).toNat = 2 ^ 52 + b.toNat := by
  have hfirst : (1#1).toNat <<< 52 = 2 ^ 52 := rfl
  rw [BitVec.toNat_append, ← Nat.shiftLeft_add_eq_or_of_lt b.isLt, hfirst]

/-! ## Canonical numbers -/

/-- A mantissa and an exponent that a double has. -/
structure Canonical (m : Nat) (e : Int) : Prop where
  pos : 0 < m
  lt : m < 2 ^ 53
  le_exponent : -1074 ≤ e
  exponent_le : e ≤ 971
  /-- Only at the least exponent the first bit of the mantissa may be missing. -/
  normal : 2 ^ 52 ≤ m ∨ e = -1074

section Pack

variable {m : Nat} {e : Int} (s : Sign) (hm : 0 < m)

theorem mantissaBits_eq : Format.binary64.mantissaBits = 53 := rfl

theorem log2_eq {m : Nat} (hlow : 2 ^ 52 ≤ m) (hhigh : m < 2 ^ 53) : m.log2 = 52 := by
  rw [Nat.log2_eq_iff (by omega)]
  exact ⟨hlow, hhigh⟩

/-- The exponent as it is kept, from one on. -/
def biased (e : Int) : Nat := (e + 1075).toNat

theorem biased_eq (e : Int) : (e + (Format.binary64.exponentBias : Nat) +
    (Format.binary64.mantissaBitsWithoutImplicit : Nat)).toNat = biased e := by
  have hbias : ((Format.binary64.exponentBias : Nat) : Int) = 1023 := rfl
  have hbits : ((Format.binary64.mantissaBitsWithoutImplicit : Nat) : Int) = 52 := rfl
  rw [hbias, hbits, biased]
  omega

theorem pack_normal (hlow : 2 ^ 52 ≤ m) (hhigh : m < 2 ^ 53) (he : e ≤ 971) :
    UnpackedFloat.pack Format.binary64 (.finite s m e hm) =
      packComponents Format.binary64 s (BitVec.ofNat 11 (biased e)) (BitVec.ofNat 52 m) := by
  have hfinite : ¬ 2 ^ Format.binary64.exponentBits ≤ biased e + 1 := by
    have hbits : 2 ^ Format.binary64.exponentBits = 2048 := rfl
    rw [biased]
    omega
  have hlog : m.log2 + 1 = Format.binary64.mantissaBits := by
    rw [log2_eq hlow hhigh]
    rfl
  simp only [UnpackedFloat.pack]
  rw [biased_eq, if_neg hfinite, if_pos hlog]

theorem pack_subnormal (h : m < 2 ^ 52) :
    UnpackedFloat.pack Format.binary64 (.finite s m (-1074) hm) =
      packComponents Format.binary64 s 0#11 (BitVec.ofNat 52 m) := by
  have hfinite : ¬ 2 ^ Format.binary64.exponentBits ≤ biased (-1074) + 1 := by decide
  have hlog : ¬ m.log2 + 1 = Format.binary64.mantissaBits := by
    have hlt := (Nat.log2_lt (Nat.ne_of_gt hm)).2 h
    rw [mantissaBits_eq]
    omega
  simp only [UnpackedFloat.pack]
  rw [biased_eq, if_neg hfinite, if_neg hlog]

theorem unpack_normal (hlow : 2 ^ 52 ≤ m) (hhigh : m < 2 ^ 53) (he : -1074 ≤ e) (he' : e ≤ 971) :
    UnpackedFloat.unpack Format.binary64
      (packComponents Format.binary64 s (BitVec.ofNat 11 (biased e)) (BitVec.ofNat 52 m)) =
        .finite s m e hm := by
  have hexponent : (BitVec.ofNat 11 (biased e)).toNat = biased e := by
    rw [BitVec.toNat_ofNat, Nat.mod_eq_of_lt (by rw [biased]; omega)]
  have hones : BitVec.ofNat 11 (biased e) ≠ -1#11 := by
    intro h
    have hnat : biased e = 2047 := hexponent.symm.trans (congrArg BitVec.toNat h)
    rw [biased] at hnat
    omega
  have hzero : BitVec.ofNat 11 (biased e) ≠ 0#11 := by
    intro h
    have hnat : biased e = 0 := hexponent.symm.trans (congrArg BitVec.toNat h)
    rw [biased] at hnat
    omega
  have hmantissa : (1#1 ++ BitVec.ofNat 52 m).toNat = m := by
    rw [toNat_one_append, BitVec.toNat_ofNat]
    omega
  have hbias : ((Format.binary64.exponentBias : Nat) : Int) = 1023 := rfl
  rw [UnpackedFloat.unpack]
  simp only [unpackExponent_packComponents, unpackMantissa_packComponents, unpackSign_packComponents]
  rw [if_neg hones, if_neg hzero]
  refine (finite.injEq ..).mpr ⟨ofBitVec_toBitVec s, hmantissa, ?_⟩
  rw [hexponent, hbias, biased]
  omega

theorem unpack_subnormal (h : m < 2 ^ 52) : UnpackedFloat.unpack Format.binary64
    (packComponents Format.binary64 s 0#11 (BitVec.ofNat 52 m)) = .finite s m (-1074) hm := by
  have hmantissa : (BitVec.ofNat 52 m).toNat = m := by
    rw [BitVec.toNat_ofNat, Nat.mod_eq_of_lt h]
  have hne : BitVec.ofNat 52 m ≠ 0#52 := by
    intro h
    have hnat : m = 0 := hmantissa.symm.trans (congrArg BitVec.toNat h)
    omega
  rw [UnpackedFloat.unpack]
  simp only [unpackExponent_packComponents, unpackMantissa_packComponents, unpackSign_packComponents]
  rw [if_neg (by decide), if_pos trivial, dif_neg hne]
  exact (finite.injEq ..).mpr ⟨ofBitVec_toBitVec s, hmantissa, rfl⟩

/-- A canonical number is the same after packing and unpacking. -/
theorem unpack_pack_finite (h : Canonical m e) :
    (Float.Model.pack (.finite s m e hm)).unpack = .finite s m e hm := by
  show UnpackedFloat.unpack Format.binary64 (UnpackedFloat.pack Format.binary64 _) = _
  by_cases hlow : 2 ^ 52 ≤ m
  · rw [pack_normal s hm hlow h.lt h.exponent_le,
      unpack_normal s hm hlow h.lt h.le_exponent h.exponent_le]
  · obtain rfl : e = -1074 := h.normal.resolve_left hlow
    rw [pack_subnormal s hm (Nat.lt_of_not_le hlow), unpack_subnormal s hm (Nat.lt_of_not_le hlow)]

end Pack

/-! ## Unpacked doubles -/

def Parts.sign (negative : Bool) : Sign := if negative then .negative else .positive

/-- The unpacked form of the parts of a double. -/
def Parts.unpacked : Parts → UnpackedFloat
  | .nan => .notANumber
  | .infinite negative => .infinity (sign negative)
  | .finite negative m e =>
    if h : m = 0 then .zero (sign negative) else .finite (sign negative) m e (Nat.pos_of_ne_zero h)

section Unpack

variable (x : Float)

theorem toNat_unpackMantissa :
    (UnpackedFloat.unpackMantissa (packed x)).toNat = x.toBits.toNat % hiddenBit := by
  simp [UnpackedFloat.unpackMantissa, hiddenBit]

/-- A double is unpacked to its parts. -/
theorem unpack_eq : x.toModel.unpack = (Parts.ofFloat x).unpacked := by
  have hunpack : x.toModel.unpack = UnpackedFloat.unpack .binary64 (packed x) := rfl
  have hmantissa := unpackMantissa_eq_zero_iff x
  have hones := unpackExponent_eq_ones_iff x
  have hzero := unpackExponent_eq_zero_iff x
  have hsign : Sign.ofBitVec (unpackSign (packed x)) =
      Parts.sign (decide (signBit ≤ x.toBits.toNat)) := by
    rw [ofBitVec_unpackSign, Parts.sign]
    simp only [decide_eq_true_eq]
  have hbias : ((Format.binary64.exponentBias : Nat) : Int) = 1023 := rfl
  rw [hunpack, UnpackedFloat.unpack, Parts.ofFloat]
  simp only [hsign, hones]
  split
  · simp only [hmantissa]
    split <;> rfl
  rename_i hfinite
  simp only [hzero]
  split
  · rename_i hsubnormal
    simp only [Parts.unpacked, hmantissa, toNat_unpackMantissa, toNat_unpackExponent, hsubnormal]
    split
    · rfl
    · refine (finite.injEq ..).mpr ⟨rfl, rfl, ?_⟩
      rw [hbias, leastExponent]
      rfl
  · rename_i hnormal
    have hpos : hiddenBit + x.toBits.toNat % hiddenBit ≠ 0 := by
      rw [hiddenBit]
      omega
    rw [Parts.unpacked, dif_neg hpos]
    refine (finite.injEq ..).mpr ⟨rfl, ?_, ?_⟩
    · rw [toNat_one_append, toNat_unpackMantissa]
      rfl
    · rw [toNat_unpackExponent, hbias, leastExponent]
      omega

/-- The parts of a double that is no zero are canonical. -/
theorem Parts.canonical {negative : Bool} {m : Nat} {e : Int}
    (h : Parts.ofFloat x = .finite negative m e) (hm : m ≠ 0) : Canonical m e := by
  have hfraction : x.toBits.toNat % hiddenBit < 2 ^ 52 := Nat.mod_lt _ (by decide)
  have hexponent : x.toBits.toNat / hiddenBit % 2048 < 2048 := Nat.mod_lt _ (by decide)
  have hhidden : hiddenBit = 2 ^ 52 := rfl
  have hleast : leastExponent = -1074 := rfl
  unfold Parts.ofFloat at h
  dsimp only at h
  split at h
  · split at h <;> cases h
  split at h
  · cases h
    exact ⟨Nat.pos_of_ne_zero hm, by omega, by omega, by omega, .inr hleast⟩
  · cases h
    exact ⟨by omega, by omega, by omega, by omega, .inl (by omega)⟩

end Unpack

/-- Bits of which only one stands for NaN are the same after unpacking and packing. -/
theorem pack_unpack_of_valid {b : BitVec Format.binary64.numBits} (hb : Format.binary64.Valid b) :
    UnpackedFloat.pack Format.binary64 (UnpackedFloat.unpack Format.binary64 b) = b := by
  have hbits := packComponents_unpack b
  have hmlt : (unpackMantissa b).toNat < 2 ^ 52 := (unpackMantissa b).isLt
  have helt : (unpackExponent b).toNat < 2048 := (unpackExponent b).isLt
  have hbias : ((Format.binary64.exponentBias : Nat) : Int) = 1023 := rfl
  rw [UnpackedFloat.unpack]
  split
  · rename_i hexponent
    split
    · rename_i hmantissa
      rw [hexponent, hmantissa] at hbits
      exact hbits
    · rename_i hmantissa
      exact (hb.eq_packedNaN hexponent hmantissa).symm
  rename_i hfinite
  split
  · rename_i hexponent
    rw [hexponent] at hbits
    split
    · rename_i hmantissa
      rw [hmantissa] at hbits
      exact hbits
    · have he : ((unpackExponent b).toNat : Int) -
          ((Format.binary64.exponentBias : Nat) + (52 : Nat)) + 1 = -1074 := by
        rw [hexponent, hbias]
        rfl
      simp only [he]
      rw [pack_subnormal _ _ hmlt, BitVec.ofNat_toNat, BitVec.setWidth_eq]
      exact hbits
  · rename_i hnormal
    have hne : (unpackExponent b).toNat ≠ 2047 := fun h =>
      hfinite (BitVec.eq_of_toNat_eq (h.trans rfl))
    have hpos : (unpackExponent b).toNat ≠ 0 := fun h =>
      hnormal (BitVec.eq_of_toNat_eq (h.trans rfl))
    have hmantissa : BitVec.ofNat 52 (1#1 ++ unpackMantissa b).toNat = unpackMantissa b := by
      apply BitVec.eq_of_toNat_eq
      rw [BitVec.toNat_ofNat, toNat_one_append]
      omega
    have hexponent : BitVec.ofNat 11 (biased ((unpackExponent b).toNat -
        ((Format.binary64.exponentBias : Nat) + (52 : Nat)))) = unpackExponent b := by
      apply BitVec.eq_of_toNat_eq
      rw [BitVec.toNat_ofNat, biased, hbias]
      omega
    have hlow : 2 ^ 52 ≤ (1#1 ++ unpackMantissa b).toNat := by
      rw [toNat_one_append]
      omega
    have hhigh : (1#1 ++ unpackMantissa b).toNat < 2 ^ 53 := by
      rw [toNat_one_append]
      omega
    have he : ((unpackExponent b).toNat : Int) -
        ((Format.binary64.exponentBias : Nat) + (52 : Nat)) ≤ 971 := by
      rw [hbias]
      omega
    rw [pack_normal _ _ hlow hhigh he, hmantissa, hexponent]
    exact hbits

/-- Packing what was unpacked gives the same double. -/
theorem pack_unpack (x : Float) : Float.ofModel (Float.Model.pack x.toModel.unpack) = x := by
  obtain ⟨bits, hvalid⟩ := x
  simp only [Float.Model.pack, Float.Model.unpack, pack_unpack_of_valid hvalid]

/-- A double is told by its unpacked form. -/
theorem eq_of_unpack {x : Float} {u : UnpackedFloat} (h : (Parts.ofFloat x).unpacked = u) :
    x = Float.ofModel (Float.Model.pack u) := by
  rw [← h, ← unpack_eq, pack_unpack]

/-! ## NaN -/

/-- There is one NaN. -/
theorem eq_nan_of_isNaN {x : Float} (h : x.isNaN = true) : x = nan := by
  refine eq_of_unpack (u := .notANumber) ?_
  have hunpack : (Parts.ofFloat x).unpacked.isNaN = true := by
    rw [← unpack_eq]
    exact h
  cases hu : (Parts.ofFloat x).unpacked with
  | notANumber => rfl
  | _ =>
    rw [hu] at hunpack
    cases hunpack

/-- The bits of a NaN have all those of the exponent and one of the mantissa. -/
theorem isNaN_unpack_iff (b : BitVec Format.binary64.numBits) :
    (UnpackedFloat.unpack Format.binary64 b).isNaN = true ↔
      unpackExponent b = -1#11 ∧ unpackMantissa b ≠ 0#52 := by
  rw [UnpackedFloat.unpack]
  split
  · split <;> simp_all [UnpackedFloat.isNaN]
  · split
    · split <;> simp_all [UnpackedFloat.isNaN]
    · simp_all [UnpackedFloat.isNaN]

/-- Packing makes a NaN of nothing else. -/
theorem isNaN_pack (u : UnpackedFloat) : (Float.Model.pack u).unpack.isNaN = u.isNaN := by
  cases u with
  | notANumber => rfl
  | infinity s => cases s <;> rfl
  | zero s => cases s <;> rfl
  | finite s m e hm =>
    show (UnpackedFloat.unpack _ (UnpackedFloat.pack Format.binary64 (.finite s m e hm))).isNaN = false
    rw [Bool.eq_false_iff, Ne, isNaN_unpack_iff]
    simp only [UnpackedFloat.pack]
    rw [biased_eq]
    split
    · rw [packedInfinity, unpackMantissa_packComponents]
      exact fun h => h.2 rfl
    split
    · rename_i hfinite _
      have hlt : biased e + 1 < 2048 := Nat.lt_of_not_le hfinite
      rw [unpackExponent_packComponents]
      rintro ⟨h, -⟩
      have hnat : biased e % 2048 = 2047 := (BitVec.toNat_ofNat ..).symm.trans (congrArg BitVec.toNat h)
      omega
    · rw [unpackExponent_packComponents]
      exact fun h => absurd h.1 (by decide)

end Criteria.Number
