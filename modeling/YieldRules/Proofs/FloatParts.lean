import Mathlib
import YieldRules.Decimal.Binary
import YieldRules.Proofs.RoundedMantissas

/-!
# Parts of a float

The bits of a finite float are a sign, an exponent field and a fraction field, and these
stand for a significand and an exponent. Unpacking a float gives the same parts, and what
is packed from a binary number of the range holds that number.
-/

namespace YieldRules.Decimal

open Float.Model Float.Model.UnpackedFloat

variable {b : UInt64} {m : ℕ} {e : ℤ} {s : Sign} {x y : Float} {negative : Bool}

/-! ## Fields -/

/-- The exponent field of the bits. -/
def scaleField (b : UInt64) : ℕ :=
  b.toNat / 2 ^ 52 % 2 ^ 11

/-- The fraction field of the bits. -/
def fractionField (b : UInt64) : ℕ :=
  b.toNat % 2 ^ 52

theorem toNat_scale (b : UInt64) : (b >>> 52 &&& 0x7FF).toNat = scaleField b := by
  rw [UInt64.toNat_and, UInt64.toNat_shiftRight, Nat.shiftRight_eq_div_pow]
  exact Nat.and_two_pow_sub_one_eq_mod _ 11

theorem toNat_fraction (b : UInt64) : (b &&& 0xFFFFFFFFFFFFF).toNat = fractionField b := by
  rw [UInt64.toNat_and]
  exact Nat.and_two_pow_sub_one_eq_mod _ 52

theorem toNat_sign (b : UInt64) : (b >>> 63).toNat = b.toNat / 2 ^ 63 := by
  rw [UInt64.toNat_shiftRight, Nat.shiftRight_eq_div_pow]
  rfl

theorem ofBits_significand (b : UInt64) :
    (Binary.ofBits b).significand =
      if scaleField b = 0 then fractionField b else 2 ^ 52 + fractionField b := by
  simp only [Binary.ofBits, toNat_scale, toNat_fraction]
  split_ifs
  · rfl
  · rfl

theorem ofBits_exponent (b : UInt64) :
    (Binary.ofBits b).exponent = if scaleField b = 0 then -1074 else (scaleField b : ℤ) - 1075 := by
  simp only [Binary.ofBits, toNat_scale, toNat_fraction]
  split_ifs
  · rfl
  · rfl

/-! ## Unpacking -/

theorem toNat_unpackMantissa (b : UInt64) :
    (@unpackMantissa Format.binary64 b.toBitVec).toNat = fractionField b := by
  rw [unpackMantissa_def, BitVec.extractLsb'_toNat]
  rfl

theorem toNat_unpackExponent (b : UInt64) :
    (@unpackExponent Format.binary64 b.toBitVec).toNat = scaleField b := by
  rw [unpackExponent_def, BitVec.extractLsb'_toNat, Nat.shiftRight_eq_div_pow]
  rfl

theorem toNat_unpackSign (b : UInt64) :
    (@unpackSign Format.binary64 b.toBitVec).toNat = b.toNat / 2 ^ 63 := by
  have small := b.toNat_lt
  rw [unpackSign_def, BitVec.extractLsb'_toNat, Nat.shiftRight_eq_div_pow]
  exact Nat.mod_eq_of_lt (by change b.toNat / 2 ^ 63 < 2 ^ 1; omega)

theorem unpackExponent_eq_iff (v : BitVec 11) :
    @unpackExponent Format.binary64 b.toBitVec = v ↔ scaleField b = v.toNat := by
  rw [← toNat_unpackExponent, BitVec.toNat_inj]

theorem unpackMantissa_eq_iff (v : BitVec 52) :
    @unpackMantissa Format.binary64 b.toBitVec = v ↔ fractionField b = v.toNat := by
  rw [← toNat_unpackMantissa, BitVec.toNat_inj]

/-- The sign of a flag that is set for a minus. -/
def signOf (negative : Bool) : Sign :=
  if negative then .negative else .positive

theorem ofBitVec_unpackSign (b : UInt64) :
    Sign.ofBitVec (@unpackSign Format.binary64 b.toBitVec) = signOf (b >>> 63 == 1) := by
  have positive : @unpackSign Format.binary64 b.toBitVec = 0#1 ↔
      ¬ (b >>> 63 == 1) = true := by
    rw [← BitVec.toNat_inj, toNat_unpackSign, beq_iff_eq, ← UInt64.toNat_inj, toNat_sign]
    have small := b.toNat_lt
    change b.toNat / 2 ^ 63 = 0 ↔ ¬ b.toNat / 2 ^ 63 = 1
    omega
  simp only [Sign.ofBitVec, signOf, positive, ite_not]

theorem toNat_implicit (v : BitVec 52) : (1#1 ++ v).toNat = 2 ^ 52 + v.toNat := by
  rw [BitVec.toNat_append, ← Nat.shiftLeft_add_eq_or_of_lt v.isLt]
  rfl

/-- Bits with an exponent field that is not full hold a finite float. -/
theorem unpack_of_scaleField (inside : scaleField b ≠ 2047) :
    UnpackedFloat.unpack Format.binary64 b.toBitVec = ofParts (signOf (b >>> 63 == 1))
      (Binary.ofBits b).significand (Binary.ofBits b).exponent := by
  have full : @unpackExponent Format.binary64 b.toBitVec ≠ -1#11 := by
    rwa [ne_eq, unpackExponent_eq_iff]
  have least : @unpackExponent Format.binary64 b.toBitVec = 0#11 ↔ scaleField b = 0 :=
    unpackExponent_eq_iff _
  have zero : @unpackMantissa Format.binary64 b.toBitVec = 0#52 ↔ fractionField b = 0 :=
    unpackMantissa_eq_iff _
  rw [UnpackedFloat.unpack, if_neg full, ofBitVec_unpackSign, ofBits_significand, ofBits_exponent]
  by_cases subnormal : scaleField b = 0
  · rw [if_pos (least.mpr subnormal), if_pos subnormal, if_pos subnormal, ofParts]
    by_cases none : fractionField b = 0
    · rw [dif_pos (zero.mpr none), dif_pos none]
    · rw [dif_neg (zero.not.mpr none), dif_neg none]
      simp only [toNat_unpackMantissa, toNat_unpackExponent, subnormal]
      rfl
  · rw [if_neg (least.not.mpr subnormal), if_neg subnormal, if_neg subnormal, ofParts,
      dif_neg (by omega)]
    simp only [toNat_implicit, toNat_unpackMantissa, toNat_unpackExponent]
    rfl

theorem isFinite_of_scaleField (outside : scaleField b = 2047) :
    (UnpackedFloat.unpack Format.binary64 b.toBitVec).isFinite = false := by
  have full : @unpackExponent Format.binary64 b.toBitVec = -1#11 :=
    (unpackExponent_eq_iff _).mpr outside
  rw [UnpackedFloat.unpack, if_pos full]
  split_ifs
  · rfl
  · rfl

/-! ## Packing -/

/-- The exponent field of a significand and an exponent. -/
def scaleOfParts (m : ℕ) (e : ℤ) : ℕ :=
  if m < 2 ^ 52 then 0 else (e + 1075).toNat

theorem pack_inside (canonical : Canonical m e) (inside : e ≤ 971) :
    UnpackedFloat.pack Format.binary64 (ofParts s m e) = packComponents Format.binary64 s
      (BitVec.ofNat 11 (scaleOfParts m e)) (BitVec.ofNat 52 (m % 2 ^ 52)) := by
  have fraction : BitVec.ofNat 52 (m % 2 ^ 52) = BitVec.ofNat 52 m :=
    BitVec.eq_of_toNat_eq (Nat.mod_mod m (2 ^ 52))
  rw [fraction]
  by_cases zero : m = 0
  · subst zero
    rfl
  · have least := canonical.least
    have fits : ¬ 2 ^ 11 ≤ (e + 1023 + 52).toNat + 1 := by omega
    rw [ofParts, dif_neg zero, UnpackedFloat.pack]
    refine (if_neg fits).trans ?_
    by_cases subnormal : m < 2 ^ 52
    · have digits : ¬ m.log2 + 1 = 53 := by
        have short := (Nat.log2_lt zero).mpr subnormal
        omega
      rw [scaleOfParts, if_pos subnormal]
      exact if_neg digits
    · have digits : m.log2 + 1 = 53 := by
        have short := (Nat.log2_lt zero).mpr canonical.narrow
        have long := (Nat.le_log2 zero).mpr (not_lt.mp subnormal)
        omega
      rw [scaleOfParts, if_neg subnormal]
      refine (if_pos digits).trans ?_
      change packComponents Format.binary64 s (BitVec.ofNat 11 (e + 1023 + 52).toNat) _ = _
      rw [show e + 1023 + 52 = e + 1075 by omega]

theorem pack_outside (canonical : Canonical m e) (outside : 971 < e) :
    UnpackedFloat.pack Format.binary64 (ofParts s m e) = packedInfinity Format.binary64 s := by
  have filled := canonical.filled_of_lt outside (by norm_num)
  have full : 2 ^ 11 ≤ (e + 1023 + 52).toNat + 1 := by omega
  rw [ofParts, dif_neg (by omega), UnpackedFloat.pack]
  exact if_pos full

theorem toNat_packComponents (s : Sign) (v : BitVec 11) (w : BitVec 52) :
    (packComponents Format.binary64 s v w).toNat =
      (s.toBitVec.toNat * 2 ^ 11 + v.toNat) * 2 ^ 52 + w.toNat := by
  rw [packComponents, BitVec.toNat_append, ← Nat.shiftLeft_add_eq_or_of_lt w.isLt,
    BitVec.toNat_append, ← Nat.shiftLeft_add_eq_or_of_lt v.isLt, Nat.shiftLeft_eq, Nat.shiftLeft_eq]

/-- The bits of a sign, an exponent field and a fraction field. -/
theorem fields_of_components {v w : ℕ} (scale : v < 2 ^ 11) (fraction : w < 2 ^ 52)
    (packed : b.toBitVec = packComponents Format.binary64 (signOf negative) (BitVec.ofNat 11 v)
      (BitVec.ofNat 52 w)) :
    (b >>> 63 == 1) = negative ∧ scaleField b = v ∧ fractionField b = w := by
  have total : b.toNat = ((signOf negative).toBitVec.toNat * 2 ^ 11 + v) * 2 ^ 52 + w := by
    have whole := congrArg BitVec.toNat packed
    rwa [toNat_packComponents, BitVec.toNat_ofNat, BitVec.toNat_ofNat, Nat.mod_eq_of_lt scale,
      Nat.mod_eq_of_lt fraction] at whole
  have top : b.toNat / 2 ^ 63 = (signOf negative).toBitVec.toNat := by omega
  refine ⟨?_, by rw [scaleField]; omega, by rw [fractionField]; omega⟩
  rw [Bool.eq_iff_iff, beq_iff_eq, ← UInt64.toNat_inj, toNat_sign, top]
  cases negative
  · decide
  · decide

/-! ## Floats and their parts -/

/-- A finite float with a sign, a significand and an exponent. -/
structure Holds (x : Float) (negative : Bool) (m : ℕ) (e : ℤ) : Prop where
  finite : x.isFinite = true
  sign : signBit x = negative
  significand : (Binary.ofBits x.toBits).significand = m
  exponent : (Binary.ofBits x.toBits).exponent = e

theorem isFinite_iff : x.isFinite = true ↔ scaleField x.toBits ≠ 2047 := by
  constructor
  · intro finite full
    have refused : x.isFinite = false := isFinite_of_scaleField full
    rw [refused] at finite
    cases finite
  · intro inside
    refine (congrArg UnpackedFloat.isFinite (unpack_of_scaleField inside)).trans ?_
    rw [ofParts]
    split_ifs
    · rfl
    · rfl

theorem Holds.unpack (holds : Holds x negative m e) :
    x.toModel.unpack = ofParts (signOf negative) m e := by
  obtain ⟨finite, rfl, rfl, rfl⟩ := holds
  exact unpack_of_scaleField (isFinite_iff.mp finite)

/-- A float is settled by its sign, its significand and its exponent. -/
theorem Holds.unique (holds : Holds x negative m e) (holds' : Holds y negative m e) : x = y := by
  have same : x.toModel.unpack = y.toModel.unpack := holds.unpack.trans holds'.unpack.symm
  have bits := (unpack_inj_of_valid x.toModel.valid y.toModel.valid).mp same
  exact Float.toBits_inj.mp (UInt64.toBitVec_inj.mp bits)

/-- Every binary number of the range is a float, with either sign. -/
theorem holds_pack (negative : Bool) (canonical : Canonical m e) (inside : e ≤ 971) :
    Holds (.ofModel (.pack (ofParts (signOf negative) m e))) negative m e := by
  have narrow := canonical.narrow
  have least := canonical.least
  have filled := canonical.filled
  have field : scaleOfParts m e = if m < 2 ^ 52 then 0 else (e + 1075).toNat := rfl
  have packed := pack_inside (s := signOf negative) canonical inside
  obtain ⟨sign, scale, fraction⟩ := fields_of_components (b := (Float.Model.pack
    (ofParts (signOf negative) m e)).toBits) (by split_ifs at field <;> omega)
    (Nat.mod_lt m (by norm_num)) packed
  refine ⟨isFinite_iff.mpr ?_, sign, ?_, ?_⟩
  · rw [Float.toBits, scale]
    split_ifs at field <;> omega
  · rw [Float.toBits, ofBits_significand, scale, fraction]
    split_ifs at field ⊢ <;> omega
  · rw [Float.toBits, ofBits_exponent, scale]
    split_ifs at field ⊢ <;> omega

/-- A binary number beyond the range is packed to an infinity. -/
theorem not_isFinite_pack (canonical : Canonical m e) (outside : 971 < e) :
    (Float.ofModel (.pack (ofParts s m e))).isFinite = false := by
  refine isFinite_of_scaleField ?_
  have packed := pack_outside (s := s) canonical outside
  have total := congrArg BitVec.toNat packed
  rw [packedInfinity, toNat_packComponents] at total
  change (UnpackedFloat.pack Format.binary64 (ofParts s m e)).toNat / 2 ^ 52 % 2 ^ 11 = 2047
  rw [total]
  change ((s.toBitVec.toNat * 2 ^ 11 + 2047) * 2 ^ 52 + 0) / 2 ^ 52 % 2 ^ 11 = 2047
  omega

end YieldRules.Decimal
