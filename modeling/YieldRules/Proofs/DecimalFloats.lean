import YieldRules.Proofs.FloatParts

/-!
# Floats of decimal numbers

A whole number times a power of ten is rounded once. Small ones are a product or a
quotient of two floats that are exact, large ones are worked out in whole numbers; both
ways give the float that is packed from the nearest binary number.
-/

namespace YieldRules.Decimal

open Float.Model Float.Model.UnpackedFloat

variable {m a k : ℕ} {e f t : ℤ} {q : ℚ} {s : Sign} {x y : Float} {negative : Bool}

/-! ## Packed results -/

/-- A float that is packed from the nearest binary number, which may be out of range. -/
def Rounded (q : ℚ) (negative : Bool) (x : Float) : Prop :=
  ∃ m e, Nearest q m e ∧ x = .ofModel (.pack (ofParts (signOf negative) m e))

theorem ofParts_of_ne (some : m ≠ 0) : ofParts s m e = .finite s m e (Nat.pos_of_ne_zero some) :=
  dif_neg some

theorem neg_ofParts : (ofParts (signOf negative) m e).neg = ofParts (signOf !negative) m e := by
  by_cases zero : m = 0
  · rw [ofParts, ofParts, dif_pos zero, dif_pos zero]
    cases negative <;> rfl
  · rw [ofParts, ofParts, dif_neg zero, dif_neg zero]
    cases negative <;> rfl

theorem unpack_packedInfinity (s : Sign) :
    UnpackedFloat.unpack Format.binary64 (packedInfinity Format.binary64 s) = .infinity s := by
  cases s <;> rfl

theorem eq_of_pack {u v : UnpackedFloat}
    (same : UnpackedFloat.pack Format.binary64 u = UnpackedFloat.pack Format.binary64 v) :
    Float.ofModel (.pack u) = .ofModel (.pack v) := by
  simp only [Float.Model.pack, same]

theorem Rounded.neg (rounded : Rounded q negative x) : Rounded q (!negative) (-x) := by
  obtain ⟨m, e, nearest, rfl⟩ := rounded
  refine ⟨m, e, nearest, ?_⟩
  rcases le_or_gt e 971 with inside | outside
  · have unpacked := (holds_pack negative nearest.canonical inside).unpack
    change Float.ofModel (.pack (Float.Model.unpack _).neg) = _
    rw [unpacked, neg_ofParts]
  · change Float.ofModel (.pack (UnpackedFloat.unpack Format.binary64
      (UnpackedFloat.pack Format.binary64 _)).neg) = _
    rw [pack_outside nearest.canonical outside, unpack_packedInfinity]
    apply eq_of_pack
    rw [pack_outside nearest.canonical outside]
    cases negative <;> rfl

/-! ## Products and quotients -/

/-- A product of mantissas that fills the digits of a float is rounded to the nearest one. -/
theorem mul_nearest (nonzero : a ≠ 0) (long : m ≠ 0 → 2 ^ 52 ≤ m * a) :
    ∃ k t, UnpackedFloat.mul Format.binary64 (ofParts .positive m e) (ofParts .positive a f) =
      ofParts .positive k t ∧ Nearest (worth m e * worth a f) k t := by
  by_cases zero : m = 0
  · rw [zero, worth_zero, zero_mul, ofParts, ofParts, dif_pos rfl, dif_neg nonzero]
    exact ⟨0, -1074, rfl, nearest_nothing⟩
  · rw [worth_mul_worth, ofParts, ofParts, dif_neg zero, dif_neg nonzero]
    have digits := (Nat.le_log2 (Nat.mul_ne_zero zero nonzero)).mpr (long zero)
    refine roundWithAccuracy_nearest (describes_exact (m * a) (e + f)) ?_
    rw [targetExponent_eq]
    omega

/-- A dividend is made long enough for a quotient with all digits of a float. -/
theorem divCore_eq (some : m ≠ 0) (nonzero : a ≠ 0) :
    ∃ n t, divCore Format.binary64 m e a f =
        (m * 2 ^ n / a, t, accuracyOfFraction (m * 2 ^ n % a) a) ∧ t + (n : ℕ) = e - f ∧
      t ≤ Format.binary64.targetExponent (totalExponent (m * 2 ^ n / a) t) := by
  obtain ⟨t, target⟩ : ∃ t, t = min (e - f) (Format.binary64.targetExponent
    (totalExponent m e - totalExponent a f)) := ⟨_, rfl⟩
  obtain ⟨n, amount⟩ : ∃ n : ℕ, t + n = e - f := Int.le.dest (target ▸ min_le_left _ _)
  refine ⟨n, t, ?_, amount, ?_⟩
  · rw [divCore, ← target, show (e - f - t).toNat = n by omega, Nat.shiftLeft_eq]
  · rw [targetExponent_eq]
    by_cases least : t ≤ -1074
    · exact least.trans (le_max_right _ _)
    · -- Above the least exponent the quotient is long enough whatever the lengths of its parts.
      have target' : t ≤ max (m.log2 + 1 + e - (a.log2 + 1 + f) - 53 : ℤ) (-1074) :=
        target ▸ min_le_right _ _
      have long : a.log2 + 1 + 52 ≤ m.log2 + n := by omega
      have digits : 2 ^ 52 ≤ m * 2 ^ n / a := by
        rw [Nat.le_div_iff_mul_le (Nat.pos_of_ne_zero nonzero)]
        calc
          2 ^ 52 * a ≤ 2 ^ 52 * 2 ^ (a.log2 + 1) := Nat.mul_le_mul_left _ Nat.lt_log2_self.le
          _ = 2 ^ (a.log2 + 1 + 52) := by rw [← pow_add, add_comm]
          _ ≤ 2 ^ (m.log2 + n) := Nat.pow_le_pow_right two_pos long
          _ = 2 ^ m.log2 * 2 ^ n := pow_add _ _ _
          _ ≤ m * 2 ^ n := Nat.mul_le_mul_right _ (Nat.log2_self_le some)
      have filled := (Nat.le_log2 (by omega)).mpr digits
      omega

theorem div_nearest (nonzero : a ≠ 0) :
    ∃ k t, UnpackedFloat.div Format.binary64 (ofParts .positive m e) (ofParts .positive a f) =
      ofParts .positive k t ∧ Nearest (worth m e / worth a f) k t := by
  by_cases zero : m = 0
  · rw [zero, worth_zero, zero_div, ofParts, ofParts, dif_pos rfl, dif_neg nonzero]
    exact ⟨0, -1074, rfl, nearest_nothing⟩
  obtain ⟨n, t, core, amount, deep⟩ := divCore_eq (e := e) (f := f) zero nonzero
  have quotient : worth m e / worth a f / 2 ^ t = (m * 2 ^ n : ℕ) / a := by
    have unit : (2 : ℚ) ^ e = 2 ^ f * (2 ^ t * 2 ^ n) := by
      rw [← zpow_natCast, ← zpow_add₀ two_ne_zero, ← zpow_add₀ two_ne_zero, amount]
      congr 1
      omega
    have nonzero' : (a : ℚ) ≠ 0 := Nat.cast_ne_zero.mpr nonzero
    rw [worth, worth, unit]
    push_cast
    field_simp
  have described := describes_div (m * 2 ^ n) (Nat.pos_of_ne_zero nonzero)
  rw [← quotient] at described
  rw [ofParts, ofParts, dif_neg zero, dif_neg nonzero]
  obtain ⟨k, t', rounded, nearest⟩ := roundWithAccuracy_nearest (s := .positive) described deep
  refine ⟨k, t', ?_, nearest⟩
  rw [UnpackedFloat.div, core]
  exact rounded

/-! ## Whole numbers and powers of ten -/

theorem log2_mul_pow (some : m ≠ 0) (n : ℕ) : (m * 2 ^ n).log2 = m.log2 + n := by
  rw [Nat.log2_eq_iff (Nat.mul_ne_zero some (Nat.two_pow_pos n).ne'), pow_add, add_right_comm,
    pow_add]
  exact ⟨Nat.mul_le_mul_right _ (Nat.log2_self_le some),
    Nat.mul_lt_mul_of_pos_right Nat.lt_log2_self (Nat.two_pow_pos n)⟩

theorem round_nearest (some : m ≠ 0) :
    ∃ k t, UnpackedFloat.round Format.binary64 s m e = ofParts s k t ∧
      Nearest (worth m e) k t := by
  obtain ⟨n, amount⟩ : ∃ n : ℕ,
      (e - Format.binary64.targetExponent (totalExponent m e)).toNat = n := ⟨_, rfl⟩
  have same : worth (m * 2 ^ n) (e - n) = worth m e := by
    rw [worth_mul_pow, sub_add_cancel]
  have described := describes_exact (m * 2 ^ n) (e - n)
  rw [same] at described
  rw [UnpackedFloat.round, decreaseExponent, amount, Nat.shiftLeft_eq]
  refine roundWithAccuracy_nearest described ?_
  rw [targetExponent_eq, log2_mul_pow some]
  rw [targetExponent_eq] at amount
  omega

/-- A positive whole number of no more than 53 digits is a filled significand. -/
theorem exists_canonical_units (some : m ≠ 0) (narrow : m < 2 ^ 53) :
    ∃ k t, Canonical k t ∧ t ≤ 0 ∧ 2 ^ 52 ≤ k ∧ worth k t = m := by
  obtain ⟨n, length⟩ : ∃ n, m.log2 + n = 52 :=
    Nat.le.dest (Nat.lt_succ_iff.mp ((Nat.log2_lt some).mpr narrow))
  have digits := log2_mul_pow some n
  rw [length, Nat.log2_eq_iff (Nat.mul_ne_zero some (Nat.two_pow_pos n).ne')] at digits
  refine ⟨m * 2 ^ n, -n, ⟨digits.2, by omega, .inl digits.1⟩, by omega, digits.1, ?_⟩
  rw [worth_mul_pow, neg_add_cancel, worth_units]

theorem holds_zero : Holds (0 : ℕ).toUInt64.toFloat false 0 (-1074) :=
  ⟨by decide +kernel, by decide +kernel, by decide +kernel, by decide +kernel⟩

/-- Such a number is a float, not only near to one. -/
theorem exists_holds_units (narrow : m < 2 ^ 53) :
    ∃ k t, Holds m.toUInt64.toFloat false k t ∧ worth k t = m ∧ (k ≠ 0 → 2 ^ 52 ≤ k) := by
  by_cases zero : m = 0
  · rw [zero]
    exact ⟨0, -1074, holds_zero, worth_zero.trans Nat.cast_zero.symm, fun some => absurd rfl some⟩
  · obtain ⟨k, t, canonical, small, filled, value⟩ := exists_canonical_units zero narrow
    obtain ⟨k', t', rounded, nearest⟩ := round_nearest (s := .positive) (e := 0) zero
    rw [worth_units, ← value] at nearest
    obtain ⟨rfl, rfl⟩ := canonical.nearest.unique nearest
    have holds := holds_pack false canonical (by omega)
    have same : m.toUInt64.toFloat = .ofModel (.pack (ofParts .positive k t)) := by
      have whole : m.toUInt64.toNat = m := Nat.mod_eq_of_lt (narrow.trans (by norm_num))
      have positive : compare (m : ℤ) 0 = .gt := Int.compare_eq_gt.mpr (by omega)
      rw [← rounded, UInt64.toFloat, Float.Model.ofUInt64, UnpackedFloat.ofUInt64,
        UnpackedFloat.ofNat, UnpackedFloat.ofInt, UnpackedFloat.normalize, whole, positive]
      rfl
    rw [same]
    exact ⟨k, t, holds, value, fun _ => filled⟩

theorem worth_of_scaled (least : -52 ≤ e) (scaled : m * 2 ^ (e + 52).toNat = a * 2 ^ 52) :
    worth m e = a := by
  obtain ⟨n, rfl⟩ := Int.le.dest least
  have amount : (-52 + (n : ℤ) + 52).toNat = n := by omega
  rw [amount] at scaled
  rw [← worth_mul_pow, scaled, worth_mul_pow]
  exact worth_units a

/-- The powers of ten that are listed are what they are called. -/
theorem listed_powers : ∀ k : Fin Float.exactlyRepresentablePowersOfTen.size,
    let x := Float.exactlyRepresentablePowersOfTen[k]
    let parts := Binary.ofBits x.toBits
    x.isFinite = true ∧ signBit x = false ∧ -52 ≤ parts.exponent ∧
      parts.significand * 2 ^ (parts.exponent + 52).toNat = 10 ^ k.val * 2 ^ 52 := by
  decide +kernel

theorem exists_holds_power (small : k < Float.exactlyRepresentablePowersOfTen.size) :
    ∃ m e, Holds Float.exactlyRepresentablePowersOfTen[k] false m e ∧ worth m e = 10 ^ k ∧
      m ≠ 0 := by
  obtain ⟨finite, sign, least, scaled⟩ := listed_powers ⟨k, small⟩
  have value := worth_of_scaled least scaled
  rw [Nat.cast_pow, Nat.cast_ofNat] at value
  refine ⟨_, _, ⟨finite, sign, rfl, rfl⟩, value, ?_⟩
  intro zero
  have nothing : (10 : ℚ) ^ k = 0 := by
    rw [← value, worth]
    exact mul_eq_zero_of_left (Nat.cast_eq_zero.mpr zero) _
  exact absurd nothing (pow_ne_zero k (by norm_num))

/-! ## Decimal numbers -/

theorem Holds.mul (holds : Holds x false m e) (holds' : Holds y false a f) (nonzero : a ≠ 0)
    (long : m ≠ 0 → 2 ^ 52 ≤ m * a) : Rounded (worth m e * worth a f) false (x * y) := by
  obtain ⟨k, t, rounded, nearest⟩ := mul_nearest (e := e) (f := f) nonzero long
  refine ⟨k, t, nearest, ?_⟩
  change Float.ofModel (.pack (UnpackedFloat.mul Format.binary64 x.toModel.unpack
    y.toModel.unpack)) = _
  rw [holds.unpack, holds'.unpack]
  exact congrArg (fun u => Float.ofModel (.pack u)) rounded

theorem Holds.div (holds : Holds x false m e) (holds' : Holds y false a f) (nonzero : a ≠ 0) :
    Rounded (worth m e / worth a f) false (x / y) := by
  obtain ⟨k, t, rounded, nearest⟩ := div_nearest (m := m) (e := e) (f := f) nonzero
  refine ⟨k, t, nearest, ?_⟩
  change Float.ofModel (.pack (UnpackedFloat.div Format.binary64 x.toModel.unpack
    y.toModel.unpack)) = _
  rw [holds.unpack, holds'.unpack]
  exact congrArg (fun u => Float.ofModel (.pack u)) rounded

/-- A decimal number whose exponent is not cut off is rounded to the nearest float. -/
theorem ofScientific_nearest (upper : e ≤ 2048) (lower : -(2048 + (m.log2 : ℤ)) ≤ e) :
    ∃ k t, UnpackedFloat.ofScientific Format.binary64 m e = ofParts .positive k t ∧
      Nearest (m * 10 ^ e) k t := by
  by_cases zero : m = 0
  · rw [zero, UnpackedFloat.ofScientific, dif_pos rfl, Nat.cast_zero, zero_mul]
    exact ⟨0, -1074, rfl, nearest_nothing⟩
  have upper' : ¬ e > 2 ^ Format.binary64.exponentBits := not_lt.mpr upper
  have lower' : ¬ e < -((2 ^ Format.binary64.exponentBits : ℤ) + m.log2) := not_lt.mpr lower
  rw [UnpackedFloat.ofScientific, dif_neg zero, if_neg upper', if_neg lower']
  have power (n : ℕ) : 10 ^ n ≠ 0 := pow_ne_zero n (by norm_num)
  split_ifs with whole
  · obtain ⟨n, rfl⟩ := Int.eq_ofNat_of_zero_le whole
    have wide : m * 2 ^ 53 ≠ 0 := Nat.mul_ne_zero zero (by norm_num)
    have filled : 2 ^ 52 ≤ m * 2 ^ 53 := by omega
    have long : 2 ^ 52 ≤ m * 2 ^ 53 * 10 ^ n :=
      filled.trans (Nat.le_mul_of_pos_right _ (Nat.pos_of_ne_zero (power n)))
    obtain ⟨k, t, rounded, nearest⟩ := mul_nearest (e := -53) (f := 0) (power n) fun _ => long
    rw [ofParts_of_ne wide, ofParts_of_ne (power n)] at rounded
    have value : worth (m * 2 ^ 53) (-53) * worth (10 ^ n) 0 = m * 10 ^ (n : ℤ) := by
      have units : worth (m * 2 ^ 53) (-53) = m := (worth_mul_pow m 53 (-53)).trans (worth_units m)
      rw [units, worth_units, zpow_natCast, Nat.cast_pow, Nat.cast_ofNat]
    rw [value] at nearest
    refine ⟨k, t, ?_, nearest⟩
    simp only [Nat.shiftLeft_eq]
    exact rounded
  · obtain ⟨n, rfl⟩ := Int.eq_negSucc_of_lt_zero (not_le.mp whole)
    obtain ⟨k, t, rounded, nearest⟩ := div_nearest (m := m) (e := 0) (f := 0) (power (n + 1))
    rw [ofParts_of_ne zero, ofParts_of_ne (power (n + 1))] at rounded
    have value : worth m 0 / worth (10 ^ (n + 1)) 0 = m * 10 ^ Int.negSucc n := by
      rw [worth_units, worth_units, zpow_negSucc, ← div_eq_mul_inv, Nat.cast_pow, Nat.cast_ofNat]
    rw [value] at nearest
    exact ⟨k, t, rounded, nearest⟩

theorem rounded_ofModel {u : UnpackedFloat} (packed : u = ofParts .positive k t)
    (nearest : Nearest q k t) : Rounded q false (.ofModel (.pack u)) :=
  ⟨k, t, nearest, by rw [packed]; rfl⟩

/-- A decimal number is rounded once, whether its parts are small enough to be floats or not. -/
theorem rounded_raised {n : ℕ} (bounded : n ≤ 2048) :
    Rounded (m * 10 ^ (n : ℤ)) false (Float.ofScientific m false n) := by
  rw [Float.ofScientific]
  by_cases small : m < 2 ^ 53 ∧ n ≤ 22
  · obtain ⟨k, t, holds, value, filled⟩ := exists_holds_units small.1
    obtain ⟨p, f, holds', value', some⟩ := exists_holds_power (Nat.lt_succ_of_le small.2)
    have product := holds.mul holds' some fun some' =>
      (filled some').trans (Nat.le_mul_of_pos_right k (Nat.pos_of_ne_zero some))
    rw [dif_pos small, zpow_natCast]
    rwa [value, value'] at product
  · obtain ⟨k, t, packed, nearest⟩ := ofScientific_nearest (m := m) (e := n) (by omega) (by omega)
    rw [dif_neg small]
    exact rounded_ofModel packed nearest

theorem rounded_lowered {n : ℕ} (bounded : n ≤ 2048 + m.log2) :
    Rounded (m * 10 ^ (-n : ℤ)) false (Float.ofScientific m true n) := by
  rw [Float.ofScientific]
  by_cases small : m < 2 ^ 53 ∧ n ≤ 22
  · obtain ⟨k, t, holds, value, -⟩ := exists_holds_units small.1
    obtain ⟨p, f, holds', value', some⟩ := exists_holds_power (Nat.lt_succ_of_le small.2)
    have quotient := holds.div holds' some
    rw [dif_pos small, zpow_neg, zpow_natCast, ← div_eq_mul_inv]
    rwa [value, value'] at quotient
  · obtain ⟨k, t, packed, nearest⟩ := ofScientific_nearest (m := m) (e := -n) (by omega) (by omega)
    rw [dif_neg small]
    cases n with
    | zero => exact rounded_ofModel packed nearest
    | succ n => exact rounded_ofModel packed nearest

theorem rounded_ofScientific (upper : e ≤ 2048) (lower : -(2048 + (m.log2 : ℤ)) ≤ e) :
    Rounded (m * 10 ^ e) false (Float.ofScientific m (e < 0) e.natAbs) := by
  rcases lt_or_ge e 0 with down | up
  · obtain ⟨n, rfl⟩ := Int.exists_eq_neg_ofNat down.le
    rw [decide_eq_true down, Int.natAbs_neg, Int.natAbs_natCast]
    exact rounded_lowered (by omega)
  · obtain ⟨n, rfl⟩ := Int.eq_ofNat_of_zero_le up
    rw [decide_eq_false (not_lt.mpr up), Int.natAbs_natCast]
    exact rounded_raised (by omega)

end YieldRules.Decimal
