import YieldRules.Decimal.Numeral
import YieldRules.Proofs.DecimalFloats

/-!
# Conversion of numerals

The float of a numeral is the nearest one to its exact value, with the sign of the
numeral, and the numeral has no finite float exactly when its value is too large.
-/

namespace YieldRules.Decimal

variable {q r : ℚ} {x : Float} {negative : Bool}

/-! ## Numerals -/

/-- The exact value of a numeral without its sign. -/
def Numeral.magnitude (n : Numeral) : ℚ :=
  n.digits * 10 ^ n.exponent

/-- The float of a numeral: it has the sign of the numeral and the parts of the nearest binary
number, and the value is not too large for it. -/
structure Numeral.ConvertsTo (n : Numeral) (x : Float) : Prop where
  inRange : n.magnitude < overflow
  finite : x.isFinite = true
  sign : signBit x = n.negative
  nearest : Nearest n.magnitude (Binary.ofBits x.toBits).significand
    (Binary.ofBits x.toBits).exponent

/-- What a float tells of the rational that it is rounded from. -/
structure Converts (q : ℚ) (negative : Bool) (x : Float) : Prop where
  finite : q < overflow → ∃ m e, Nearest q m e ∧ Holds x negative m e
  infinite : overflow ≤ q → x.isFinite = false

theorem Rounded.converts (rounded : Rounded q negative x) : Converts q negative x := by
  obtain ⟨m, e, nearest, rfl⟩ := rounded
  constructor
  · intro small
    exact ⟨m, e, nearest, holds_pack negative nearest.canonical (nearest.finite_of_lt small)⟩
  · intro large
    refine not_isFinite_pack nearest.canonical (not_le.mp fun inside => ?_)
    exact not_lt.mpr large (nearest.lt_of_finite inside)

/-- Values that are too large are alike. -/
theorem Converts.of_large (converts : Converts q negative x) (large : overflow ≤ q)
    (large' : overflow ≤ r) : Converts r negative x :=
  ⟨fun small => absurd small (not_lt.mpr large'), fun _ => converts.infinite large⟩

/-- Values that are nearly nothing are alike. -/
theorem Converts.of_small (converts : Converts q negative x) (nonneg : 0 ≤ q) (nonneg' : 0 ≤ r)
    (small : q < worth 1 (-1075)) (small' : r < worth 1 (-1075)) : Converts r negative x := by
  have nothing := nearest_zero nonneg small
  have nothing' := nearest_zero nonneg' small'
  constructor
  · intro _
    obtain ⟨m, e, nearest, holds⟩ := converts.finite (nothing.lt_of_finite (by norm_num))
    obtain ⟨rfl, rfl⟩ := nearest.unique nothing
    exact ⟨0, -1074, nothing', holds⟩
  · intro large
    exact absurd (nothing'.lt_of_finite (by norm_num)) (not_lt.mpr large)

namespace Numeral

variable {n : Numeral}

theorem digits_lt (d : ℕ) : d < 10 ^ (Nat.toDigits 10 d).length :=
  (Nat.length_toDigits_le_iff (by norm_num) Nat.length_toDigits_pos).mp le_rfl

theorem length_toDigits_le (d : ℕ) : (Nat.toDigits 10 d).length ≤ d.log2 + 1 := by
  rw [Nat.length_toDigits_le_iff (by norm_num) (Nat.succ_pos _)]
  exact Nat.lt_log2_self.trans_le (Nat.pow_le_pow_left (by norm_num) _)

theorem converts_bounded (n : Numeral) :
    Converts (n.digits * 10 ^ n.boundedExponent) n.negative n.toFloat := by
  have length := length_toDigits_le n.digits
  have least : -((Nat.toDigits 10 n.digits).length + 400 : ℤ) ≤ n.boundedExponent :=
    le_max_left _ _
  have greatest : n.boundedExponent ≤ 400 := max_le (by omega) (min_le_right _ _)
  have magnitude := rounded_ofScientific (m := n.digits) (e := n.boundedExponent) (by omega)
    (by omega)
  apply Rounded.converts
  rw [toFloat]
  cases n.negative with
  | false => exact magnitude
  | true => exact magnitude.neg

/-! ## Exponents beyond their bounds -/

theorem pow_two_le_pow_ten : (2 : ℚ) ^ 1075 ≤ 10 ^ 400 :=
  calc
    (2 : ℚ) ^ 1075 ≤ 2 ^ (3 * 400) := pow_le_pow_right₀ (by norm_num) (by norm_num)
    _ = 8 ^ 400 := by rw [pow_mul]; norm_num
    _ ≤ 10 ^ 400 := pow_le_pow_left₀ (by norm_num) (by norm_num) 400

theorem overflow_le (some : n.digits ≠ 0) {e : ℤ} (large : 400 ≤ e) :
    overflow ≤ n.digits * 10 ^ e := by
  have one : (1 : ℚ) ≤ n.digits := Nat.one_le_cast.mpr (Nat.pos_of_ne_zero some)
  calc
    overflow ≤ 2 ^ 1024 := sub_le_self _ (pow_nonneg (by norm_num) 970)
    _ ≤ 2 ^ 1075 := pow_le_pow_right₀ (by norm_num) (by norm_num)
    _ ≤ 10 ^ 400 := pow_two_le_pow_ten
    _ = 10 ^ (400 : ℤ) := (zpow_natCast 10 400).symm
    _ ≤ 10 ^ e := zpow_le_zpow_right₀ (by norm_num) large
    _ ≤ n.digits * 10 ^ e := le_mul_of_one_le_left (zpow_nonneg (by norm_num) e) one

theorem lt_least {e : ℤ} (small : e ≤ -((Nat.toDigits 10 n.digits).length + 400 : ℤ)) :
    (n.digits : ℚ) * 10 ^ e < worth 1 (-1075) := by
  have digits : (n.digits : ℚ) < 10 ^ ((Nat.toDigits 10 n.digits).length : ℤ) := by
    rw [zpow_natCast]
    exact_mod_cast digits_lt n.digits
  have unit : (0 : ℚ) < 10 ^ e := zpow_pos (by norm_num) e
  calc
    (n.digits : ℚ) * 10 ^ e < 10 ^ ((Nat.toDigits 10 n.digits).length : ℤ) * 10 ^ e :=
      mul_lt_mul_of_pos_right digits unit
    _ = (10 : ℚ) ^ ((Nat.toDigits 10 n.digits).length + e) := (zpow_add₀ (by norm_num) _ _).symm
    _ ≤ 10 ^ (-400 : ℤ) := zpow_le_zpow_right₀ (by norm_num) (by omega)
    _ = (10 ^ 400)⁻¹ := by rw [zpow_neg, zpow_ofNat]
    _ ≤ (2 ^ 1075)⁻¹ := inv_anti₀ (pow_pos two_pos 1075) pow_two_le_pow_ten
    _ = 2 ^ (-1075 : ℤ) := by rw [zpow_neg, zpow_ofNat]
    _ = worth 1 (-1075) := by rw [worth, Nat.cast_one, one_mul]

theorem magnitude_nonneg (d : ℕ) (e : ℤ) : (0 : ℚ) ≤ d * 10 ^ e :=
  mul_nonneg (Nat.cast_nonneg d) (zpow_nonneg (by norm_num) e)

theorem converts_toFloat (n : Numeral) : Converts n.magnitude n.negative n.toFloat := by
  have bounded := n.converts_bounded
  rw [magnitude]
  -- Bringing the exponent to its bound changes the value, but not what it is rounded to.
  rcases lt_or_ge 400 n.exponent with large | le
  · have bound : n.boundedExponent = 400 := by
      rw [boundedExponent]
      omega
    rw [bound] at bounded
    by_cases zero : n.digits = 0
    · rw [zero, Nat.cast_zero, zero_mul] at bounded ⊢
      exact bounded
    · exact bounded.of_large (overflow_le zero le_rfl) (overflow_le zero large.le)
  · rcases lt_or_ge n.exponent (-((Nat.toDigits 10 n.digits).length + 400)) with small | ge
    · have bound : n.boundedExponent = -((Nat.toDigits 10 n.digits).length + 400) := by
        rw [boundedExponent]
        omega
      rw [bound] at bounded
      exact bounded.of_small (magnitude_nonneg _ _) (magnitude_nonneg _ _) (lt_least le_rfl)
        (lt_least small.le)
    · have bound : n.boundedExponent = n.exponent := by
        rw [boundedExponent]
        omega
      rwa [bound] at bounded

/-- A float is what a numeral converts to exactly when it is the float that is computed for the
numeral and is finite. -/
theorem convertsTo_iff : n.ConvertsTo x ↔ n.toFloat = x ∧ x.isFinite = true := by
  have converts := n.converts_toFloat
  constructor
  · rintro ⟨inRange, finite, sign, nearest⟩
    obtain ⟨m, e, nearest', holds⟩ := converts.finite inRange
    obtain ⟨significand, exponent⟩ := nearest.unique nearest'
    exact ⟨holds.unique ⟨finite, sign, significand, exponent⟩, finite⟩
  · rintro ⟨rfl, finite⟩
    have inRange : n.magnitude < overflow := by
      by_contra large
      rw [converts.infinite (not_lt.mp large)] at finite
      cases finite
    obtain ⟨m, e, nearest, _, sign, rfl, rfl⟩ := converts.finite inRange
    exact ⟨inRange, finite, sign, nearest⟩

/-- A numeral has a float unless its value is too large. -/
theorem exists_convertsTo_iff : (∃ x, n.ConvertsTo x) ↔ n.magnitude < overflow := by
  constructor
  · rintro ⟨x, converts⟩
    exact converts.inRange
  · intro inRange
    obtain ⟨m, e, nearest, holds⟩ := n.converts_toFloat.finite inRange
    exact ⟨n.toFloat, convertsTo_iff.mpr ⟨rfl, holds.finite⟩⟩

end Numeral

end YieldRules.Decimal
