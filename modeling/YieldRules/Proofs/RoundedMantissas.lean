import YieldRules.Proofs.NearestBinary
import Mathlib.Algebra.Ring.Parity

/-!
# Rounded mantissas

A mantissa is shifted to the exponent that a float of its size has. Two residual digits
keep what the shift drops, so the mantissa that is rounded in the end is the nearest one
to the exact value, not to a value that was already cut off.
-/

namespace YieldRules.Decimal

open Float.Model Float.Model.UnpackedFloat

/-- What a mantissa and its residual digits say of a rational: where it lies between the mantissa
and the next one. -/
inductive Describes : ExtendedMantissa → ℚ → Prop where
  | exact {m : ℕ} {r : ℚ} (same : r = m) : Describes ⟨m, false, false⟩ r
  | low {m : ℕ} {r : ℚ} (above : m < r) (below : r < m + 1 / 2) : Describes ⟨m, false, true⟩ r
  | half {m : ℕ} {r : ℚ} (same : r = m + 1 / 2) : Describes ⟨m, true, false⟩ r
  | high {m : ℕ} {r : ℚ} (above : m + 1 / 2 < r) (below : r < m + 1) : Describes ⟨m, true, true⟩ r

/-- The unpacked float of a significand and an exponent. -/
def ofParts (s : Sign) (m : ℕ) (e : ℤ) : UnpackedFloat :=
  if h : m = 0 then .zero s else .finite s m e (Nat.pos_of_ne_zero h)

variable {em : ExtendedMantissa} {m k : ℕ} {e t : ℤ} {q r : ℚ} {acc : Accuracy} {s : Sign}

namespace Describes

theorem floor (described : Describes em r) : em.mantissa ≤ r ∧ r < em.mantissa + 1 := by
  cases described with
  | exact same => constructor <;> linarith
  | low above below => constructor <;> linarith
  | half same => constructor <;> linarith
  | high above below => constructor <;> linarith

theorem halfEven (described : Describes em r) : HalfEven r em.roundedMantissa := by
  cases described with
  | @exact m r same =>
    change HalfEven r m
    rw [same]
    constructor
    · norm_num
    · norm_num
  | @low m r above below =>
    change HalfEven r m
    have size : |r - m| = r - m := abs_of_pos (by linarith)
    constructor
    · linarith
    · intro tie
      linarith
  | @half m r same =>
    change HalfEven r (m + m % 2)
    obtain ⟨c, rfl | rfl⟩ := Nat.even_or_odd' m
    · rw [Nat.mul_mod_right, add_zero]
      refine ⟨?_, fun _ => Nat.mul_mod_right 2 c⟩
      rw [same, add_sub_cancel_left, abs_of_pos (by norm_num)]
    · rw [Nat.mul_add_mod, Nat.one_mod]
      refine ⟨?_, fun _ => by omega⟩
      rw [same, abs_sub_comm]
      push_cast
      rw [abs_of_pos (by linarith)]
      linarith
  | @high m r above below =>
    change HalfEven r (m + 1)
    have size : |r - (m + 1 : ℕ)| = m + 1 - r := by
      rw [abs_sub_comm, Nat.cast_succ, abs_of_pos (by linarith)]
    constructor
    · linarith
    · intro tie
      linarith

theorem shiftRightOne_even (c : ℕ) (round sticky : Bool) :
    ExtendedMantissa.shiftRightOne ⟨2 * c, round, sticky⟩ = ⟨c, false, round || sticky⟩ := by
  simp [ExtendedMantissa.shiftRightOne]

theorem shiftRightOne_odd (c : ℕ) (round sticky : Bool) :
    ExtendedMantissa.shiftRightOne ⟨2 * c + 1, round, sticky⟩ = ⟨c, true, round || sticky⟩ := by
  simp [ExtendedMantissa.shiftRightOne, Nat.mul_add_div]

/-- A shift by one digit halves the rational that is described. -/
theorem shiftRightOne (described : Describes em r) : Describes em.shiftRightOne (r / 2) := by
  obtain ⟨m, round, sticky⟩ := em
  obtain ⟨c, rfl | rfl⟩ := Nat.even_or_odd' m
  · have double : ((2 * c : ℕ) : ℚ) = 2 * c := by push_cast; rfl
    rw [shiftRightOne_even]
    cases described with
    | exact same => exact .exact (by linarith)
    | low above below => exact .low (by linarith) (by linarith)
    | half same => exact .low (by linarith) (by linarith)
    | high above below => exact .low (by linarith) (by linarith)
  · have double : ((2 * c + 1 : ℕ) : ℚ) = 2 * c + 1 := by push_cast; rfl
    rw [shiftRightOne_odd]
    cases described with
    | exact same => exact .half (by linarith)
    | low above below => exact .high (by linarith) (by linarith)
    | half same => exact .high (by linarith) (by linarith)
    | high above below => exact .high (by linarith) (by linarith)

theorem shiftRight (described : Describes em r) (n : ℕ) : Describes (em >>> n) (r / 2 ^ n) := by
  change Describes (n.repeat ExtendedMantissa.shiftRightOne em) (r / 2 ^ n)
  induction n with
  | zero =>
    rw [pow_zero, div_one]
    exact described
  | succ n ih =>
    rw [pow_succ, ← div_div]
    exact ih.shiftRightOne

end Describes

/-! ## Whole quotients -/

theorem describes_exact (m : ℕ) (e : ℤ) :
    Describes (.ofMantissaAndAccuracy m .exact) (worth m e / 2 ^ e) :=
  .exact (mul_div_cancel_right₀ _ (unit_pos e).ne')

/-- A remainder describes what a whole quotient leaves of a rational. -/
theorem describes_div (n : ℕ) {d : ℕ} (pos : 0 < d) :
    Describes (.ofMantissaAndAccuracy (n / d) (accuracyOfFraction (n % d) d)) (n / d : ℚ) := by
  have pos' : (0 : ℚ) < d := Nat.cast_pos.mpr pos
  have rest : (n / d : ℚ) = (n / d : ℕ) + (n % d : ℕ) / d := by
    have split : ((n / d * d + n % d : ℕ) : ℚ) = n := congrArg _ (Nat.div_add_mod' n d)
    push_cast at split
    field_simp
    linarith
  have below : ((n % d : ℕ) / d : ℚ) < 1 := by
    rw [div_lt_one pos']
    exact Nat.cast_lt.mpr (Nat.mod_lt n pos)
  rw [rest, accuracyOfFraction]
  split_ifs with whole
  · refine .exact ?_
    rw [whole, Nat.cast_zero, zero_div, add_zero]
  · have above : (0 : ℚ) < (n % d : ℕ) / d :=
      div_pos (Nat.cast_pos.mpr (Nat.pos_of_ne_zero whole)) pos'
    rcases lt_trichotomy (2 * (n % d)) d with less | same | more
    · rw [Nat.compare_eq_lt.mpr less]
      refine .low (by linarith) (add_lt_add_right ?_ _)
      rw [div_lt_div_iff₀ pos' two_pos, one_mul, mul_comm]
      exact_mod_cast less
    · rw [Nat.compare_eq_eq.mpr same]
      refine .half (congrArg _ ?_)
      rw [div_eq_div_iff pos'.ne' two_ne_zero, one_mul, mul_comm]
      exact_mod_cast same
    · rw [Nat.compare_eq_gt.mpr more]
      refine .high (add_lt_add_right ?_ _) (by linarith)
      rw [div_lt_div_iff₀ two_pos pos', one_mul, mul_comm]
      exact_mod_cast more

/-! ## Shifts to an exponent -/

theorem targetExponent_eq (m : ℕ) (e : ℤ) :
    Format.binary64.targetExponent (totalExponent m e) = max (m.log2 + 1 + e - 53) (-1074) :=
  rfl

/-- A mantissa with an exponent describes a rational when it does in units of the exponent. -/
theorem describes_shiftToExponent (deep : e ≤ t)
    (described : Describes (.ofMantissaAndAccuracy m acc) (q / 2 ^ e)) :
    ∃ em, shiftToExponent m e acc t = (em, t) ∧ Describes em (q / 2 ^ t) := by
  obtain ⟨n, rfl⟩ := Int.le.dest deep
  have amount : (e + n - e).toNat = n := by omega
  have shifted := described.shiftRight n
  rw [div_div, ← zpow_natCast, ← zpow_add₀ two_ne_zero] at shifted
  rw [shiftToExponent, amount]
  exact ⟨_, rfl, shifted⟩

theorem shiftToTargetExponent_narrow (narrow : m < 2 ^ 53) (least : -1074 ≤ e) :
    shiftToTargetExponent Format.binary64 m e .exact = (⟨m, false, false⟩, e) := by
  have digits : m.log2 < 53 := by
    by_cases zero : m = 0
    · rw [zero, Nat.log2_zero]
      norm_num
    · exact (Nat.log2_lt zero).mpr narrow
  have amount : (max ((m.log2 : ℤ) + 1 + e - 53) (-1074) - e).toNat = 0 := by omega
  simp only [shiftToTargetExponent, shiftToExponent, targetExponent_eq, amount, Nat.cast_zero,
    add_zero]
  rfl

theorem shiftToTargetExponent_carried (least : -1074 ≤ e) :
    shiftToTargetExponent Format.binary64 (2 ^ 53) e .exact =
      (⟨2 ^ 52, false, false⟩, e + 1) := by
  have amount : (max (((2 ^ 53).log2 : ℤ) + 1 + e - 53) (-1074) - e).toNat = 1 := by
    rw [Nat.log2_two_pow]
    omega
  simp only [shiftToTargetExponent, shiftToExponent, targetExponent_eq, amount, Nat.cast_one]
  rfl

/-! ## The exponent of the size -/

section Target

variable (target : Format.binary64.targetExponent (totalExponent m e) = t) (deep : e ≤ t)
include target

theorem least_of_target : -1074 ≤ t := by
  rw [targetExponent_eq] at target
  omega

include deep

/-- At the target exponent a mantissa fills 53 digits, unless that exponent is the least. -/
theorem filled_of_target : t = -1074 ∨ worth (2 ^ 52) t ≤ worth m e := by
  rw [targetExponent_eq] at target
  refine or_iff_not_imp_left.mpr fun larger => ?_
  obtain ⟨n, rfl⟩ := Int.le.dest deep
  have digits : m.log2 = 52 + n := by omega
  have some : m ≠ 0 := by
    rintro rfl
    rw [Nat.log2_zero] at digits
    omega
  rw [← worth_mul_pow, worth_le_worth, ← pow_add, ← digits]
  exact Nat.log2_self_le some

/-- At the target exponent a mantissa takes no more than 53 digits. -/
theorem narrow_of_target : worth (m + 1) e ≤ worth (2 ^ 53) t := by
  rw [targetExponent_eq] at target
  obtain ⟨n, rfl⟩ := Int.le.dest deep
  have digits : m.log2 + 1 ≤ 53 + n := by omega
  rw [← worth_mul_pow, worth_le_worth, ← pow_add]
  exact Nat.lt_log2_self.trans_le (Nat.pow_le_pow_right two_pos digits)

end Target

/-! ## The rounded float -/

section Rounded

variable (described : Describes (.ofMantissaAndAccuracy m acc) (q / 2 ^ e))
include described

theorem worth_le_of_described : worth m e ≤ q ∧ q < worth (m + 1) e := by
  have mantissa : (ExtendedMantissa.ofMantissaAndAccuracy m acc).mantissa = m := by
    cases acc with
    | exact => rfl
    | inexact o => cases o <;> rfl
  obtain ⟨above, below⟩ := described.floor
  rw [mantissa] at above below
  constructor
  · exact (le_div_iff₀ (unit_pos e)).mp above
  · rw [worth, Nat.cast_succ]
    exact (div_lt_iff₀ (unit_pos e)).mp below

/-- A mantissa that is not cut short is rounded to the nearest float. -/
theorem roundWithAccuracy_nearest
    (deep : e ≤ Format.binary64.targetExponent (totalExponent m e)) :
    ∃ k t, roundWithAccuracy Format.binary64 s m e acc = ofParts s k t ∧ Nearest q k t := by
  obtain ⟨t, target⟩ : ∃ t, Format.binary64.targetExponent (totalExponent m e) = t := ⟨_, rfl⟩
  rw [target] at deep
  obtain ⟨above, below⟩ := worth_le_of_described described
  obtain ⟨em, shift, shifted⟩ := describes_shiftToExponent deep described
  have rounded := shifted.halfEven
  have least := least_of_target target
  have large : t = -1074 ∨ worth (2 ^ 52) t ≤ q :=
    (filled_of_target target deep).imp_right fun filled => filled.trans above
  have narrow : em.roundedMantissa ≤ 2 ^ 53 :=
    rounded.le_of_lt_worth (below.trans_le (narrow_of_target target deep))
  rw [roundWithAccuracy, shiftToTargetExponent, target, shift]
  dsimp only
  rcases narrow.lt_or_eq with narrow | carried
  · rw [shiftToTargetExponent_narrow narrow least]
    exact ⟨_, t, rfl, rounded.nearest least large narrow⟩
  · -- Rounded up to one digit more: the second shift drops a zero and nothing else.
    rw [carried, shiftToTargetExponent_carried least]
    exact ⟨_, t + 1, rfl, rounded.nearest_carried least large carried⟩

end Rounded

end YieldRules.Decimal
