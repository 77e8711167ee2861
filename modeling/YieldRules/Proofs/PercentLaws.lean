import YieldRules.Magnitude
import Mathlib.Algebra.BigOperators.Ring.List
import Mathlib.Data.Sign.Basic
import Mathlib.Tactic.FieldSimp
import Mathlib.Tactic.Linarith
import Mathlib.Tactic.Positivity
import Mathlib.Tactic.Ring

/-!
# Laws of percentages

The delta of a percentage over exact numbers. Above zero the cost is divided by the
boost, at zero and below it is multiplied, and still the two formulas make one
function: it grows with the percentage, never takes more than the cost away, and adds
up over costs. No division in it is by zero, which is shown by computing with a
division that has no result there.
-/

namespace YieldRules

/-- A number, unless it comes from a division by zero. -/
structure Checked where
  value? : Option ℚ

namespace Checked

def of (x : ℚ) : Checked :=
  ⟨some x⟩

/-- The result of an operation on two numbers that are there. -/
def lift₂ (f : ℚ → ℚ → Option ℚ) (a b : Checked) : Checked :=
  ⟨a.value?.bind fun x => b.value?.bind (f x)⟩

instance : Add Checked := ⟨lift₂ fun x y => some (x + y)⟩
instance : Sub Checked := ⟨lift₂ fun x y => some (x - y)⟩
instance : Mul Checked := ⟨lift₂ fun x y => some (x * y)⟩
instance : Div Checked := ⟨lift₂ fun x y => if y = 0 then none else some (x / y)⟩
instance (n : Nat) : OfNat Checked n := ⟨of n⟩

def lt (a b : Checked) : Bool :=
  (lift₂ (fun x y => if x < y then some 1 else none) a b).value?.isSome

instance : LT Checked := ⟨fun a b => a.lt b = true⟩
instance : DecidableLT Checked := fun a b => inferInstanceAs (Decidable (a.lt b = true))

theorem of_add (x y : ℚ) : of x + of y = of (x + y) := rfl

theorem of_sub (x y : ℚ) : of x - of y = of (x - y) := rfl

theorem of_mul (x y : ℚ) : of x * of y = of (x * y) := rfl

theorem of_div {x y : ℚ} (divisor : y ≠ 0) : of x / of y = of (x / y) := by
  show Checked.mk (if y = 0 then none else some (x / y)) = of (x / y)
  rw [if_neg divisor, of]

theorem of_lt (x y : ℚ) : of x < of y ↔ x < y := by
  show (if x < y then some (1 : ℚ) else none).isSome = true ↔ x < y
  by_cases less : x < y
  · simp [less]
  · simp [less]

end Checked

namespace Magnitude

variable {q q' b b' count : ℚ}

/-- The delta of a percentage for one item of a cost. -/
def percentDelta (q b : ℚ) : ℚ :=
  match (percent q).delta 1 b with
  | .ok delta => delta
  | .error _ => 0

theorem delta_percent (nonneg : 0 ≤ b) :
    (percent q).delta count b =
      .ok (if 0 < q / 100 then b - b / (1 + q / 100) else b * (q / 100)) := by
  simp only [delta, if_neg (not_lt.mpr nonneg)]
  split
  · rfl
  · rfl

theorem percentDelta_of_pos (nonneg : 0 ≤ b) (positive : 0 < q) :
    percentDelta q b = b - b / (1 + q / 100) := by
  have boosts : 0 < q / 100 := by positivity
  simp only [percentDelta, delta_percent nonneg, if_pos boosts]

theorem percentDelta_of_nonpos (nonneg : 0 ≤ b) (nonpos : q ≤ 0) :
    percentDelta q b = b * q / 100 := by
  have lowers : ¬ 0 < q / 100 := by linarith
  simp only [percentDelta, delta_percent nonneg, if_neg lowers, mul_div_assoc]

theorem delta_percent_eq (nonneg : 0 ≤ b) :
    (percent q).delta count b = .ok (percentDelta q b) := by
  simp only [percentDelta, delta_percent nonneg]

/-- A boost is no divisor of zero. -/
theorem boost_pos (positive : 0 < q) : 0 < 1 + q / 100 := by
  positivity

theorem checked_delta_percent (nonneg : 0 ≤ b) :
    (percent (Checked.of q)).delta (.of count) (.of b) = .ok (.of (percentDelta q b)) := by
  have hundred : (100 : Checked) = .of 100 := rfl
  have one : (1 : Checked) = .of 1 := rfl
  have zero : (0 : Checked) = .of 0 := rfl
  have cost : ¬ Checked.of b < 0 := by
    rw [zero, Checked.of_lt]
    exact not_lt.mpr nonneg
  simp only [delta, if_neg cost]
  simp only [hundred, one, zero, Checked.of_div (by norm_num : (100 : ℚ) ≠ 0), Checked.of_lt]
  by_cases positive : 0 < q
  · have boosts : 0 < q / 100 := by positivity
    rw [if_pos boosts, Checked.of_add, Checked.of_div (boost_pos positive).ne', Checked.of_sub,
      percentDelta_of_pos nonneg positive]
  · have lowers : ¬ 0 < q / 100 := by linarith
    rw [if_neg lowers, Checked.of_mul, percentDelta_of_nonpos nonneg (not_lt.mp positive),
      mul_div_assoc]

/-- Above zero the delta is the part of the cost that the boost makes up for. -/
theorem percentDelta_eq_part (nonneg : 0 ≤ b) (positive : 0 < q) :
    percentDelta q b = b * (q / (100 + q)) := by
  have boost := boost_pos positive
  rw [percentDelta_of_pos nonneg positive]
  field_simp
  ring

/-- Per unit of cost a percentage takes this part. -/
def part (q : ℚ) : ℚ :=
  if 0 < q then q / (100 + q) else q / 100

theorem percentDelta_eq_mul_part (nonneg : 0 ≤ b) : percentDelta q b = b * part q := by
  by_cases positive : 0 < q
  · rw [percentDelta_eq_part nonneg positive, part, if_pos positive]
  · rw [percentDelta_of_nonpos nonneg (not_lt.mp positive), part, if_neg positive, mul_div_assoc]

theorem part_pos (positive : 0 < q) : 0 < part q := by
  rw [part, if_pos positive]
  positivity

theorem part_nonpos (nonpos : q ≤ 0) : part q ≤ 0 := by
  rw [part, if_neg (not_lt.mpr nonpos)]
  linarith

theorem part_lt_one (positive : 0 < q) : part q < 1 := by
  rw [part, if_pos positive, div_lt_one (by linarith)]
  linarith

/-- The hyperbola above zero and the line below it meet in one increasing function. -/
theorem part_strictMono : StrictMono part := by
  intro q q' less
  by_cases positive : 0 < q
  · have positive' : 0 < q' := positive.trans less
    rw [part, part, if_pos positive, if_pos positive', div_lt_div_iff₀ (by linarith) (by linarith)]
    linarith
  · by_cases positive' : 0 < q'
    · exact (part_nonpos (not_lt.mp positive)).trans_lt (part_pos positive')
    · rw [part, part, if_neg positive, if_neg positive']
      linarith

theorem sign_part (q : ℚ) : SignType.sign (part q) = SignType.sign q := by
  have zero : part 0 = 0 := by simp [part]
  have above := part_strictMono.lt_iff_lt (a := 0) (b := q)
  have below := part_strictMono.lt_iff_lt (a := q) (b := 0)
  rw [zero] at above below
  simp only [sign_apply, above, below]

/-- What is left of the cost is worth the whole cost after the boost. -/
theorem boosted_rest (nonneg : 0 ≤ b) (positive : 0 < q) :
    (b - percentDelta q b) * (1 + q / 100) = b := by
  rw [percentDelta_of_pos nonneg positive, sub_sub_cancel]
  exact div_mul_cancel₀ b (boost_pos positive).ne'

theorem sum_percentDelta {costs : List ℚ} (nonneg : ∀ c ∈ costs, 0 ≤ c) :
    (costs.map (percentDelta q)).sum = percentDelta q costs.sum := by
  have parts : costs.map (percentDelta q) = costs.map (· * part q) :=
    List.map_congr_left fun c listed => percentDelta_eq_mul_part (nonneg c listed)
  rw [parts, List.sum_map_mul_right, List.map_id',
    percentDelta_eq_mul_part (List.sum_nonneg nonneg)]

/-- Over exact numbers every percentage has a delta for every cost that is not negative, whatever
the count, and no division on the way is by zero. The delta has the sign of the percentage. Above
zero it takes less than the cost, and what is left makes the cost again when it is boosted; up to
zero it is the percentage of the cost. It grows with the percentage, also from below zero to above,
and it adds up over costs. -/
theorem percent_delta_laws (q b count : ℚ) (nonneg : 0 ≤ b) :
    (percent q).delta count b = .ok (percentDelta q b) ∧
    (percent (Checked.of q)).delta (.of count) (.of b) = .ok (.of (percentDelta q b)) ∧
    (0 < b → SignType.sign (percentDelta q b) = SignType.sign q) ∧
    (q = 0 ∨ b = 0 → percentDelta q b = 0) ∧
    (0 < q → 0 ≤ percentDelta q b ∧ percentDelta q b ≤ b ∧ (0 < b → percentDelta q b < b) ∧
      (b - percentDelta q b) * (1 + q / 100) = b) ∧
    (q ≤ 0 → percentDelta q b = b * q / 100) ∧
    (∀ q', q ≤ q' → percentDelta q b ≤ percentDelta q' b) ∧
    (∀ q', q < q' → 0 < b → percentDelta q b < percentDelta q' b) ∧
    (∀ b', 0 ≤ b' → percentDelta q (b + b') = percentDelta q b + percentDelta q b') ∧
    ∀ costs : List ℚ, (∀ c ∈ costs, 0 ≤ c) →
      (costs.map (percentDelta q)).sum = percentDelta q costs.sum := by
  refine ⟨delta_percent_eq nonneg, checked_delta_percent nonneg, ?_, ?_, ?_,
    percentDelta_of_nonpos nonneg, ?_, ?_, ?_, fun _ => sum_percentDelta⟩
  · intro positive
    rw [percentDelta_eq_mul_part nonneg, sign_mul, sign_pos positive, one_mul, sign_part]
  · rintro (rfl | rfl)
    · rw [percentDelta_of_nonpos nonneg le_rfl, mul_zero, zero_div]
    · rw [percentDelta_eq_mul_part le_rfl, zero_mul]
  · intro positive
    rw [boosted_rest nonneg positive, percentDelta_eq_mul_part nonneg]
    have above := part_pos positive
    have below := part_lt_one positive
    refine ⟨by positivity, mul_le_of_le_one_right nonneg below.le, ?_, rfl⟩
    intro cost
    exact mul_lt_of_lt_one_right cost below
  · intro q' le
    rw [percentDelta_eq_mul_part nonneg, percentDelta_eq_mul_part nonneg]
    exact mul_le_mul_of_nonneg_left (part_strictMono.monotone le) nonneg
  · intro q' less cost
    rw [percentDelta_eq_mul_part nonneg, percentDelta_eq_mul_part nonneg]
    exact mul_lt_mul_of_pos_left (part_strictMono less) cost
  · intro b' nonneg'
    rw [percentDelta_eq_mul_part (add_nonneg nonneg nonneg'), percentDelta_eq_mul_part nonneg,
      percentDelta_eq_mul_part nonneg', add_mul]

/-- A boost of a fifth gave twenty of a hundred and twenty. -/
theorem percent_delta_laws_fifth :
    (0 : ℚ) ≤ 120 ∧ (percent (20 : ℚ)).delta 1 120 = .ok 20 ∧
    (percent (Checked.of 20)).delta (.of 1) (.of 120) = .ok (.of 20) ∧
    ((120 : ℚ) - 20) * (1 + 20 / 100) = 120 := by
  have fifth : percentDelta 20 120 = 20 := by
    rw [percentDelta_of_pos (by norm_num) (by norm_num)]
    norm_num
  have laws := percent_delta_laws 20 120 1 (by norm_num)
  rw [fifth] at laws
  exact ⟨by norm_num, laws.1, laws.2.1, (laws.2.2.2.2.1 (by norm_num)).2.2.2⟩

end Magnitude

end YieldRules
