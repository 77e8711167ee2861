import Mathlib.Algebra.Order.Field.Power
import Mathlib.Algebra.Order.Ring.Abs
import Mathlib.Data.Rat.Cast.Order
import Mathlib.Tactic.FieldSimp
import Mathlib.Tactic.Linarith
import Mathlib.Tactic.NormNum
import Mathlib.Tactic.Positivity
import Mathlib.Tactic.Ring

/-!
# Nearest binary numbers

Significands of 53 binary digits and exponents that have a least value but no greatest. A
rational is rounded to the nearest of these numbers, and of two that are as near to the one
with the even significand. Such a number is unique.
-/

namespace YieldRules.Decimal

/-- The value of a significand and an exponent. -/
def worth (m : ℕ) (e : ℤ) : ℚ :=
  m * 2 ^ e

/-- A significand fills its 53 digits unless its exponent is the least. -/
structure Canonical (m : ℕ) (e : ℤ) : Prop where
  narrow : m < 2 ^ 53
  least : -1074 ≤ e
  filled : 2 ^ 52 ≤ m ∨ e = -1074

/-- No binary number is nearer to a rational, and if another one is as near, this one has an even
significand. -/
structure Nearest (q : ℚ) (m : ℕ) (e : ℤ) : Prop where
  canonical : Canonical m e
  closest : ∀ a f, Canonical a f → |q - worth m e| ≤ |q - worth a f|
  even : ∀ a f, Canonical a f → worth a f ≠ worth m e → |q - worth m e| = |q - worth a f| →
    m % 2 = 0

/-- A natural number is a rational rounded, halves to the even neighbour. -/
structure HalfEven (r : ℚ) (k : ℕ) : Prop where
  near : |r - k| ≤ 1 / 2
  even : |r - k| = 1 / 2 → k % 2 = 0

variable {m a k : ℕ} {e f t : ℤ} {q r : ℚ}

/-! ## Values -/

theorem unit_pos (e : ℤ) : (0 : ℚ) < 2 ^ e :=
  zpow_pos (by norm_num) e

@[simp]
theorem worth_zero : worth 0 e = 0 := by
  simp [worth]

theorem worth_units (m : ℕ) : worth m 0 = m := by
  rw [worth, zpow_zero, mul_one]

theorem worth_lt_worth : worth m e < worth a e ↔ m < a := by
  rw [worth, worth, mul_lt_mul_iff_left₀ (unit_pos e), Nat.cast_lt]

theorem worth_le_worth : worth m e ≤ worth a e ↔ m ≤ a := by
  rw [worth, worth, mul_le_mul_iff_left₀ (unit_pos e), Nat.cast_le]

/-- A unit is taken apart into smaller ones. -/
theorem worth_mul_pow (m n : ℕ) (e : ℤ) : worth (m * 2 ^ n) e = worth m (e + n) := by
  rw [worth, worth, zpow_add₀ (by norm_num), zpow_natCast]
  push_cast
  ring

theorem worth_succ (m : ℕ) (e : ℤ) : worth m (e + 1) = 2 * worth m e := by
  rw [worth, worth, zpow_add_one₀ two_ne_zero]
  ring

theorem worth_mul_worth : worth m e * worth a f = worth (m * a) (e + f) := by
  rw [worth, worth, worth, zpow_add₀ two_ne_zero]
  push_cast
  ring

theorem exists_worth_of_le (le : t ≤ f) : ∃ i, worth a f = worth i t := by
  obtain ⟨n, rfl⟩ := Int.le.dest le
  exact ⟨a * 2 ^ n, (worth_mul_pow a n t).symm⟩

/-- A number with a smaller exponent is less than all filled significands. -/
theorem Canonical.worth_lt (canonical : Canonical a f) (lt : f < t) :
    worth a f < worth (2 ^ 52) t := by
  obtain ⟨n, rfl⟩ := Int.lt.dest lt
  have larger : worth (2 ^ 52 * 2 ^ n.succ) f = worth (2 ^ 52) (f + n.succ) :=
    worth_mul_pow (2 ^ 52) n.succ f
  rw [← larger, worth_lt_worth]
  have positive : 1 ≤ 2 ^ n := Nat.one_le_two_pow
  have narrow := canonical.narrow
  rw [Nat.pow_succ]
  omega

theorem Canonical.filled_of_lt (canonical : Canonical m e) (lt : f < e) (least : -1074 ≤ f) :
    2 ^ 52 ≤ m := by
  rcases canonical.filled with filled | rfl
  · exact filled
  · omega

theorem Canonical.worth_lt_of_exponent_lt (canonical : Canonical m e) (canonical' : Canonical a f)
    (lt : f < e) : worth a f < worth m e :=
  (canonical'.worth_lt lt).trans_le
    (worth_le_worth.mpr (canonical.filled_of_lt lt canonical'.least))

/-- A binary number has one significand and one exponent. -/
theorem Canonical.unique (canonical : Canonical m e) (canonical' : Canonical a f)
    (same : worth m e = worth a f) : m = a ∧ e = f := by
  rcases lt_trichotomy e f with lt | rfl | lt
  · exact absurd same (canonical'.worth_lt_of_exponent_lt canonical lt).ne
  · refine ⟨?_, rfl⟩
    exact le_antisymm (worth_le_worth.mp same.le) (worth_le_worth.mp same.ge)
  · exact absurd same.symm (canonical.worth_lt_of_exponent_lt canonical' lt).ne

/-- Between a number and the next one with its exponent there is no other. -/
theorem Canonical.le_of_lt_next (canonical : Canonical m e) (canonical' : Canonical a f)
    (lt : worth a f < worth (m + 1) e) : worth a f ≤ worth m e := by
  rcases lt_or_ge f e with smaller | le
  · exact (canonical.worth_lt_of_exponent_lt canonical' smaller).le
  · obtain ⟨i, split⟩ := exists_worth_of_le (a := a) le
    rw [split, worth_lt_worth] at lt
    rw [split, worth_le_worth]
    omega

/-! ## One nearest number -/

/-- A binary number is the nearest one to itself. -/
theorem Canonical.nearest (canonical : Canonical m e) : Nearest (worth m e) m e := by
  refine ⟨canonical, ?_, ?_⟩
  · intro a f _
    rw [sub_self, abs_zero]
    exact abs_nonneg _
  · intro a f _ other tie
    rw [sub_self, abs_zero, eq_comm, abs_eq_zero, sub_eq_zero] at tie
    exact absurd tie.symm other

/-- Of two nearest numbers with different values one has an odd significand: the next one after
the lesser. -/
theorem Nearest.worth_le (nearest : Nearest q m e) (nearest' : Nearest q a f) :
    worth a f ≤ worth m e := by
  by_contra less
  rw [not_le] at less
  have apart : |q - worth m e| = |q - worth a f| :=
    le_antisymm (nearest.closest a f nearest'.canonical) (nearest'.closest m e nearest.canonical)
  have even := nearest.even a f nearest'.canonical less.ne' apart
  have even' := nearest'.even m e nearest.canonical less.ne apart.symm
  have narrow := nearest.canonical.narrow
  have next : Canonical (m + 1) e := by
    refine ⟨by omega, nearest.canonical.least, ?_⟩
    exact nearest.canonical.filled.imp_left fun filled => filled.trans m.le_succ
  have after : worth m e < worth (m + 1) e := worth_lt_worth.mpr m.lt_succ_self
  rcases lt_trichotomy (worth (m + 1) e) (worth a f) with between | same | beyond
  · -- A number strictly between two that are as near to `q` is nearer than both.
    have closest := nearest.closest (m + 1) e next
    have middle : q - worth m e = -(q - worth a f) := by
      rcases abs_eq_abs.mp apart with same | opposite
      · linarith
      · exact opposite
    rw [abs_of_pos (by linarith : 0 < q - worth m e)] at closest
    rcases abs_cases (q - worth (m + 1) e) with ⟨size, _⟩ | ⟨size, _⟩
    · linarith
    · linarith
  · have parts := next.unique nearest'.canonical same
    omega
  · exact absurd (nearest.canonical.le_of_lt_next nearest'.canonical beyond) (not_le.mpr less)

theorem Nearest.unique (nearest : Nearest q m e) (nearest' : Nearest q a f) : m = a ∧ e = f :=
  nearest.canonical.unique nearest'.canonical
    (le_antisymm (nearest'.worth_le nearest) (nearest.worth_le nearest'))

/-! ## Rounding in units -/

theorem abs_sub_worth (q : ℚ) (k : ℕ) (t : ℤ) :
    |q - worth k t| = |q / 2 ^ t - k| * 2 ^ t := by
  have unit := unit_pos t
  rw [← abs_of_pos unit, ← abs_mul, abs_of_pos unit, worth]
  congr 1
  field_simp

/-- A whole number of units other than the rounded one is as far away at least. -/
theorem HalfEven.le_abs (rounded : HalfEven r k) (other : a ≠ k) : 1 / 2 ≤ |r - a| := by
  have apart : (1 : ℚ) ≤ |(a : ℚ) - k| := by
    have whole : (1 : ℤ) ≤ |(a : ℤ) - k| := Int.one_le_abs (by omega)
    exact_mod_cast whole
  have triangle := abs_sub_abs_le_abs_sub ((a : ℚ) - k) (r - k)
  have turned : (a : ℚ) - k - (r - k) = -(r - a) := by ring
  rw [turned, abs_neg] at triangle
  have near := rounded.near
  linarith

theorem HalfEven.closest (rounded : HalfEven (q / 2 ^ t) k) (a : ℕ) :
    |q - worth k t| ≤ |q - worth a t| := by
  by_cases same : a = k
  · rw [same]
  · rw [abs_sub_worth, abs_sub_worth]
    exact mul_le_mul_of_nonneg_right (rounded.near.trans (rounded.le_abs same)) (unit_pos t).le

theorem HalfEven.even_of_tie (rounded : HalfEven (q / 2 ^ t) k) (other : a ≠ k)
    (tie : |q - worth k t| = |q - worth a t|) : k % 2 = 0 := by
  rw [abs_sub_worth, abs_sub_worth] at tie
  have same := mul_right_cancel₀ (unit_pos t).ne' tie
  exact rounded.even (le_antisymm rounded.near (same ▸ rounded.le_abs other))

theorem HalfEven.le_of_worth_le (rounded : HalfEven (q / 2 ^ t) k) (wide : worth a t ≤ q) :
    a ≤ k := by
  have units : (a : ℚ) ≤ q / 2 ^ t := (le_div_iff₀ (unit_pos t)).mpr wide
  have near := (abs_le.mp rounded.near).2
  have next : (a : ℚ) < (k + 1 : ℕ) := by
    rw [Nat.cast_succ]
    linarith
  exact Nat.lt_succ_iff.mp (Nat.cast_lt.mp next)

theorem HalfEven.le_of_lt_worth (rounded : HalfEven (q / 2 ^ t) k) (less : q < worth a t) :
    k ≤ a := by
  have units : q / 2 ^ t < a := (div_lt_iff₀ (unit_pos t)).mpr less
  have near := (abs_le.mp rounded.near).1
  have next : (k : ℚ) < (a + 1 : ℕ) := by
    rw [Nat.cast_succ]
    linarith
  exact Nat.lt_succ_iff.mp (Nat.cast_lt.mp next)

section Units

variable (rounded : HalfEven (q / 2 ^ t) k) (least : -1074 ≤ t)
  (large : t = -1074 ∨ worth (2 ^ 52) t ≤ q)

include rounded large in
/-- Numbers with a smaller exponent are further away than the rounded one. -/
theorem HalfEven.lt_of_exponent_lt (canonical : Canonical a f) (lt : f < t) :
    |q - worth k t| < |q - worth a f| := by
  have wide : worth (2 ^ 52) t ≤ q := by
    rcases large with rfl | wide
    · exact absurd canonical.least (not_le.mpr lt)
    · exact wide
  have less := canonical.worth_lt lt
  calc
    |q - worth k t| ≤ |q - worth (2 ^ 52) t| := rounded.closest (2 ^ 52)
    _ = q - worth (2 ^ 52) t := abs_of_nonneg (by linarith)
    _ < q - worth a f := by linarith
    _ ≤ |q - worth a f| := le_abs_self _

include rounded large in
theorem HalfEven.closest_canonical (a : ℕ) (f : ℤ) (canonical : Canonical a f) :
    |q - worth k t| ≤ |q - worth a f| := by
  rcases lt_or_ge f t with lt | le
  · exact (rounded.lt_of_exponent_lt large canonical lt).le
  · obtain ⟨i, split⟩ := exists_worth_of_le (a := a) le
    rw [split]
    exact rounded.closest i

include rounded large in
theorem HalfEven.even_canonical (a : ℕ) (f : ℤ) (canonical : Canonical a f)
    (other : worth a f ≠ worth k t) (tie : |q - worth k t| = |q - worth a f|) : k % 2 = 0 := by
  rcases lt_or_ge f t with lt | le
  · exact absurd tie (rounded.lt_of_exponent_lt large canonical lt).ne
  · obtain ⟨i, split⟩ := exists_worth_of_le (a := a) le
    rw [split] at other tie
    exact rounded.even_of_tie (fun same => other (by rw [same])) tie

include rounded least large in
/-- A rational that is rounded in units of its own size is rounded to the nearest number. -/
theorem HalfEven.nearest (narrow : k < 2 ^ 53) : Nearest q k t := by
  refine ⟨⟨narrow, least, ?_⟩, rounded.closest_canonical large, rounded.even_canonical large⟩
  rcases large with bottom | wide
  · exact .inr bottom
  · exact .inl (rounded.le_of_worth_le wide)

include rounded least large in
/-- Rounding up may take one digit more, and then the digits start over. -/
theorem HalfEven.nearest_carried (carried : k = 2 ^ 53) : Nearest q (2 ^ 52) (t + 1) := by
  subst carried
  have same : worth (2 ^ 52) (t + 1) = worth (2 ^ 53) t := (worth_mul_pow (2 ^ 52) 1 t).symm
  refine ⟨⟨by norm_num, by omega, .inl le_rfl⟩, ?_, fun _ _ _ _ _ => by norm_num⟩
  rw [same]
  exact rounded.closest_canonical large

end Units

/-! ## The ends of the range -/

/-- The least size of a rational that no finite float stands for: half a unit above the largest. -/
def overflow : ℚ :=
  2 ^ 1024 - 2 ^ 970

/-- Half a unit of the largest floats. -/
def halfUnit : ℚ :=
  2 ^ 970

theorem halfUnit_pos : 0 < halfUnit :=
  pow_pos (by norm_num) 970

theorem worth_of_halfUnit (m n : ℕ) : worth m (970 + n) = m * 2 ^ n * halfUnit := by
  have unit : (2 : ℚ) ^ (970 : ℤ) = 2 ^ 970 := zpow_ofNat 2 970
  rw [← worth_mul_pow, worth, halfUnit, unit, Nat.cast_mul, Nat.cast_pow, Nat.cast_ofNat]

theorem overflow_eq : overflow = (2 ^ 54 - 1) * halfUnit := by
  rw [overflow, halfUnit, sub_one_mul, ← pow_add]

theorem worth_largest : worth (2 ^ 53 - 1) 971 = (2 ^ 54 - 2) * halfUnit := by
  rw [show (971 : ℤ) = 970 + (1 : ℕ) from rfl, worth_of_halfUnit]
  norm_num

theorem worth_beyond : worth (2 ^ 52) 972 = 2 ^ 54 * halfUnit := by
  rw [show (972 : ℤ) = 970 + (2 : ℕ) from rfl, worth_of_halfUnit]
  norm_num

theorem canonical_largest : Canonical (2 ^ 53 - 1) 971 :=
  ⟨by norm_num, by norm_num, .inl (by norm_num)⟩

theorem canonical_beyond : Canonical (2 ^ 52) 972 :=
  ⟨by norm_num, by norm_num, .inl le_rfl⟩

theorem Canonical.le_largest (canonical : Canonical m e) (finite : e ≤ 971) :
    worth m e ≤ worth (2 ^ 53 - 1) 971 := by
  rcases finite.lt_or_eq with lt | rfl
  · exact (canonical_largest.worth_lt_of_exponent_lt canonical lt).le
  · rw [worth_le_worth]
    have narrow := canonical.narrow
    omega

theorem Canonical.beyond_le (canonical : Canonical m e) (infinite : 971 < e) :
    worth (2 ^ 52) 972 ≤ worth m e := by
  rcases (Int.add_one_le_of_lt infinite).lt_or_eq with lt | same
  · exact (canonical.worth_lt_of_exponent_lt canonical_beyond lt).le
  · rw [← same]
    exact worth_le_worth.mpr (canonical.filled_of_lt infinite (by norm_num))

theorem Nearest.finite_of_lt (nearest : Nearest q m e) (small : q < overflow) : e ≤ 971 := by
  by_contra infinite
  have beyond := nearest.canonical.beyond_le (not_le.mp infinite)
  have closest := nearest.closest _ _ canonical_largest
  have distance := neg_le_abs (q - worth m e)
  have unit := halfUnit_pos
  rw [overflow_eq] at small
  rw [worth_beyond] at beyond
  rw [worth_largest] at closest
  rcases abs_cases (q - (2 ^ 54 - 2) * halfUnit) with ⟨size, _⟩ | ⟨size, _⟩
  · linarith
  · linarith

theorem Nearest.lt_of_finite (nearest : Nearest q m e) (finite : e ≤ 971) : q < overflow := by
  by_contra large
  have largest := nearest.canonical.le_largest finite
  have closest := nearest.closest _ _ canonical_beyond
  have distance := le_abs_self (q - worth m e)
  have unit := halfUnit_pos
  rw [not_lt, overflow_eq] at large
  rw [worth_largest] at largest
  rw [worth_beyond] at closest
  rcases abs_cases (q - 2 ^ 54 * halfUnit) with ⟨size, _⟩ | ⟨size, _⟩
  · linarith
  · -- The largest float is as near as the number after it, but its significand is odd.
    have tie : |q - worth m e| = |q - worth (2 ^ 52) 972| := by
      rw [worth_beyond]
      linarith
    have even := nearest.even _ _ canonical_beyond (by rw [worth_beyond]; linarith) tie
    have same : worth m e = worth (2 ^ 53 - 1) 971 := by
      rw [worth_largest]
      linarith
    have parts := nearest.canonical.unique canonical_largest same
    omega

/-- Less than half the least unit is nothing. -/
theorem nearest_zero (nonneg : 0 ≤ q) (small : q < worth 1 (-1075)) : Nearest q 0 (-1074) := by
  have half : q / 2 ^ (-1074 : ℤ) < 1 / 2 := by
    rw [div_lt_iff₀ (unit_pos _)]
    have unit : worth 1 (-1074) = 2 * worth 1 (-1075) := by
      rw [← worth_succ, show (-1075 + 1 : ℤ) = -1074 from rfl]
    have same : worth 1 (-1074) = 2 ^ (-1074 : ℤ) := by rw [worth, Nat.cast_one, one_mul]
    linarith only [small, unit, same]
  have positive : 0 ≤ q / 2 ^ (-1074 : ℤ) := div_nonneg nonneg (unit_pos _).le
  have rounded : HalfEven (q / 2 ^ (-1074 : ℤ)) 0 := by
    refine ⟨?_, fun _ => rfl⟩
    rw [Nat.cast_zero, sub_zero, abs_of_nonneg positive]
    exact half.le
  exact rounded.nearest le_rfl (.inl rfl) (by norm_num)

theorem nearest_nothing : Nearest 0 0 (-1074) :=
  nearest_zero le_rfl (mul_pos (by norm_num) (unit_pos _))

end YieldRules.Decimal
