import Mathlib.Algebra.Order.Field.Power
import Mathlib.Algebra.Order.Ring.Abs
import Mathlib.Data.Rat.Cast.Order
import Mathlib.Tactic.FieldSimp
import Mathlib.Tactic.Linarith
import Mathlib.Tactic.Positivity
import Mathlib.Tactic.Ring
import Templating.Proofs.Number.Whole

/-!
# The double nearest to a number

Among all magnitudes, one is nearest to a rational number when no other one lies closer to
it, and of two at the same distance the one with the even significand is taken. Numbers
from half a digit beyond the largest magnitude on have an infinity in its place. There is
always one such double and never more than one, and rounding finds it.
-/

namespace Templating

/-- The rational number that a magnitude is. -/
def Magnitude.exact (magnitude : Magnitude) : ℚ := magnitude.units / unitsInOne

/-- A magnitude is nearest to a size: no other one is nearer, and none with an odd
significand is taken when another one is as near. -/
structure Magnitude.IsNearest (magnitude : Magnitude) (size : ℚ) : Prop where
  nearest (other : Magnitude) : |size - magnitude.exact| ≤ |size - other.exact|
  even
    {other : Magnitude}
    (different : other ≠ magnitude)
    (tie : |size - magnitude.exact| = |size - other.exact|) :
    Even magnitude.significand

namespace Double

/-- The least number that has no magnitude nearest to it. It lies half a digit beyond the
largest significand, where a digit is as large as it can be. -/
def overflow : ℚ := (2 ^ 53 - 1 / 2) * 2 ^ 971

/-- A double is nearest to a number with a sign and a size. -/
inductive IsNearest (negative : Bool) (size : ℚ) : Double → Prop
  | finite
      {magnitude : Magnitude}
      (bounded : size < overflow)
      (nearest : magnitude.IsNearest size) :
      IsNearest negative size (.finite negative magnitude)
  | infinite (beyond : overflow ≤ size) : IsNearest negative size (.infinite negative)

end Double

/-! ## At most one -/

theorem unitsInOne_cast_pos : (0 : ℚ) < unitsInOne := by
  exact_mod_cast Double.unitsInOne_pos

namespace Magnitude

variable {magnitude other : Magnitude}

theorem exact_lt_exact : magnitude.exact < other.exact ↔ magnitude.units < other.units := by
  rw [exact, exact, div_lt_div_iff_of_pos_right unitsInOne_cast_pos, Nat.cast_lt]

theorem exact_nonneg (magnitude : Magnitude) : 0 ≤ magnitude.exact :=
  div_nonneg (Nat.cast_nonneg _) unitsInOne_cast_pos.le

theorem exact_zero : zero.exact = 0 := by
  rw [exact, units_zero, Nat.cast_zero, zero_div]

/-- A magnitude is determined by its value. -/
theorem eq_of_exact_eq (same : magnitude.exact = other.exact) : magnitude = other := by
  refine eq_of_units_eq (Nat.le_antisymm (Nat.le_of_not_lt fun less => ?_)
    (Nat.le_of_not_lt fun less => ?_))
  · exact (exact_lt_exact.2 less).ne' same
  · exact (exact_lt_exact.2 less).ne same

/-- Between two magnitudes lies at least one digit of the smaller one. -/
theorem units_add_le (less : magnitude.units < other.units) :
    magnitude.units + 2 ^ magnitude.exponent ≤ other.units := by
  simp only [units, Nat.pow_eq] at less ⊢
  by_cases finer : magnitude.exponent ≤ other.exponent
  · obtain ⟨more, split⟩ := Nat.exists_eq_add_of_le finer
    rw [split, Nat.pow_add, Nat.mul_comm (2 ^ _), ← Nat.mul_assoc] at less ⊢
    have digits := Nat.lt_of_mul_lt_mul_right less
    calc
      magnitude.significand * 2 ^ magnitude.exponent + 2 ^ magnitude.exponent =
          (magnitude.significand + 1) * 2 ^ magnitude.exponent := by ring
      _ ≤ other.significand * 2 ^ more * 2 ^ magnitude.exponent :=
        Nat.mul_le_mul_right _ digits
  · -- The larger one has its digits in finer places, so that it cannot be larger.
    exfalso
    obtain ⟨more, split⟩ := Nat.exists_eq_add_of_lt (Nat.not_le.1 finer)
    have full : 2 ^ 52 ≤ magnitude.significand :=
      magnitude.full.resolve_left (by omega)
    have room : other.significand < 2 ^ 53 := other.significand_lt
    have power : 2 ^ magnitude.exponent = 2 ^ (more + 1) * 2 ^ other.exponent := by
      rw [← Nat.pow_add]
      congr 1
      omega
    have doubled : 2 ≤ 2 ^ (more + 1) := by
      rw [Nat.pow_succ]
      have positive := Nat.two_pow_pos more
      omega
    rw [power, ← Nat.mul_assoc] at less
    have digits := Nat.lt_of_mul_lt_mul_right less
    have atLeast := Nat.mul_le_mul full doubled
    omega

/-- The magnitude one digit above a magnitude with an even significand. -/
theorem exists_next (even : Even magnitude.significand) :
    ∃ next : Magnitude,
      next.units = magnitude.units + 2 ^ magnitude.exponent ∧ ¬Even next.significand := by
  have room : magnitude.significand + 1 < 2 ^ 53 := by
    have fits : magnitude.significand < 2 ^ 53 := magnitude.significand_lt
    obtain ⟨half, isHalf⟩ := even
    omega
  refine ⟨⟨magnitude.significand + 1, magnitude.exponent, room, magnitude.exponent_le,
    magnitude.full.imp_right Nat.le_succ_of_le⟩, ?_, ?_⟩
  · simp only [units, Nat.pow_eq]
    ring
  · simpa [Nat.even_add_one] using even

end Magnitude

/-- Where the smaller of two numbers is not farther, the middle between them is not
reached. -/
theorem two_mul_le_of_nearer
    {size first second : ℚ}
    (less : first < second)
    (nearer : |size - first| ≤ |size - second|) :
    2 * size ≤ first + second := by
  rcases abs_cases (size - first) with ⟨distance, side⟩ | ⟨distance, side⟩ <;>
    rcases abs_cases (size - second) with ⟨other, otherSide⟩ | ⟨other, otherSide⟩ <;>
      linarith

/-- Where the larger of two numbers is not farther, the middle between them is reached. -/
theorem le_two_mul_of_nearer
    {size first second : ℚ}
    (less : first < second)
    (nearer : |size - second| ≤ |size - first|) :
    first + second ≤ 2 * size := by
  rcases abs_cases (size - first) with ⟨distance, side⟩ | ⟨distance, side⟩ <;>
    rcases abs_cases (size - second) with ⟨other, otherSide⟩ | ⟨other, otherSide⟩ <;>
      linarith

namespace Magnitude.IsNearest

variable {size : ℚ} {magnitude other : Magnitude}

/-- Of two magnitudes nearest to one number none is the smaller one. Both significands
would be even, and the magnitude between them would be nearer. -/
theorem not_lt
    (first : magnitude.IsNearest size)
    (second : other.IsNearest size) :
    ¬magnitude.exact < other.exact := by
  intro less
  have different : other ≠ magnitude := by
    rintro rfl
    exact less.false
  have tie := le_antisymm (first.nearest other) (second.nearest magnitude)
  obtain ⟨next, isNext, odd⟩ := exists_next (first.even different tie)
  have above : magnitude.exact < next.exact := by
    rw [exact_lt_exact, isNext]
    exact Nat.lt_add_of_pos_right (Nat.two_pow_pos _)
  have below : next.exact < other.exact := by
    refine exact_lt_exact.2 (lt_of_le_of_ne ?_ fun same => odd ?_)
    · rw [isNext]
      exact units_add_le (exact_lt_exact.1 less)
    · rw [eq_of_units_eq same]
      exact second.even different.symm tie.symm
  have left := two_mul_le_of_nearer above (first.nearest next)
  have right := le_two_mul_of_nearer below (second.nearest next)
  linarith

/-- At most one magnitude is nearest to a number. -/
theorem unique
    (first : magnitude.IsNearest size)
    (second : other.IsNearest size) :
    magnitude = other :=
  eq_of_exact_eq (le_antisymm (le_of_not_gt (second.not_lt first))
    (le_of_not_gt (first.not_lt second)))

/-- A magnitude is the nearest one to itself. -/
theorem self (magnitude : Magnitude) : magnitude.IsNearest magnitude.exact where
  nearest other := by simp
  even {other} different tie := by
    rw [sub_self, abs_zero, eq_comm, abs_eq_zero, sub_eq_zero] at tie
    exact absurd (eq_of_exact_eq tie).symm different

end Magnitude.IsNearest

/-- At most one double is nearest to a number. -/
theorem Double.IsNearest.unique
    {negative : Bool}
    {size : ℚ}
    {double other : Double}
    (first : double.IsNearest negative size)
    (second : other.IsNearest negative size) :
    double = other := by
  cases first with
  | finite bounded nearest =>
      cases second with
      | finite _ alsoNearest => rw [nearest.unique alsoNearest]
      | infinite beyond => exact absurd bounded beyond.not_gt
  | infinite beyond =>
      cases second with
      | finite bounded _ => exact absurd bounded beyond.not_gt
      | infinite _ => rfl

end Templating
