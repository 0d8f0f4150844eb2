import Templating.Number.Double

/-!
# Rounding to the nearest double

A quotient of natural numbers is rounded to the nearest natural number, a half
to the even neighbour. Applied to a number of units with as many of its last
binary digits removed as do not fit the significand, this gives the nearest
double, and a magnitude beyond the largest double gives an infinity.
-/

namespace Templating

/-- The natural number nearest to a quotient; a half goes to the even
neighbour. -/
def roundEven (numerator denominator : Nat) : Nat :=
  let quotient := numerator / denominator
  let twice := 2 * (numerator % denominator)
  if twice < denominator ∨ (twice = denominator ∧ quotient % 2 = 0) then quotient
  else quotient + 1

theorem div_le_roundEven (numerator denominator : Nat) :
    numerator / denominator ≤ roundEven numerator denominator := by
  simp only [roundEven]
  split <;> omega

namespace Double

/-- The number of binary digits of a number of units that do not fit a
significand. -/
def excess (units : Nat) : Nat := units.log2 + 1 - 53

theorem full_of_excess
    (numerator denominator : Nat) :
    excess (numerator / denominator) = 0 ∨
      Nat.pow 2 52 ≤ roundEven numerator
        (denominator * Nat.pow 2 (excess (numerator / denominator))) := by
  by_cases small : excess (numerator / denominator) = 0
  · exact Or.inl small
  · refine Or.inr (Nat.le_trans ?_ (div_le_roundEven _ _))
    simp only [Nat.pow_eq]
    rw [← Nat.div_div_eq_div_mul, Nat.le_div_iff_mul_le (Nat.two_pow_pos _),
      ← Nat.pow_add]
    have positive : numerator / denominator ≠ 0 := by
      intro zero
      simp [excess, zero] at small
    refine Nat.le_trans (Nat.pow_le_pow_right (by decide) ?_)
      (Nat.log2_self_le positive)
    unfold excess at small ⊢
    omega

/-- The double nearest to a quotient of units. -/
def ofUnits (negative : Bool) (numerator denominator : Nat) : Double :=
  let shift := excess (numerator / denominator)
  let rounded := roundEven numerator (denominator * Nat.pow 2 shift)
  if room : rounded < Nat.pow 2 53 then
    if bounded : shift ≤ 2045 then
      .finite negative
        ⟨rounded, shift, room, bounded, full_of_excess numerator denominator⟩
    else .infinite negative
  else if bounded : shift + 1 ≤ 2045 then
    .finite negative
      ⟨Nat.pow 2 52, shift + 1, by decide, bounded, Or.inr (Nat.le_refl _)⟩
  else .infinite negative

/-- The double nearest to `coefficient * 10 ^ exponent`. -/
def ofDecimal (negative : Bool) (coefficient : Nat) (exponent : Int) : Double :=
  ofUnits negative
    (coefficient * Nat.pow 10 exponent.toNat * unitsInOne)
    (Nat.pow 10 (-exponent).toNat)

end Double
end Templating
