import Templating.Proofs.Number.Nearest

/-!
# Rounding gives the nearest double

A quotient is rounded by at most a half to a natural number, and by a half only to an even
one. A number of units that does not fit a significand is rounded to as many of its
leading digits as do fit. The magnitudes with finer digits lie below the number and below
the first magnitude with digits of this size, so the result is the nearest magnitude.
-/

namespace Templating

variable {numerator denominator : Nat}

/-- A quotient is rounded by less than a half, or by a half to an even number. -/
theorem abs_sub_roundEven (positive : 0 < denominator) :
    |(numerator : ℚ) / denominator - roundEven numerator denominator| < 1 / 2 ∨
      |(numerator : ℚ) / denominator - roundEven numerator denominator| = 1 / 2 ∧
        Even (roundEven numerator denominator) := by
  have castPositive : (0 : ℚ) < denominator := by exact_mod_cast positive
  have split : (numerator : ℚ) / denominator =
      (numerator / denominator : Nat) + (numerator % denominator : Nat) / denominator := by
    rw [div_eq_iff castPositive.ne', add_mul, div_mul_cancel₀ _ castPositive.ne']
    exact_mod_cast (Nat.div_add_mod' numerator denominator).symm
  have below : numerator % denominator < denominator := Nat.mod_lt _ positive
  rw [split]
  unfold roundEven
  dsimp only
  generalize numerator / denominator = quotient
  generalize numerator % denominator = remainder at below ⊢
  have nonneg : (0 : ℚ) ≤ remainder / denominator :=
    div_nonneg (Nat.cast_nonneg _) castPositive.le
  have lessThanOne : (remainder : ℚ) / denominator < 1 := by
    rw [div_lt_one castPositive]
    exact_mod_cast below
  rcases Nat.lt_trichotomy (2 * remainder) denominator with down | tie | up
  · have small : (remainder : ℚ) / denominator < 1 / 2 := by
      rw [div_lt_div_iff₀ castPositive two_pos]
      exact_mod_cast (by omega : remainder * 2 < 1 * denominator)
    rw [if_pos (.inl down), add_sub_cancel_left, abs_of_nonneg nonneg]
    exact .inl small
  · have half : (remainder : ℚ) / denominator = 1 / 2 := by
      rw [div_eq_div_iff castPositive.ne' two_ne_zero]
      exact_mod_cast (by omega : remainder * 2 = 1 * denominator)
    right
    rw [half]
    by_cases even : quotient % 2 = 0
    · rw [if_pos (.inr ⟨tie, even⟩), add_sub_cancel_left]
      exact ⟨by norm_num, Nat.even_iff.2 even⟩
    · rw [if_neg (by omega), Nat.cast_add_one, add_sub_add_left_eq_sub]
      exact ⟨by norm_num, Nat.even_iff.2 (by omega)⟩
  · have large : 1 / 2 < (remainder : ℚ) / denominator := by
      rw [div_lt_div_iff₀ two_pos castPositive]
      exact_mod_cast (by omega : 1 * denominator < remainder * 2)
    rw [if_neg (by omega), Nat.cast_add_one, add_sub_add_left_eq_sub,
      abs_of_nonpos (by linarith)]
    exact .inl (by linarith)

/-- Every other natural number is at least a half away from what is rounded by at most a
half. -/
theorem half_le_abs_sub
    {value : ℚ}
    {rounded other : Nat}
    (different : other ≠ rounded)
    (near : |value - rounded| ≤ 1 / 2) :
    1 / 2 ≤ |value - other| := by
  have apart : (1 : ℚ) ≤ |(rounded : ℚ) - other| := by
    have whole : (1 : ℤ) ≤ |(rounded : ℤ) - other| :=
      Int.one_le_abs (sub_ne_zero.2 (by exact_mod_cast different.symm))
    exact_mod_cast whole
  have triangle := abs_sub_le (rounded : ℚ) value other
  rw [abs_sub_comm (rounded : ℚ) value] at triangle
  linarith

/-- No other natural number is nearer to what is rounded by at most a half. -/
theorem abs_sub_rounded_le
    {value : ℚ}
    {rounded : Nat}
    (near : |value - rounded| ≤ 1 / 2)
    (other : Nat) :
    |value - rounded| ≤ |value - other| := by
  by_cases different : other = rounded
  · rw [different]
  · exact near.trans (half_le_abs_sub different near)

namespace Magnitude

/-- A magnitude is a natural number of digits of a given size, or it lies below the first
magnitude whose digits have this size. -/
theorem units_on_grid (magnitude : Magnitude) (shift : Nat) :
    (∃ digits : Nat, magnitude.units = digits * 2 ^ shift) ∨
      0 < shift ∧ magnitude.units < 2 ^ 52 * 2 ^ shift := by
  by_cases coarse : shift ≤ magnitude.exponent
  · obtain ⟨more, split⟩ := Nat.exists_eq_add_of_le coarse
    refine .inl ⟨magnitude.significand * 2 ^ more, ?_⟩
    rw [units, Nat.pow_eq, split, Nat.pow_add, Nat.mul_comm (2 ^ shift), Nat.mul_assoc]
  · have fits : magnitude.significand < 2 ^ 53 := magnitude.significand_lt
    refine .inr ⟨by omega, ?_⟩
    rw [units, Nat.pow_eq]
    calc
      magnitude.significand * 2 ^ magnitude.exponent <
          2 ^ 53 * 2 ^ magnitude.exponent :=
        Nat.mul_lt_mul_of_pos_right fits (Nat.two_pow_pos _)
      _ = 2 ^ 52 * 2 ^ (magnitude.exponent + 1) := by ring
      _ ≤ 2 ^ 52 * 2 ^ shift :=
        Nat.mul_le_mul_left _ (Nat.pow_le_pow_right two_pos (by omega))

variable {magnitude other : Magnitude} {shift rounded : Nat} {value : ℚ}

/-- In digits of a size, a magnitude is at least a half away from a number that is rounded
to another number of digits, or it is farther away than that. -/
theorem half_le_or_farther
    (different : other.units ≠ rounded * 2 ^ shift)
    (near : |value - rounded| ≤ 1 / 2)
    (large : 0 < shift → 2 ^ 52 ≤ value) :
    1 / 2 ≤ |value - other.units / 2 ^ shift| ∨
      |value - rounded| < |value - other.units / 2 ^ shift| := by
  rcases other.units_on_grid shift with ⟨digits, isDigits⟩ | ⟨positive, below⟩
  · have otherDigits : (other.units : ℚ) / 2 ^ shift = digits := by
      rw [isDigits]
      push_cast
      field_simp
    rw [otherDigits]
    refine .inl (half_le_abs_sub ?_ near)
    rintro rfl
    exact different isDigits
  · have first := large positive
    have small : (other.units : ℚ) / 2 ^ shift < 2 ^ 52 := by
      rw [div_lt_iff₀ (by positivity)]
      exact_mod_cast below
    have nearer := abs_sub_rounded_le near (2 ^ 52)
    rw [Nat.cast_pow, Nat.cast_ofNat, abs_of_nonneg (sub_nonneg.2 first)] at nearer
    right
    rw [abs_of_pos (by linarith : 0 < value - other.units / 2 ^ shift)]
    linarith

/-- A magnitude is nearest to a number when it is as many digits of a size as the number
rounds to, and the number is at least the first magnitude whose digits have this size. -/
theorem isNearest_of_rounded
    (units : magnitude.units = rounded * 2 ^ shift)
    (near :
      |value - rounded| < 1 / 2 ∨ |value - rounded| = 1 / 2 ∧ Even magnitude.significand)
    (large : 0 < shift → 2 ^ 52 ≤ value) :
    magnitude.IsNearest (value * (2 ^ shift / unitsInOne)) := by
  have digit : (0 : ℚ) < 2 ^ shift / unitsInOne :=
    div_pos (by positivity) unitsInOne_cast_pos
  have atMost : |value - rounded| ≤ 1 / 2 := near.elim le_of_lt fun tie => tie.1.le
  have distance (other : Magnitude) :
      |value * (2 ^ shift / unitsInOne) - other.exact| =
        |value - other.units / 2 ^ shift| * (2 ^ shift / unitsInOne) := by
    rw [← abs_of_pos digit, ← abs_mul, abs_of_pos digit, sub_mul, exact]
    congr 2
    generalize (unitsInOne : ℚ) = one
    field_simp
  have same : (magnitude.units : ℚ) / 2 ^ shift = rounded := by
    rw [units]
    push_cast
    field_simp
  have farther (other : Magnitude) (different : other ≠ magnitude) :=
    half_le_or_farther (fun equal => different (eq_of_units_eq (equal.trans units.symm)))
      atMost large
  refine ⟨fun other => ?_, fun {other} different tie => ?_⟩
  · by_cases different : other = magnitude
    · rw [different]
    · rw [distance, distance, same]
      refine mul_le_mul_of_nonneg_right ?_ digit.le
      exact (farther other different).elim atMost.trans le_of_lt
  · rw [distance, distance, same] at tie
    have equal := mul_right_cancel₀ digit.ne' tie
    rcases farther other different with far | less
    · exact (near.resolve_left (not_lt.2 (far.trans_eq equal.symm))).2
    · exact absurd equal less.ne

end Magnitude

namespace Double

/-! ## Rounding a number of units -/

/-- The largest digits of a significand. -/
theorem two_pow_div_unitsInOne : (2 : ℚ) ^ 2045 / unitsInOne = 2 ^ 971 := by
  obtain ⟨power, isPower, value⟩ : ∃ power, unitsInOne = 2 ^ power ∧ power + 971 = 2045 :=
    ⟨_, Nat.pow_eq, rfl⟩
  rw [isPower, Nat.cast_pow, Nat.cast_ofNat, div_eq_iff (by positivity), ← pow_add,
    Nat.add_comm, value]

theorem overflow_eq : overflow = (2 ^ 53 - 1 / 2) * (2 ^ 2045 / unitsInOne) := by
  rw [two_pow_div_unitsInOne, overflow]

/-- What fits the largest significand in digits of a size that is not too large does not
overflow. -/
theorem mul_lt_overflow
    {value : ℚ}
    {shift : Nat}
    (atMost : shift ≤ 2045)
    (fits : value < 2 ^ 53)
    (largest : shift = 2045 → value < 2 ^ 53 - 1 / 2) :
    value * (2 ^ shift / unitsInOne) < overflow := by
  rw [overflow_eq, ← mul_div_assoc, ← mul_div_assoc,
    div_lt_div_iff_of_pos_right unitsInOne_cast_pos]
  rcases Nat.eq_or_lt_of_le atMost with rfl | less
  · exact mul_lt_mul_of_pos_right (largest rfl) (by positivity)
  · have smaller : (2 : ℚ) ^ shift ≤ 2 ^ 2044 :=
      pow_le_pow_right₀ one_le_two (by omega)
    have positive : (0 : ℚ) < 2 ^ shift := by positivity
    calc
      value * 2 ^ shift < 2 ^ 53 * 2 ^ shift := mul_lt_mul_of_pos_right fits positive
      _ ≤ 2 ^ 53 * 2 ^ 2044 := by gcongr
      _ ≤ (2 ^ 53 - 1 / 2) * 2 * 2 ^ 2044 := by gcongr; norm_num
      _ = (2 ^ 53 - 1 / 2) * 2 ^ 2045 := by rw [pow_succ' (2 : ℚ) 2044, mul_assoc]

/-- As many digits as do not fit a significand overflow when their size is the largest
one. -/
theorem overflow_le_mul
    {value : ℚ}
    {shift more : Nat}
    (shifted : shift = 2045 + more)
    (large : 2 ^ 53 - 1 / 2 ≤ value * 2 ^ more) :
    overflow ≤ value * (2 ^ shift / unitsInOne) := by
  rw [overflow_eq, ← mul_div_assoc, ← mul_div_assoc,
    div_le_div_iff_of_pos_right unitsInOne_cast_pos, shifted, pow_add, ← mul_assoc,
    mul_right_comm]
  gcongr

/-- Without the digits that do not fit, a number of units has at most the digits of a
significand, and all of them if there are any that do not fit. -/
theorem scaled_bounds (positive : 0 < denominator) :
    let shift := excess (numerator / denominator)
    let value := (numerator : ℚ) / (denominator * Nat.pow 2 shift : Nat)
    value < 2 ^ 53 ∧ (0 < shift → 2 ^ 52 ≤ value) := by
  intro shift value
  have divisor : 0 < denominator * 2 ^ shift :=
    Nat.mul_pos positive (Nat.two_pow_pos shift)
  have castDivisor : (0 : ℚ) < (denominator * Nat.pow 2 shift : Nat) := by
    exact_mod_cast divisor
  constructor
  · have small : numerator < 2 ^ 53 * (denominator * 2 ^ shift) := by
      rw [← Nat.div_lt_iff_lt_mul divisor, ← Nat.div_div_eq_div_mul,
        Nat.div_lt_iff_lt_mul (Nat.two_pow_pos shift), ← Nat.pow_add]
      refine Nat.lt_log2_self.trans_le (Nat.pow_le_pow_right two_pos ?_)
      simp only [shift, excess]
      omega
    rw [div_lt_iff₀ castDivisor]
    exact_mod_cast small
  · intro some
    have large : 2 ^ 52 * (denominator * 2 ^ shift) ≤ numerator := by
      rw [← Nat.le_div_iff_mul_le divisor, ← Nat.div_div_eq_div_mul,
        Nat.le_div_iff_mul_le (Nat.two_pow_pos shift), ← Nat.pow_add]
      have nonzero : numerator / denominator ≠ 0 := by
        intro zero
        simp [shift, excess, zero] at some
      refine Nat.le_trans (Nat.pow_le_pow_right two_pos ?_) (Nat.log2_self_le nonzero)
      simp only [shift, excess] at some ⊢
      omega
    rw [le_div_iff₀ castDivisor]
    exact_mod_cast large

/-- A number that is rounded to a significand lies less than half a digit beyond the
largest one, which is odd. -/
theorem lt_of_rounded_lt
    {value : ℚ}
    {rounded : Nat}
    (near : |value - rounded| < 1 / 2 ∨ |value - rounded| = 1 / 2 ∧ Even rounded)
    (room : rounded < 2 ^ 53) :
    value < 2 ^ 53 - 1 / 2 := by
  rcases Nat.lt_or_eq_of_le (Nat.le_sub_one_of_lt room) with less | largest
  · have castLess : (rounded : ℚ) ≤ 2 ^ 53 - 2 := by
      exact_mod_cast (by omega : (rounded : ℤ) ≤ 2 ^ 53 - 2)
    have upper := (abs_le.1 (near.elim le_of_lt fun tie => tie.1.le)).2
    linarith
  · have odd : ¬Even rounded := by
      rw [largest]
      decide
    have castLargest : (rounded : ℚ) = 2 ^ 53 - 1 := by
      rw [largest]
      norm_num
    have upper := (abs_lt.1 (near.resolve_right fun tie => odd tie.2)).2
    linarith

/-- A number that is not rounded to a significand is rounded to the next power of two. -/
theorem eq_of_not_rounded_lt
    {value : ℚ}
    {rounded : Nat}
    (fits : value < 2 ^ 53)
    (near : |value - rounded| ≤ 1 / 2)
    (noRoom : ¬rounded < 2 ^ 53) :
    rounded = 2 ^ 53 := by
  refine Nat.le_antisymm (Nat.le_of_lt_succ ?_) (Nat.le_of_not_lt noRoom)
  have lower := (abs_le.1 near).1
  have castLess : (rounded : ℚ) < (2 ^ 53 : Nat) + 1 := by
    push_cast
    linarith
  exact_mod_cast castLess

/-- A number of units is rounded to the double nearest to it. -/
theorem ofUnits_isNearest (positive : 0 < denominator) (negative : Bool) :
    (ofUnits negative numerator denominator).IsNearest negative
      ((numerator : ℚ) / denominator / unitsInOne) := by
  obtain ⟨fits, large⟩ := @scaled_bounds numerator _ positive
  have divisor : 0 < denominator * Nat.pow 2 (excess (numerator / denominator)) :=
    Nat.mul_pos positive (Nat.two_pow_pos _)
  have near := @abs_sub_roundEven numerator _ divisor
  have size : (numerator : ℚ) / denominator / unitsInOne =
      numerator / (denominator * Nat.pow 2 (excess (numerator / denominator)) : Nat) *
        (2 ^ excess (numerator / denominator) / unitsInOne) := by
    rw [Nat.pow_eq]
    push_cast
    generalize (unitsInOne : ℚ) = one
    field_simp
  have atMost := near.elim le_of_lt fun tie => tie.1.le
  have below := (abs_le.1 atMost).1
  rw [size]
  unfold ofUnits
  dsimp only
  -- The rounded digits fit a significand, or they carry over to one digit of the next size.
  split_ifs with room bounded bounded
  · refine .finite (mul_lt_overflow bounded fits fun _ => ?_)
      (Magnitude.isNearest_of_rounded rfl near large)
    exact lt_of_rounded_lt near room
  · obtain ⟨more, shifted⟩ := Nat.exists_eq_add_of_lt (Nat.not_le.1 bounded)
    refine .infinite (@overflow_le_mul _ _ (more + 1) shifted ?_)
    have full := large (by omega)
    have doubled : (2 : ℚ) ≤ 2 ^ (more + 1) := le_self_pow₀ one_le_two (Nat.succ_ne_zero _)
    have product := mul_le_mul full doubled two_pos.le (by linarith)
    linarith
  · have carried := eq_of_not_rounded_lt fits atMost room
    refine .finite (mul_lt_overflow (by omega) fits (by omega))
      (Magnitude.isNearest_of_rounded ?_ (near.imp_right fun tie => ⟨tie.1, ?_⟩) large)
    · rw [carried]
      simp only [Magnitude.units, Nat.pow_eq]
      ring
    · simp only [Nat.pow_eq]
      decide
  · obtain ⟨more, shifted⟩ := Nat.exists_eq_add_of_le (Nat.le_of_not_lt fun less =>
      bounded (Nat.succ_le_of_lt less))
    refine .infinite (overflow_le_mul shifted ?_)
    have carried := eq_of_not_rounded_lt fits atMost room
    have atLeastOne : (1 : ℚ) ≤ 2 ^ more := one_le_pow₀ one_le_two
    rw [carried, Nat.cast_pow, Nat.cast_ofNat] at below
    have half : (2 : ℚ) ^ 53 - 1 / 2 ≤
        numerator / (denominator * Nat.pow 2 (excess (numerator / denominator)) : Nat) := by
      linarith
    have nonneg : (0 : ℚ) ≤ 2 ^ 53 - 1 / 2 := by norm_num
    exact half.trans (le_mul_of_one_le_right (nonneg.trans half) atLeastOne)

/-- A decimal number is rounded to the double nearest to it. -/
theorem ofDecimal_isNearest (negative : Bool) (coefficient : Nat) (exponent : Int) :
    (ofDecimal negative coefficient exponent).IsNearest negative
      (coefficient * 10 ^ exponent) := by
  have power : (10 : ℚ) ^ exponent = 10 ^ exponent.toNat / 10 ^ (-exponent).toNat := by
    rw [← zpow_natCast, ← zpow_natCast, ← zpow_sub₀ (by norm_num)]
    congr 1
    omega
  have size : (coefficient : ℚ) * 10 ^ exponent =
      (coefficient * Nat.pow 10 exponent.toNat * unitsInOne : Nat) /
          (Nat.pow 10 (-exponent).toNat : Nat) / unitsInOne := by
    have nonzero := unitsInOne_cast_pos.ne'
    rw [power]
    simp only [Nat.pow_eq]
    push_cast
    field_simp
  rw [size]
  exact ofUnits_isNearest (Nat.pow_pos (by decide)) negative

end Double

end Templating
