import Mathlib.Algebra.Group.Nat.Defs
import Templating.Proofs.Number.Written

/-!
# Whole numbers as doubles

Every natural number below `2 ^ 53` is a double, and its decimal digits are read as
exactly that one.
-/

namespace Templating

/-- A greater exponent comes with a full significand, for which there is no room in a
magnitude with the smaller one. -/
theorem Magnitude.exponent_le_of_units_eq
    {magnitude other : Magnitude}
    (same : magnitude.units = other.units) :
    other.exponent ≤ magnitude.exponent := by
  by_contra less
  have full : 2 ^ 52 ≤ other.significand := other.full.resolve_left (by omega)
  have room : magnitude.significand < 2 ^ 53 := magnitude.significand_lt
  obtain ⟨more, split⟩ := Nat.exists_eq_add_of_lt (Nat.not_le.1 less)
  have shifted : magnitude.significand = other.significand * 2 ^ (more + 1) := by
    refine Nat.eq_of_mul_eq_mul_right (Nat.two_pow_pos magnitude.exponent) ?_
    rw [Nat.mul_assoc, ← Nat.pow_add,
      show more + 1 + magnitude.exponent = other.exponent by omega]
    exact same
  have double : 2 ≤ 2 ^ (more + 1) := by
    rw [Nat.pow_succ]
    have positive := Nat.two_pow_pos more
    omega
  have atLeast := Nat.mul_le_mul full double
  omega

/-- A magnitude is determined by its units. -/
theorem Magnitude.eq_of_units_eq
    {magnitude other : Magnitude}
    (same : magnitude.units = other.units) :
    magnitude = other := by
  have sameExponent : magnitude.exponent = other.exponent :=
    Nat.le_antisymm (exponent_le_of_units_eq same.symm) (exponent_le_of_units_eq same)
  have sameSignificand : magnitude.significand = other.significand := by
    simp only [units, Nat.pow_eq, sameExponent] at same
    exact Nat.eq_of_mul_eq_mul_right (Nat.two_pow_pos other.exponent) same
  cases magnitude
  cases other
  simp_all

/-- What is divided without a remainder is not rounded. -/
theorem roundEven_mul (quotient : Nat) {divisor : Nat} (positive : 0 < divisor) :
    roundEven (quotient * divisor) divisor = quotient := by
  simp [roundEven, Nat.mul_div_cancel quotient positive, positive]

namespace Double

/-- A double is a natural number. -/
def IsWhole (number : Nat) : Double → Prop
  | .finite false magnitude => magnitude.units = number * unitsInOne
  | _ => False

theorem IsWhole.unique
    {number : Nat}
    {value other : Double}
    (first : value.IsWhole number)
    (second : other.IsWhole number) :
    value = other := by
  unfold IsWhole at first second
  split at first
  · split at second
    · rw [Magnitude.eq_of_units_eq (first.trans second.symm)]
    · exact second.elim
  · exact first.elim

theorem log2_mul_two_pow {number : Nat} (positive : number ≠ 0) (power : Nat) :
    (number * 2 ^ power).log2 = number.log2 + power := by
  have product : number * 2 ^ power ≠ 0 :=
    Nat.mul_ne_zero positive (Nat.two_pow_pos power).ne'
  obtain ⟨lower, upper⟩ := (Nat.log2_eq_iff positive).1 rfl
  rw [Nat.log2_eq_iff product]
  constructor
  · rw [Nat.pow_add]
    exact Nat.mul_le_mul_right _ lower
  · rw [Nat.add_right_comm, Nat.pow_add]
    exact Nat.mul_lt_mul_of_pos_right upper (Nat.two_pow_pos power)

/-- A number that fits the significand is not rounded, whatever the number of binary
digits behind it. -/
theorem ofUnits_two_pow
    {number power : Nat}
    (positive : number ≠ 0)
    (fits : number < 2 ^ 53)
    (atLeast : 52 ≤ power)
    (atMost : power ≤ 2045) :
    ∃ magnitude,
      ofUnits false (number * 2 ^ power) 1 = .finite false magnitude ∧
        magnitude.units = number * 2 ^ power := by
  obtain ⟨-, upper⟩ := (Nat.log2_eq_iff positive).1 rfl
  have small : number.log2 < 53 := (Nat.log2_lt positive).2 fits
  have split : 52 - number.log2 + (number.log2 + power - 52) = power := by omega
  have units : number * 2 ^ power =
      number * 2 ^ (52 - number.log2) * 2 ^ (number.log2 + power - 52) := by
    rw [Nat.mul_assoc, ← Nat.pow_add, split]
  have shift : excess (number * 2 ^ power / 1) = number.log2 + power - 52 := by
    rw [Nat.div_one, excess, log2_mul_two_pow positive]
    omega
  have rounded :
      roundEven (number * 2 ^ power)
          (1 * Nat.pow 2 (excess (number * 2 ^ power / 1))) =
        number * 2 ^ (52 - number.log2) := by
    rw [shift, Nat.one_mul, Nat.pow_eq, units]
    exact roundEven_mul _ (Nat.two_pow_pos _)
  have full : number.log2 + 1 + (52 - number.log2) = 53 := by omega
  have room : number * 2 ^ (52 - number.log2) < 2 ^ 53 := by
    calc
      number * 2 ^ (52 - number.log2) <
          2 ^ (number.log2 + 1) * 2 ^ (52 - number.log2) :=
        Nat.mul_lt_mul_of_pos_right upper (Nat.two_pow_pos _)
      _ = 2 ^ 53 := by rw [← Nat.pow_add, full]
  unfold ofUnits
  dsimp only
  rw [dif_pos (by rw [rounded]; exact room), dif_pos (by rw [shift]; omega)]
  refine ⟨_, rfl, ?_⟩
  simp only [Magnitude.units]
  rw [rounded, shift, Nat.pow_eq, ← units]

theorem unitsInOne_eq :
    ∃ power, unitsInOne = 2 ^ power ∧ 52 ≤ power ∧ power ≤ 2045 :=
  ⟨1074, Nat.pow_eq .., by decide, by decide⟩

theorem unitsInOne_pos : 0 < unitsInOne := by
  obtain ⟨power, isPower, -, -⟩ := unitsInOne_eq
  rw [isPower]
  exact Nat.two_pow_pos power

/-- A natural number that fits the significand is a double. -/
theorem ofUnits_isWhole
    {number : Nat}
    (positive : number ≠ 0)
    (fits : number < 2 ^ 53) :
    (ofUnits false (number * unitsInOne) 1).IsWhole number := by
  obtain ⟨power, isPower, atLeast, atMost⟩ := unitsInOne_eq
  obtain ⟨magnitude, isFinite, units⟩ :=
    ofUnits_two_pow positive fits atLeast atMost
  rw [← isPower] at isFinite units
  rw [isFinite]
  exact units

end Double

namespace Numeral

/-- Zeros in front do not change the number. -/
theorem digitsValue_dropWhile (digits : List Char) :
    digitsValue (digits.dropWhile (· = '0')) = digitsValue digits := by
  induction digits with
  | nil => rfl
  | cons digit rest inductionHypothesis =>
      by_cases zero : digit = '0'
      · rw [List.dropWhile_cons_of_pos (by simpa using zero), inductionHypothesis, zero]
        simp [digitsValue, Nat.ofDigitChars]
      · rw [List.dropWhile_cons_of_neg (by simpa using zero)]

/-- The decimal digits of a natural number are read as that number. -/
theorem toDouble_toDigits {number : Nat} (fits : number < 2 ^ 53) :
    Double.IsWhole number
      (toDouble
        { negative := false, whole := Nat.toDigits 10 number, fraction := []
          exponent := 0 }) := by
  have value : digitsValue (Nat.toDigits 10 number) = number :=
    Nat.ofDigitChars_toDigits (by decide) (by decide)
  have short : (Nat.toDigits 10 number).length ≤ 16 :=
    (Nat.length_toDigits_le_iff (by decide) (by decide)).2
      (fits.trans (by decide))
  have stripped := digitsValue_dropWhile (Nat.toDigits 10 number)
  have shorter := List.length_dropWhile_le (· = '0') (Nat.toDigits 10 number)
  have zero : number = 0 → (Nat.toDigits 10 number).dropWhile (· = '0') = [] := by
    rintro rfl
    decide
  have decimal :
      Double.ofDecimal false number 0 = Double.ofUnits false (number * unitsInOne) 1 := by
    simp [Double.ofDecimal]
  rw [value] at stripped
  unfold toDouble
  simp only [digits, lastExponent, List.append_nil, List.length_nil]
  generalize (Nat.toDigits 10 number).dropWhile (· = '0') = digits
    at stripped shorter zero ⊢
  by_cases none : digits = []
  · have isZero : number = 0 := by
      rw [← stripped, none]
      rfl
    rw [if_pos (Or.inl none), isZero]
    exact (Nat.zero_mul _).symm
  · rw [if_neg (not_or.2 ⟨none, by omega⟩), if_neg (by omega), stripped]
    change Double.IsWhole number (Double.ofDecimal false number 0)
    rw [decimal]
    exact Double.ofUnits_isWhole (fun isZero => none (zero isZero)) fits

end Numeral
end Templating
