import Templating.Proofs.Number.Rounding
import Templating.Proofs.Number.Spelling

/-!
# Numerals are read as the nearest double

The digits of a numeral name a natural number, and the exponent moves their point. The
double that is read is the one nearest to this number. That holds also where the place of
the first digit decides: below all of these places lie numbers that are nearest to zero,
and above them numbers that have no magnitude.
-/

namespace Templating

/-- A number of less than half a unit is nearest to zero. -/
theorem Magnitude.zero_isNearest
    {size : ℚ}
    (nonneg : 0 ≤ size)
    (small : 2 * size ≤ 1 / unitsInOne) :
    zero.IsNearest size where
  nearest other := by
    rw [exact_zero, sub_zero, abs_of_nonneg nonneg]
    rcases Nat.eq_zero_or_pos other.units with isZero | positive
    · rw [exact, isZero, Nat.cast_zero, zero_div, sub_zero, abs_of_nonneg nonneg]
    · have atLeastOne : 1 / (unitsInOne : ℚ) ≤ other.exact :=
        div_le_div_of_nonneg_right (by exact_mod_cast positive) unitsInOne_cast_pos.le
      rw [abs_of_nonpos (by linarith)]
      linarith
  even _ _ := ⟨0, rfl⟩

namespace Numeral

/-- The number that a numeral names, without its sign. -/
def size (numeral : Numeral) : ℚ :=
  digitsValue (numeral.whole ++ numeral.fraction) *
    10 ^ (numeral.exponent - numeral.fraction.length)

/-! ## The number that digits name -/

theorem digitsValue_append (front back : List Char) :
    digitsValue (front ++ back) = digitsValue front * 10 ^ back.length + digitsValue back := by
  rw [digitsValue, Nat.ofDigitChars_append, Nat.ofDigitChars_eq_ofDigitChars_zero,
    Nat.mul_comm]
  rfl

theorem digitsValue_cons (digit : Char) (others : List Char) :
    digitsValue (digit :: others) =
      (digit.toNat - '0'.toNat) * 10 ^ others.length + digitsValue others := by
  rw [← List.singleton_append, digitsValue_append]
  simp [digitsValue, Nat.ofDigitChars]

theorem toNat_sub_lt_ten {digit : Char} (isDigit : digit.isDigit = true) :
    digit.toNat - '0'.toNat < 10 := by
  have atMost : digit.toNat ≤ '9'.toNat := (Text.isDigit_eq_true.1 isDigit).2
  have nine : '9'.toNat = 57 := rfl
  have zero : '0'.toNat = 48 := rfl
  omega

theorem toNat_sub_pos
    {digit : Char}
    (isDigit : digit.isDigit = true)
    (nonzero : digit ≠ '0') :
    0 < digit.toNat - '0'.toNat := by
  have atLeast : '0'.toNat ≤ digit.toNat := (Text.isDigit_eq_true.1 isDigit).1
  have different : digit.toNat ≠ '0'.toNat := fun same => nonzero (Char.toNat_inj.1 same)
  omega

theorem digitsValue_lt
    {digits : List Char}
    (allDigits : ∀ character ∈ digits, character.isDigit = true) :
    digitsValue digits < 10 ^ digits.length := by
  induction digits with
  | nil => decide
  | cons digit others inductionHypothesis =>
      obtain ⟨isDigit, othersDigits⟩ := List.forall_mem_cons.1 allDigits
      have less := inductionHypothesis othersDigits
      have atMost : (digit.toNat - '0'.toNat) * 10 ^ others.length ≤ 9 * 10 ^ others.length :=
        Nat.mul_le_mul_right _ (Nat.le_of_lt_succ (toNat_sub_lt_ten isDigit))
      rw [digitsValue_cons, List.length_cons, Nat.pow_succ]
      omega

/-- Digits that do not begin with a zero name a number that needs all of them. -/
theorem le_digitsValue
    {digit : Char}
    (isDigit : digit.isDigit = true)
    (nonzero : digit ≠ '0')
    (others : List Char) :
    10 ^ others.length ≤ digitsValue (digit :: others) := by
  rw [digitsValue_cons]
  exact Nat.le_add_right_of_le
    (Nat.le_mul_of_pos_left _ (toNat_sub_pos isDigit nonzero))

variable {numeral : Numeral}

theorem size_eq (numeral : Numeral) :
    numeral.size = digitsValue numeral.digits * 10 ^ numeral.lastExponent := by
  rw [size, digits, digitsValue_dropWhile, lastExponent]

theorem ne_zero_of_head? (numeral : Numeral) :
    ∀ digit ∈ numeral.digits.head?, digit ≠ '0' := by
  intro digit isFirst
  have kept := List.head?_dropWhile_not (· = '0') (numeral.whole ++ numeral.fraction)
  rw [digits, Option.mem_def] at isFirst
  rw [isFirst] at kept
  simpa using kept

theorem size_nonneg (numeral : Numeral) : 0 ≤ numeral.size := by
  rw [size]
  positivity

/-! ## The nearest double -/

/-- Below all places of a double lie numbers of less than half a unit. -/
theorem two_mul_ten_zpow_le : 2 * (10 : ℚ) ^ (-331 : Int) ≤ 1 / unitsInOne := by
  have bound : 2 * unitsInOne ≤ 10 ^ 331 := by decide +kernel
  have castBound : 2 * (unitsInOne : ℚ) ≤ 10 ^ 331 := by exact_mod_cast bound
  rw [zpow_neg, ← div_eq_mul_inv, div_le_div_iff₀ (by positivity) unitsInOne_cast_pos, one_mul]
  exact castBound

/-- Above all places of a double lie numbers that overflow. -/
theorem overflow_le_ten_zpow : Double.overflow ≤ (10 : ℚ) ^ (310 : Int) := by
  have bound : 2 ^ 53 * 2 ^ 971 ≤ 10 ^ 310 := by decide +kernel
  have castBound : (2 : ℚ) ^ 53 * 2 ^ 971 ≤ 10 ^ 310 := by exact_mod_cast bound
  refine le_trans ?_ castBound
  rw [Double.overflow]
  gcongr
  norm_num

theorem one_lt_overflow : 1 < Double.overflow := by
  have power : (1 : ℚ) ≤ 2 ^ 971 := one_le_pow₀ one_le_two
  exact (by norm_num : (1 : ℚ) < 2 ^ 53 - 1 / 2).trans_le
    (le_mul_of_one_le_right (by norm_num) power)

/-- A number whose first digit has a very small place is less than half a unit. -/
theorem small_of_place
    (allDigits : ∀ character ∈ numeral.digits, character.isDigit = true)
    (low : numeral.lastExponent + numeral.digits.length < -330) :
    2 * numeral.size ≤ 1 / unitsInOne := by
  have digits : (digitsValue numeral.digits : ℚ) ≤ 10 ^ numeral.digits.length := by
    exact_mod_cast (digitsValue_lt allDigits).le
  have size : numeral.size ≤ 10 ^ (-331 : Int) := by
    rw [size_eq]
    calc
      (digitsValue numeral.digits : ℚ) * 10 ^ numeral.lastExponent ≤
          10 ^ numeral.digits.length * 10 ^ numeral.lastExponent := by gcongr
      _ = 10 ^ (numeral.digits.length + numeral.lastExponent) := by
        rw [zpow_add₀ (by norm_num), zpow_natCast]
      _ ≤ 10 ^ (-331 : Int) := zpow_le_zpow_right₀ (by norm_num) (by omega)
  linarith [two_mul_ten_zpow_le]

/-- A number whose first digit has a very large place overflows. -/
theorem overflow_of_place
    (allDigits : ∀ character ∈ numeral.digits, character.isDigit = true)
    (nonempty : numeral.digits ≠ [])
    (high : 310 < numeral.lastExponent + numeral.digits.length) :
    Double.overflow ≤ numeral.size := by
  obtain ⟨digit, others, split⟩ := List.exists_cons_of_ne_nil nonempty
  have nonzero : digit ≠ '0' := numeral.ne_zero_of_head? digit (by rw [split]; rfl)
  rw [split, List.length_cons] at high
  rw [split] at allDigits
  have atLeast : (10 : ℚ) ^ others.length ≤ digitsValue numeral.digits := by
    rw [split]
    exact_mod_cast
      le_digitsValue (allDigits digit List.mem_cons_self) nonzero others
  refine overflow_le_ten_zpow.trans ?_
  rw [size_eq]
  calc
    (10 : ℚ) ^ (310 : Int) ≤ 10 ^ (others.length + numeral.lastExponent) :=
      zpow_le_zpow_right₀ (by norm_num) (by push_cast at high; omega)
    _ = 10 ^ others.length * 10 ^ numeral.lastExponent := by
      rw [zpow_add₀ (by norm_num), zpow_natCast]
    _ ≤ digitsValue numeral.digits * 10 ^ numeral.lastExponent := by gcongr

/-- A numeral is read as the double nearest to the number that it names. -/
theorem toDouble_isNearest
    (allDigits :
      ∀ character ∈ numeral.whole ++ numeral.fraction, character.isDigit = true) :
    numeral.toDouble.IsNearest numeral.negative numeral.size := by
  have kept : ∀ character ∈ numeral.digits, character.isDigit = true :=
    fun character inside => allDigits character (List.dropWhile_sublist _ |>.subset inside)
  have zero (small : 2 * numeral.size ≤ 1 / unitsInOne) :
      Double.IsNearest numeral.negative numeral.size (.finite numeral.negative .zero) := by
    have unit : 1 / (unitsInOne : ℚ) ≤ 1 :=
      (div_le_one unitsInOne_cast_pos).2 (by exact_mod_cast Double.unitsInOne_pos)
    refine .finite ?_ (Magnitude.zero_isNearest numeral.size_nonneg small)
    linarith [one_lt_overflow, numeral.size_nonneg]
  unfold toDouble
  dsimp only
  split_ifs with low high
  · refine zero ?_
    rcases low with none | low
    · rw [size_eq, none, show digitsValue [] = 0 from rfl, Nat.cast_zero, zero_mul,
        mul_zero]
      exact (one_div_pos.2 unitsInOne_cast_pos).le
    · exact small_of_place kept low
  · exact .infinite (overflow_of_place kept (not_or.1 low).1 high)
  · rw [size_eq]
    exact Double.ofDecimal_isNearest ..

/-! ## What a text denotes -/

/-- A text without blanks is a numeral of a number with a sign and a size. -/
def Denotes (negative : Bool) (size : ℚ) (text : List Char) : Prop :=
  ∃ numeral : Numeral,
    numeral.Plain text ∧ numeral.negative = negative ∧ numeral.size = size

variable {negative otherNegative : Bool} {size otherSize : ℚ} {text : List Char}

theorem Spells.toDouble_isNearest (spells : numeral.Spells text) :
    numeral.toDouble.IsNearest numeral.negative numeral.size :=
  Numeral.toDouble_isNearest spells.allDigits

/-- A sign, digits with a point and an exponent denote the number that the digits name,
with its point moved. -/
theorem denotes_append
    {sign whole fraction point power : List Char}
    {exponent : Int}
    (signed : Sign negative sign)
    (digits : ∀ character ∈ whole, character.isDigit = true)
    (pointed : Point fraction point)
    (powered : Power exponent power)
    (nonempty : whole ≠ [] ∨ fraction ≠ []) :
    Denotes negative (digitsValue (whole ++ fraction) * 10 ^ (exponent - fraction.length))
      (sign ++ (whole ++ (point ++ power))) :=
  ⟨⟨negative, whole, fraction, exponent⟩, .mk signed digits pointed powered nonempty, rfl,
    rfl⟩

/-- A text denotes one number only. -/
theorem Denotes.unique
    (first : Denotes negative size text)
    (second : Denotes otherNegative otherSize text) :
    negative = otherNegative ∧ size = otherSize := by
  obtain ⟨numeral, plain, rfl, rfl⟩ := first
  obtain ⟨other, otherPlain, rfl, rfl⟩ := second
  have same := Option.some.inj
    ((readCore?_eq_some_iff.2 plain).symm.trans (readCore?_eq_some_iff.2 otherPlain))
  exact ⟨congrArg Numeral.negative same, congrArg Numeral.size same⟩

/-- A numeral is read as the double nearest to the number that it denotes. -/
theorem Denotes.exists_isNearest (denotes : Denotes negative size text) :
    ∃ numeral, read? text = some numeral ∧ numeral.toDouble.IsNearest negative size := by
  obtain ⟨numeral, plain, rfl, rfl⟩ := denotes
  exact ⟨numeral, read?_eq_some_iff.2 plain.spells,
    plain.spells.toDouble_isNearest⟩

theorem Denotes.exists_read
    {double : Double}
    (denotes : Denotes negative size text)
    (nearest : double.IsNearest negative size) :
    ∃ numeral, read? text = some numeral ∧ numeral.toDouble = double := by
  obtain ⟨numeral, read, readNearest⟩ := denotes.exists_isNearest
  exact ⟨numeral, read, readNearest.unique nearest⟩

end Numeral
end Templating
