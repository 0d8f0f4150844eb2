import Mathlib.Order.WithBot
import Templating.Number.Order
import Templating.Proofs.Number.Nearest

/-!
# Exact values

Every number but the one that is not a number has a value among the rational numbers and
two infinities. A whole number of any size is its own value, and a finite double is a whole
number of units. Numbers are ordered just as their values are, so that no whole number is
rounded when it is compared.
-/

namespace Templating

/-- The rational numbers with an infinity below and an infinity above them. -/
abbrev Extended := WithBot (WithTop ℚ)

namespace Extended

/-- A rational number among the extended ones. -/
def ofRat (value : ℚ) : Extended := ((value : WithTop ℚ) : Extended)

variable {left right : ℚ}

theorem ofRat_lt_ofRat : ofRat left < ofRat right ↔ left < right :=
  WithBot.coe_lt_coe.trans WithTop.coe_lt_coe

theorem ofRat_inj : ofRat left = ofRat right ↔ left = right :=
  WithBot.coe_inj.trans WithTop.coe_inj

theorem bot_lt_ofRat (value : ℚ) : ⊥ < ofRat value := WithBot.bot_lt_coe _

theorem ofRat_lt_top (value : ℚ) : ofRat value < ⊤ :=
  WithBot.coe_lt_coe.2 (WithTop.coe_lt_top value)

end Extended

open Extended (ofRat)

/-- The value of a double. -/
def Double.extended? : Double → Option Extended
  | .nan => none
  | .infinite negative => some (if negative then ⊥ else ⊤)
  | .finite negative magnitude =>
      some (ofRat (if negative then -magnitude.exact else magnitude.exact))

/-- The value of a number. -/
def Number.extended? : Number → Option Extended
  | .integer value => some (ofRat value)
  | .double value => value.extended?

/-- The rational number that a number of units is. -/
def unitsValue (units : Int) : ℚ := units / unitsInOne

theorem unitsValue_mul_unitsInOne (whole : Int) :
    unitsValue (whole * unitsInOne) = whole := by
  rw [unitsValue, Int.cast_mul, Int.cast_natCast,
    mul_div_cancel_right₀ _ unitsInOne_cast_pos.ne']

theorem unitsValue_neg (units : Int) : unitsValue (-units) = -unitsValue units := by
  rw [unitsValue, unitsValue, Int.cast_neg, neg_div]

theorem unitsValue_lt_unitsValue {units others : Int} :
    unitsValue units < unitsValue others ↔ units < others := by
  rw [unitsValue, unitsValue, div_lt_div_iff_of_pos_right unitsInOne_cast_pos, Int.cast_lt]

/-- The value at a place on the line of numbers. -/
def LinePlace.extended : LinePlace → Extended
  | .bottom => ⊥
  | .exact units => ofRat (unitsValue units)
  | .top => ⊤

/-- Places lie before one another as their values do. -/
theorem LinePlace.isBefore_iff (first second : LinePlace) :
    first.isBefore second = true ↔ first.extended < second.extended := by
  rcases first with _ | units | _ <;> rcases second with _ | others | _
  case exact.exact =>
    rw [isBefore, decide_eq_true_eq, extended, extended, Extended.ofRat_lt_ofRat,
      unitsValue_lt_unitsValue]
  all_goals simp [isBefore, extended, Extended.bot_lt_ofRat, Extended.ofRat_lt_top]

namespace Number

variable {left right : Number} {first second : Extended}

theorem exists_extended {number : Number} (notNan : number ≠ .double .nan) :
    ∃ value, number.extended? = some value := by
  rcases number with value | _ | negative | ⟨negative, magnitude⟩
  case double.nan => exact absurd rfl notNan
  all_goals exact ⟨_, rfl⟩

/-- The place of a number is that of its value. -/
theorem extended?_eq (number : Number) :
    number.extended? = number.place?.map LinePlace.extended := by
  rcases number with value | _ | ⟨_ | _⟩ | ⟨_ | _, magnitude⟩
  case integer =>
    exact congrArg (fun value => some (ofRat value)) (unitsValue_mul_unitsInOne value).symm
  case double.finite.true =>
    exact congrArg (fun value => some (ofRat value)) (unitsValue_neg magnitude.units).symm
  all_goals rfl

/-- One number is less than another when both have values and these are so. -/
theorem isLess_iff :
    left.isLess right = true ↔
      ∃ first second,
        left.extended? = some first ∧ right.extended? = some second ∧ first < second := by
  simp only [extended?_eq, Option.map_eq_some_iff]
  unfold isLess
  constructor
  · intro less
    split at less
    · next place other isPlace isOther =>
        exact ⟨_, _, ⟨place, isPlace, rfl⟩, ⟨other, isOther, rfl⟩,
          (place.isBefore_iff other).1 less⟩
    · cases less
  · rintro ⟨-, -, ⟨place, isPlace, rfl⟩, ⟨other, isOther, rfl⟩, less⟩
    rw [isPlace, isOther]
    exact (place.isBefore_iff other).2 less

/-- Numbers are ordered as their values are. -/
theorem isLess_eq
    (isFirst : left.extended? = some first)
    (isSecond : right.extended? = some second) :
    left.isLess right = decide (first < second) := by
  rw [Bool.eq_iff_iff, decide_eq_true_eq, isLess_iff]
  simp [isFirst, isSecond]

theorem isAtMost_eq
    (isFirst : left.extended? = some first)
    (isSecond : right.extended? = some second) :
    left.isAtMost right = decide (first ≤ second) := by
  have reversed := isLess_eq isSecond isFirst
  rw [extended?_eq, Option.map_eq_some_iff] at isFirst isSecond
  obtain ⟨place, isPlace, rfl⟩ := isFirst
  obtain ⟨other, isOther, rfl⟩ := isSecond
  simp only [isLess, isPlace, isOther] at reversed
  simp only [isAtMost, isPlace, isOther, reversed, ← not_lt, decide_not]

end Number

namespace Double

variable {negative : Bool} {size : ℚ}

/-- What is nearest to a number has a value. -/
theorem IsNearest.exists_extended
    {double : Double}
    (nearest : double.IsNearest negative size) :
    ∃ value, double.extended? = some value := by
  cases nearest <;> exact ⟨_, rfl⟩

/-- A magnitude is a natural number when it has as many times the units of one. -/
theorem exact_eq_natCast_iff (magnitude : Magnitude) (whole : Nat) :
    magnitude.exact = whole ↔ magnitude.units = whole * unitsInOne := by
  rw [Magnitude.exact, div_eq_iff unitsInOne_cast_pos.ne']
  norm_cast

/-- Only what is not a number has no value. -/
theorem extended?_eq_none_iff (double : Double) :
    double.extended? = none ↔ double = .nan := by
  cases double <;> simp [extended?]

/-- An infinity has no rational value. -/
theorem extended?_infinite_ne (negative : Bool) (value : ℚ) :
    (infinite negative).extended? ≠ some (ofRat value) := by
  intro same
  cases negative
  · exact (Extended.ofRat_lt_top value).ne' (Option.some.inj same)
  · exact (Extended.bot_lt_ofRat value).ne (Option.some.inj same)

/-- The magnitude of a double that is a whole number. -/
theorem exact_eq_natAbs
    {negative : Bool}
    {magnitude : Magnitude}
    {whole : Int}
    (isWhole : (finite negative magnitude).extended? = some (ofRat whole)) :
    magnitude.exact = whole.natAbs := by
  have same := Extended.ofRat_inj.1 (Option.some.inj isWhole)
  rw [Nat.cast_natAbs, Int.cast_abs, ← same, ← abs_of_nonneg magnitude.exact_nonneg]
  split_ifs <;> simp

theorem extended?_of_exact
    {magnitude : Magnitude}
    {whole : Int}
    (size : magnitude.exact = whole.natAbs) :
    (finite (whole < 0) magnitude).extended? = some (ofRat whole) := by
  rw [extended?, size, Nat.cast_natAbs, Int.cast_abs]
  congr 2
  split_ifs with below
  · rw [abs_of_neg (by simpa using below), neg_neg]
  · exact abs_of_nonneg (by simpa using below)

/-- A double is a whole number exactly when its value is that number. -/
theorem toInt?_eq_some_iff (double : Double) (whole : Int) :
    double.toInt? = some whole ↔ double.extended? = some (ofRat whole) := by
  rcases double with _ | negative | ⟨negative, magnitude⟩
  · simp [toInt?, extended?]
  · simp [toInt?, extended?_infinite_ne]
  · simp only [toInt?, Option.ite_none_right_eq_some, Option.some.injEq]
    constructor
    · rintro ⟨divides, rfl⟩
      have split := Nat.div_mul_cancel (Nat.dvd_of_mod_eq_zero divides)
      rw [extended?, (exact_eq_natCast_iff magnitude _).2 split.symm]
      split_ifs <;> push_cast <;> rfl
    · intro isWhole
      have size := exact_eq_natAbs isWhole
      rw [extended?, size, Option.some.injEq, Extended.ofRat_inj] at isWhole
      rw [(exact_eq_natCast_iff magnitude _).1 size, Nat.mul_mod_left,
        Nat.mul_div_cancel _ unitsInOne_pos]
      refine ⟨rfl, Int.cast_injective (α := ℚ) (Eq.trans ?_ isWhole)⟩
      split_ifs
      · rw [Int.cast_neg, Int.cast_natCast]
      · rw [Int.cast_natCast]

/-- The zeros are the doubles with the value zero. -/
theorem isZero_iff (double : Double) :
    double.isZero = true ↔ double.extended? = some (ofRat 0) := by
  rcases double with _ | negative | ⟨negative, magnitude⟩
  · simp [isZero, extended?]
  · simp [isZero, extended?_infinite_ne]
  · have zero := exact_eq_natCast_iff magnitude 0
    rw [Nat.cast_zero, Nat.zero_mul] at zero
    rw [isZero, decide_eq_true_eq, extended?, Option.some.injEq, Extended.ofRat_inj, ← zero]
    split_ifs
    · exact neg_eq_zero.symm
    · rfl

/-- Two doubles of one value are the same, unless they are zeros. -/
theorem eq_or_eq_zero_of_extended
    {double other : Double}
    {value : Extended}
    (first : double.extended? = some value)
    (second : other.extended? = some value) :
    double = other ∨ value = ofRat 0 := by
  have same := first.trans second.symm
  rcases double with _ | negative | ⟨negative, magnitude⟩
  · cases first
  · rcases other with _ | otherNegative | ⟨otherNegative, otherMagnitude⟩
    · cases second
    · left
      cases negative <;> cases otherNegative
      · rfl
      · exact absurd (Option.some.inj same) top_ne_bot
      · exact absurd (Option.some.inj same) bot_ne_top
      · rfl
    · exact (extended?_infinite_ne _ _ same).elim
  · rcases other with _ | otherNegative | ⟨otherNegative, otherMagnitude⟩
    · cases second
    · exact (extended?_infinite_ne _ _ same.symm).elim
    · have values := Extended.ofRat_inj.1 (Option.some.inj same)
      by_cases signs : negative = otherNegative
      · subst signs
        have sizes : magnitude.exact = otherMagnitude.exact := by
          split_ifs at values
          · exact neg_inj.1 values
          · exact values
        exact .inl (by rw [Magnitude.eq_of_exact_eq sizes])
      · -- Numbers with two signs are equal only when both are zero.
        have nonneg := magnitude.exact_nonneg
        have otherNonneg := otherMagnitude.exact_nonneg
        right
        rw [← Option.some.inj first, Extended.ofRat_inj]
        cases negative <;> cases otherNegative <;> simp at signs values ⊢ <;> linarith

end Double

end Templating
