import Templating.Proofs.Value.Display
import Templating.Proofs.Value.Order

/-!
# Equality and order

Values are equal by the texts that they display, and numbers are ordered by their exact
values. The two agree on all values but a few: a whole number that no double is equal to is
the same text as the string of its digits, which is read as a double; and from a bound on a
whole number and a double of one value display different texts.
-/

namespace Templating

open Extended (ofRat)

/-- No double is equal to a whole number. -/
def IsBetweenDoubles (whole : Int) : Prop :=
  ∀ double : Double, double.extended? ≠ some (ofRat whole)

/-- A whole number that no double is equal to, beside the string of its digits. -/
inductive Value.ReadsApart : Value → Value → Prop
  | integer
      {whole : Int}
      (between : IsBetweenDoubles whole) :
      ReadsApart (.integer whole) (.string (integerText whole))
  | string
      {whole : Int}
      (between : IsBetweenDoubles whole) :
      ReadsApart (.string (integerText whole)) (.integer whole)

/-- Operands of which none is before the other: the same texts, or numbers that have the
same value or both none. -/
def Operands.IsTie : Operands → Prop
  | .numbers left right => left.extended? = right.extended?
  | .texts left right => left = right

theorem Operands.IsTie.compare_eq_false
    {operands : Operands}
    (tie : operands.IsTie) :
    operands.compare .less = false ∧ operands.compare .greater = false := by
  cases operands with
  | numbers left right =>
      have notLess {first second : Number} (same : first.extended? = second.extended?) :
          first.isLess second = false := by
        rw [Bool.eq_false_iff]
        intro less
        obtain ⟨value, other, isValue, isOther, before⟩ := Number.isLess_iff.1 less
        cases isValue.symm.trans (same.trans isOther)
        exact before.false
      exact ⟨notLess tie, notLess tie.symm⟩
  | texts left right =>
      cases tie
      simp [compare, Comparison.holds]

/-! ## What one text is read as -/

/-- What is read from the text of a double has the value of the double. -/
theorem extended?_of_read?_displayDouble
    {double : Double}
    {numeral : Numeral}
    (read : Numeral.read? (displayDouble double).toList = some numeral) :
    numeral.toDouble.extended? = double.extended? := by
  by_cases finite : ∃ negative magnitude, double = .finite negative magnitude
  · obtain ⟨negative, magnitude, rfl⟩ := finite
    obtain ⟨other, otherRead, value⟩ := exists_read?_displayDouble negative magnitude
    cases read.symm.trans otherRead
    exact value
  · simp only [not_exists] at finite
    cases read.symm.trans (read?_displayDouble_eq_none finite)

/-- What is read from the digits of a whole number has its value, unless no double has. -/
theorem extended?_of_read?_integerText
    {whole : Int}
    {numeral : Numeral}
    (read : Numeral.read? (integerText whole).toList = some numeral)
    (notBetween : ¬IsBetweenDoubles whole) :
    numeral.toDouble.extended? = some (ofRat whole) := by
  simp only [IsBetweenDoubles, not_forall, not_not] at notBetween
  obtain ⟨double, isWhole⟩ := notBetween
  obtain ⟨other, otherRead, value⟩ := exists_read?_integerText isWhole
  cases read.symm.trans otherRead
  exact value

theorem Value.display_integer_eq_ok_iff (whole : Int) (text : String) :
    (Value.integer whole).display = .ok text ↔
      whole.natAbs < 10 ^ displayedDigits ∧ text = integerText whole := by
  rw [Value.display_integer, displayInteger, Nat.pow_eq]
  split_ifs with small
  · simp [small, eq_comm]
  · simp [small]

namespace Value

variable {left right : Value} {first second : Number} {text : String}

/-- Values with one text that are both numbers have one value, unless they are read
apart. -/
theorem extended?_eq_of_display
    (leftDisplays : left.display = .ok text)
    (rightDisplays : right.display = .ok text)
    (isFirst : left.number? = some first)
    (isSecond : right.number? = some second)
    (notApart : ¬ReadsApart left right) :
    first.extended? = second.extended? := by
  cases left with
  | integer whole =>
      cases isFirst
      obtain ⟨-, rfl⟩ := (Value.display_integer_eq_ok_iff ..).1 leftDisplays
      cases right with
      | integer other =>
          cases isSecond
          obtain ⟨-, same⟩ := (Value.display_integer_eq_ok_iff ..).1 rightDisplays
          rw [integerText_injective same]
      | double double =>
          cases isSecond
          exact ((displayDouble_eq_integerText_iff ..).1
            (Except.ok.inj rightDisplays)).1.symm
      | string text =>
          cases rightDisplays
          rw [number?_string] at isSecond
          obtain ⟨numeral, read, rfl⟩ := Option.map_eq_some_iff.1 isSecond
          exact (extended?_of_read?_integerText read
            fun between => notApart (.integer between)).symm
      | _ => cases isSecond
  | double double =>
      cases isFirst
      cases leftDisplays
      cases right with
      | integer whole =>
          cases isSecond
          obtain ⟨-, same⟩ := (Value.display_integer_eq_ok_iff ..).1 rightDisplays
          exact ((displayDouble_eq_integerText_iff ..).1 same).1
      | double other =>
          cases isSecond
          exact ((displayDouble_eq_iff ..).1 (Except.ok.inj rightDisplays)).symm
      | string text =>
          cases rightDisplays
          rw [number?_string] at isSecond
          obtain ⟨numeral, read, rfl⟩ := Option.map_eq_some_iff.1 isSecond
          exact (extended?_of_read?_displayDouble read).symm
      | _ => cases isSecond
  | string text =>
      cases leftDisplays
      rw [number?_string] at isFirst
      obtain ⟨numeral, read, rfl⟩ := Option.map_eq_some_iff.1 isFirst
      cases right with
      | integer whole =>
          cases isSecond
          obtain ⟨-, rfl⟩ := (Value.display_integer_eq_ok_iff ..).1 rightDisplays
          exact extended?_of_read?_integerText read
            fun between => notApart (.string between)
      | double double =>
          cases isSecond
          cases rightDisplays
          exact extended?_of_read?_displayDouble read
      | string other =>
          cases rightDisplays
          rw [number?_string] at isSecond
          obtain ⟨otherNumeral, otherRead, rfl⟩ := Option.map_eq_some_iff.1 isSecond
          cases read.symm.trans otherRead
          rfl
      | _ => cases isSecond
  | _ => cases isFirst

/-- Equal values are compared as operands of which none is before the other, unless they are
read apart. -/
theorem exists_tie_of_equal
    (equal : left.equal right = .ok true)
    (notApart : ¬ReadsApart left right) :
    ∃ operands, ComparedAs left right operands ∧ operands.IsTie := by
  obtain ⟨text, leftDisplays, rightDisplays⟩ := equal_eq_ok_true_iff.1 equal
  by_cases notBoth : left.number? = none ∨ right.number? = none
  · exact ⟨.texts text text, .texts notBoth leftDisplays rightDisplays, rfl⟩
  · simp only [not_or, Option.ne_none_iff_exists'] at notBoth
    obtain ⟨⟨first, isFirst⟩, second, isSecond⟩ := notBoth
    exact ⟨.numbers first second, .numbers isFirst isSecond,
      extended?_eq_of_display leftDisplays rightDisplays isFirst isSecond notApart⟩

/-- Equal values are not ordered strictly, unless they are read apart. -/
theorem compare_of_equal
    (equal : left.equal right = .ok true)
    (notApart : ¬ReadsApart left right) :
    left.compare .less right = .ok false ∧ left.compare .greater right = .ok false := by
  obtain ⟨operands, compared, tie⟩ := exists_tie_of_equal equal notApart
  obtain ⟨notLess, notGreater⟩ := tie.compare_eq_false
  exact ⟨(compare_eq_ok_iff ..).2 ⟨operands, compared, notLess⟩,
    (compare_eq_ok_iff ..).2 ⟨operands, compared, notGreater⟩⟩

/-- Numbers of two values are ordered in one of the two ways. -/
theorem IsExactly.compare_ne
    {value other : Extended}
    (isValue : left.IsExactly value)
    (isOther : right.IsExactly other)
    (apart : value ≠ other) :
    ∃ less,
      left.compare .less right = .ok less ∧ left.compare .greater right = .ok !less := by
  refine ⟨decide (value < other), isValue.compare_eq isOther .less, ?_⟩
  rw [isValue.compare_eq isOther .greater]
  refine congrArg Except.ok ?_
  rw [Comparison.holds, ← decide_not, decide_eq_decide, not_lt]
  exact ⟨le_of_lt, fun atMost => lt_of_le_of_ne atMost apart.symm⟩

/-- A whole number that no double is equal to is spelled by a numeral of another value. -/
theorem exists_isExactly_integerText
    {whole : Int}
    (between : IsBetweenDoubles whole) :
    ∃ value, IsExactly (.string (integerText whole)) value ∧ value ≠ ofRat whole := by
  obtain ⟨numeral, read, nearest⟩ := (integerText_denotes whole).exists_isNearest
  obtain ⟨value, isValue⟩ := nearest.exists_extended
  have spells := Numeral.read?_eq_some_iff.1 read
  refine ⟨value, .string spells spells.toDouble_isNearest isValue, ?_⟩
  rintro rfl
  exact between _ isValue

/-- Values that are read apart are ordered in one of the two ways. -/
theorem ReadsApart.compare_ne (apart : ReadsApart left right) :
    ∃ less,
      left.compare .less right = .ok less ∧ left.compare .greater right = .ok !less := by
  obtain between | between := apart
  · obtain ⟨value, isValue, different⟩ := exists_isExactly_integerText between
    exact (IsExactly.integer _).compare_ne isValue different.symm
  · obtain ⟨value, isValue, different⟩ := exists_isExactly_integerText between
    exact isValue.compare_ne (.integer _) different

/-! ## Numbers of one value -/

theorem equal_eq_ok_of_display
    {other : String}
    (leftDisplays : left.display = .ok text)
    (rightDisplays : right.display = .ok other) :
    left.equal right = .ok (decide (text = other)) := by
  rw [equal, leftDisplays, rightDisplays]
  rfl

end Value

namespace Number

variable {left right : Number} {value other : Extended}

/-- A number of the host as a value. -/
def toValue : Number → Value
  | .integer whole => .integer whole
  | .double number => .double number

/-- A number is a whole number of the host, not a double. -/
def isInteger : Number → Bool
  | .integer _ => true
  | .double _ => false

theorem isExactly_toValue (isValue : left.extended? = some value) :
    left.toValue.IsExactly value := by
  cases left with
  | integer whole =>
      cases isValue
      exact .integer whole
  | double number => exact .double isValue

/-- Numbers of which neither is less have one value. -/
theorem eq_of_not_less
    (isValue : left.extended? = some value)
    (isOther : right.extended? = some other)
    (notLess : left.toValue.compare .less right.toValue = .ok false)
    (notGreater : left.toValue.compare .greater right.toValue = .ok false) :
    value = other := by
  rw [(isExactly_toValue isValue).compare_eq (isExactly_toValue isOther)] at notLess notGreater
  have atLeast := of_decide_eq_false (Except.ok.inj notLess)
  have atMost := of_decide_eq_false (Except.ok.inj notGreater)
  exact le_antisymm (le_of_not_gt atMost) (le_of_not_gt atLeast)

/-- Of numbers that have one value neither is less. -/
theorem not_less_of_extended
    (isValue : left.extended? = some value)
    (isOther : right.extended? = some value) :
    left.toValue.compare .less right.toValue = .ok false ∧
      left.toValue.compare .greater right.toValue = .ok false := by
  have compared := (isExactly_toValue isValue).compare_eq (isExactly_toValue isOther)
  constructor
  · rw [compared]
    simp [Comparison.holds]
  · rw [compared]
    simp [Comparison.holds]

/-- A double displays the text of a whole number of the same value when this value is below
the bound. -/
theorem displayDouble_eq_iff_of_extended
    {number : Double}
    {whole : Int}
    (same : number.extended? = some (ofRat whole)) :
    displayDouble number = integerText whole ↔
      ∃ bounded : Int, bounded.natAbs < 10 ^ 15 ∧ ofRat whole = ofRat bounded := by
  rw [displayDouble_eq_integerText_iff]
  constructor
  · rintro ⟨-, small⟩
    exact ⟨whole, small, rfl⟩
  · rintro ⟨bounded, small, equal⟩
    rw [Extended.ofRat_inj, Int.cast_inj] at equal
    exact ⟨same, equal ▸ small⟩

/-- Numbers of one value display one text when both are whole numbers, or both doubles, or
when the value is a whole number below the bound. -/
theorem display_eq_iff
    {text otherText : String}
    (isValue : left.extended? = some value)
    (isOther : right.extended? = some value)
    (displays : left.toValue.display = .ok text)
    (otherDisplays : right.toValue.display = .ok otherText) :
    text = otherText ↔
      left.isInteger = right.isInteger ∨
        ∃ whole : Int, whole.natAbs < 10 ^ 15 ∧ value = ofRat whole := by
  cases left with
  | integer whole =>
      cases isValue
      obtain ⟨-, rfl⟩ := (Value.display_integer_eq_ok_iff ..).1 displays
      cases right with
      | integer other =>
          obtain ⟨-, rfl⟩ := (Value.display_integer_eq_ok_iff ..).1 otherDisplays
          have same := Extended.ofRat_inj.1 (Option.some.inj isOther)
          rw [Int.cast_inj] at same
          exact iff_of_true (by rw [same]) (.inl rfl)
      | double number =>
          cases otherDisplays
          rw [eq_comm, displayDouble_eq_iff_of_extended isOther]
          simp [isInteger]
  | double number =>
      cases displays
      cases right with
      | integer other =>
          cases isOther
          obtain ⟨-, rfl⟩ := (Value.display_integer_eq_ok_iff ..).1 otherDisplays
          rw [displayDouble_eq_iff_of_extended isValue]
          simp [isInteger]
      | double otherNumber =>
          cases otherDisplays
          have same := isValue.trans isOther.symm
          exact iff_of_true ((displayDouble_eq_iff ..).2 same) (.inl rfl)

end Number

/-- The double nearest to a natural number that fits the significand is this number. -/
theorem Double.IsNearest.extended?_of_lt
    {number : Nat}
    {double : Double}
    (nearest : double.IsNearest false number)
    (fits : number < 2 ^ 53) :
    double.extended? = some (ofRat number) := by
  have isWhole := Numeral.toDouble_toDigits fits
  unfold IsWhole at isWhole
  split at isWhole
  · next magnitude _ =>
      have size := (exact_eq_natCast_iff magnitude number).2 isWhole
      have isNearest := magnitude.isNearest_exact false
      rw [size] at isNearest
      rw [nearest.unique isNearest, extended?, size]
      rfl
  · exact isWhole.elim

/-- An odd number that does not fit a significand is between doubles. -/
theorem isBetweenDoubles_of_odd
    {whole : Int}
    (odd : whole.natAbs % 2 = 1)
    (large : 2 ^ 53 ≤ whole.natAbs) :
    IsBetweenDoubles whole := by
  intro double isWhole
  rcases double with _ | negative | ⟨negative, magnitude⟩
  · cases isWhole
  · exact Double.extended?_infinite_ne _ _ isWhole
  · have units :=
      (Double.exact_eq_natCast_iff magnitude _).1 (Double.exact_eq_natAbs isWhole)
    have room : magnitude.significand < 2 ^ 53 := magnitude.significand_lt
    obtain ⟨power, isPower, -, -⟩ := Double.unitsInOne_eq
    rw [isPower, Magnitude.units, Nat.pow_eq] at units
    -- A significand whose digits are at most ones is too small for the number, and with
    -- digits that are larger the magnitude is even.
    rcases Nat.le_total magnitude.exponent power with finer | coarser
    · obtain ⟨more, rfl⟩ := Nat.exists_eq_add_of_le finer
      rw [Nat.pow_add, Nat.mul_left_comm, Nat.mul_comm (2 ^ magnitude.exponent)] at units
      have same := Nat.eq_of_mul_eq_mul_right (Nat.two_pow_pos _) units
      have atLeast := Nat.le_mul_of_pos_right whole.natAbs (Nat.two_pow_pos more)
      omega
    · obtain ⟨more, split⟩ := Nat.exists_eq_add_of_le coarser
      rw [split, Nat.pow_add, Nat.mul_left_comm, Nat.mul_comm (2 ^ power)] at units
      have same := Nat.eq_of_mul_eq_mul_right (Nat.two_pow_pos _) units
      cases more with
      | zero => omega
      | succ more =>
          rw [Nat.pow_succ, ← Nat.mul_assoc] at same
          omega

end Templating
