import Mathlib.Logic.Relation
import Templating.Proofs.Number.Exact
import Templating.Proofs.Number.Reading
import Templating.Proofs.Value.Oversized

/-!
# The order of values

A value that is a number has an exact value: a whole number and a double their own one, and
a string that spells a numeral that of the double nearest to it. Numbers are ordered by
their exact values, whatever they are written as, so that a chain of them never comes back
to its beginning. Of any two values, numbers or not, the four comparisons tell the same.
-/

namespace Templating

open Extended (ofRat)

namespace Value

/-- The exact value of a value that is a number. -/
inductive IsExactly : Value → Extended → Prop
  | integer (whole : Int) : IsExactly (.integer whole) (ofRat whole)
  | double
      {double : Double}
      {exact : Extended}
      (isValue : double.extended? = some exact) :
      IsExactly (.double double) exact
  | string
      {text : String}
      {numeral : Numeral}
      {double : Double}
      {exact : Extended}
      (spells : numeral.Spells text.toList)
      (nearest : double.IsNearest numeral.negative numeral.size)
      (isValue : double.extended? = some exact) :
      IsExactly (.string text) exact

/-- One number is less than another. -/
def Precedes (left right : Value) : Prop :=
  left.isNumeric = true ∧ right.isNumeric = true ∧ left.compare .less right = .ok true

variable {value left right : Value} {exact first second : Extended}

/-! ## Exact values -/

/-- The exact value of a number is that of what it is compared as. -/
theorem isExactly_iff :
    value.IsExactly exact ↔
      ∃ number, value.number? = some number ∧ number.extended? = some exact := by
  constructor
  · rintro (whole | isValue | ⟨spells, nearest, isValue⟩)
    · exact ⟨_, rfl, rfl⟩
    · exact ⟨_, rfl, isValue⟩
    · next text numeral double =>
      have read := Numeral.read?_eq_some_iff.2 spells
      refine ⟨.double numeral.toDouble, by simp [number?_string, read], ?_⟩
      rwa [spells.toDouble_isNearest.unique nearest]
  · rintro ⟨number, isNumber, isValue⟩
    cases value with
    | integer whole =>
        cases isNumber
        cases isValue
        exact .integer whole
    | double double =>
        cases isNumber
        exact .double isValue
    | string text =>
        rw [number?_string] at isNumber
        obtain ⟨numeral, read, rfl⟩ := Option.map_eq_some_iff.1 isNumber
        have spells := Numeral.read?_eq_some_iff.1 read
        exact .string spells spells.toDouble_isNearest isValue
    | _ => cases isNumber

/-- A value has one exact value only. -/
theorem IsExactly.unique (isFirst : value.IsExactly first) (isSecond : value.IsExactly second) :
    first = second := by
  obtain ⟨number, isNumber, isValue⟩ := isExactly_iff.1 isFirst
  obtain ⟨other, isOther, otherValue⟩ := isExactly_iff.1 isSecond
  cases isNumber.symm.trans isOther
  exact Option.some.inj (isValue.symm.trans otherValue)

/-- Only what is not a number is compared as such. -/
theorem exists_extended_of_number?
    {number : Number}
    (isNumber : value.number? = some number)
    (notNan : value ≠ .double .nan) :
    ∃ exact, number.extended? = some exact := by
  cases value with
  | integer whole =>
      cases isNumber
      exact ⟨_, rfl⟩
  | double double =>
      cases isNumber
      exact Number.exists_extended fun isNan => notNan (by cases isNan; rfl)
  | string text =>
      rw [number?_string] at isNumber
      obtain ⟨numeral, read, rfl⟩ := Option.map_eq_some_iff.1 isNumber
      exact (Numeral.read?_eq_some_iff.1 read).toDouble_isNearest.exists_extended
  | _ => cases isNumber

/-- The numbers other than what is not a number have exact values. -/
theorem exists_isExactly_iff :
    (∃ exact, value.IsExactly exact) ↔ value.isNumeric = true ∧ value ≠ .double .nan := by
  simp only [isNumeric_iff, isExactly_iff]
  constructor
  · rintro ⟨exact, number, isNumber, isValue⟩
    refine ⟨⟨number, isNumber⟩, ?_⟩
    rintro rfl
    cases isNumber
    cases isValue
  · rintro ⟨⟨number, isNumber⟩, notNan⟩
    obtain ⟨exact, isValue⟩ := exists_extended_of_number? isNumber notNan
    exact ⟨exact, number, isNumber, isValue⟩

/-! ## Comparing numbers -/

/-- Two numbers are compared by their exact values. -/
theorem IsExactly.compare_eq
    (isFirst : left.IsExactly first)
    (isSecond : right.IsExactly second)
    (comparison : Comparison) :
    left.compare comparison right =
      .ok (comparison.holds (fun value other => value < other)
        (fun value other => value ≤ other) first second) := by
  obtain ⟨number, isNumber, isValue⟩ := isExactly_iff.1 isFirst
  obtain ⟨other, isOther, otherValue⟩ := isExactly_iff.1 isSecond
  simp only [compare, Operands.ofValues, isNumber, isOther]
  refine congrArg Except.ok ?_
  cases comparison <;>
    simp only [Operands.compare, Comparison.holds, Number.isLess_eq isValue otherValue,
      Number.isLess_eq otherValue isValue, Number.isAtMost_eq isValue otherValue,
      Number.isAtMost_eq otherValue isValue]

/-- A number is less than another one exactly when its exact value is. -/
theorem precedes_iff :
    left.Precedes right ↔
      ∃ first second,
        left.IsExactly first ∧ right.IsExactly second ∧ first < second := by
  constructor
  · rintro ⟨leftNumeric, rightNumeric, less⟩
    obtain ⟨number, isNumber⟩ := left.isNumeric_iff.1 leftNumeric
    obtain ⟨other, isOther⟩ := right.isNumeric_iff.1 rightNumeric
    simp only [compare, Operands.ofValues, isNumber, isOther] at less
    obtain ⟨first, second, isFirst, isSecond, before⟩ :=
      Number.isLess_iff.1 (Except.ok.inj less)
    exact ⟨first, second, isExactly_iff.2 ⟨number, isNumber, isFirst⟩,
      isExactly_iff.2 ⟨other, isOther, isSecond⟩, before⟩
  · rintro ⟨first, second, isFirst, isSecond, before⟩
    refine ⟨(exists_isExactly_iff.1 ⟨first, isFirst⟩).1,
      (exists_isExactly_iff.1 ⟨second, isSecond⟩).1, ?_⟩
    rw [isFirst.compare_eq isSecond]
    exact congrArg Except.ok (decide_eq_true before)

theorem Precedes.trans
    {value : Value}
    (earlier : left.Precedes value)
    (later : value.Precedes right) :
    left.Precedes right := by
  obtain ⟨first, middle, isFirst, isMiddle, before⟩ := precedes_iff.1 earlier
  obtain ⟨other, last, isOther, isLast, after⟩ := precedes_iff.1 later
  rw [isOther.unique isMiddle] at after
  exact precedes_iff.2 ⟨first, last, isFirst, isLast, before.trans after⟩

theorem not_precedes_self (value : Value) : ¬value.Precedes value := by
  intro precedes
  obtain ⟨first, second, isFirst, isSecond, less⟩ := precedes_iff.1 precedes
  rw [isFirst.unique isSecond] at less
  exact less.false

theorem Precedes.of_transGen (chain : Relation.TransGen Precedes left right) :
    left.Precedes right := by
  induction chain with
  | single precedes => exact precedes
  | tail _ later inductionHypothesis => exact inductionHypothesis.trans later

/-! ## Comparing any two values -/

/-- What two values are compared as: two numbers if both are numbers, and otherwise the
texts that they display. -/
inductive ComparedAs (left right : Value) : Operands → Prop
  | numbers
      {first second : Number}
      (isFirst : left.number? = some first)
      (isSecond : right.number? = some second) :
      ComparedAs left right (.numbers first second)
  | texts
      {first second : String}
      (notBoth : left.number? = none ∨ right.number? = none)
      (isFirst : left.display = .ok first)
      (isSecond : right.display = .ok second) :
      ComparedAs left right (.texts first second)

theorem ofValues_eq_ok_iff (operands : Operands) :
    Operands.ofValues left right = .ok operands ↔ ComparedAs left right operands := by
  constructor
  · intro made
    unfold Operands.ofValues at made
    split at made
    · next isFirst isSecond =>
        cases made
        exact .numbers isFirst isSecond
    · next notBoth =>
        obtain ⟨first, isFirst, made⟩ := (bind_eq_ok ..).1 made
        obtain ⟨second, isSecond, made⟩ := (bind_eq_ok ..).1 made
        cases made
        refine .texts ?_ isFirst isSecond
        by_contra both
        simp only [not_or, Option.ne_none_iff_exists'] at both
        obtain ⟨⟨number, isNumber⟩, other, isOther⟩ := both
        exact notBoth number other isNumber isOther
  · rintro (⟨isFirst, isSecond⟩ | ⟨notBoth, isFirst, isSecond⟩)
    · simp only [Operands.ofValues, isFirst, isSecond]
    · unfold Operands.ofValues
      split
      · next isNumber isOther => simp [isNumber, isOther] at notBoth
      · rw [isFirst, isSecond]
        rfl

theorem compare_eq_ok_iff (comparison : Comparison) (holds : Bool) :
    left.compare comparison right = .ok holds ↔
      ∃ operands, ComparedAs left right operands ∧ operands.compare comparison = holds := by
  simp only [← ofValues_eq_ok_iff]
  rw [compare, bind_eq_ok]
  simp only [pure, Except.pure, Except.ok.injEq]

/-- What is compared when two values change places. -/
theorem ComparedAs.swap
    {operands : Operands}
    (compared : ComparedAs left right operands) :
    ∃ swapped,
      ComparedAs right left swapped ∧
        swapped.compare .less = operands.compare .greater ∧
        swapped.compare .greater = operands.compare .less := by
  obtain ⟨isFirst, isSecond⟩ | ⟨notBoth, isFirst, isSecond⟩ := compared
  · exact ⟨_, .numbers isSecond isFirst, rfl, rfl⟩
  · exact ⟨_, .texts notBoth.symm isSecond isFirst, rfl, rfl⟩

/-- Less in one order of the values is greater in the other one. -/
theorem compare_less_iff (left right : Value) (holds : Bool) :
    left.compare .less right = .ok holds ↔ right.compare .greater left = .ok holds := by
  simp only [compare_eq_ok_iff]
  constructor
  · rintro ⟨operands, compared, rfl⟩
    obtain ⟨swapped, isSwapped, -, same⟩ := compared.swap
    exact ⟨swapped, isSwapped, same⟩
  · rintro ⟨operands, compared, rfl⟩
    obtain ⟨swapped, isSwapped, same, -⟩ := compared.swap
    exact ⟨swapped, isSwapped, same⟩

/-- Operands other than what is not a number are at most one another when they are not
greater, and at least one another when they are not less. -/
theorem ComparedAs.compare_not
    {operands : Operands}
    (compared : ComparedAs left right operands)
    (leftNotNan : left ≠ .double .nan)
    (rightNotNan : right ≠ .double .nan) :
    operands.compare .atMost = !operands.compare .greater ∧
      operands.compare .atLeast = !operands.compare .less := by
  obtain ⟨isFirst, isSecond⟩ | _ := compared
  · obtain ⟨first, isValue⟩ := exists_extended_of_number? isFirst leftNotNan
    obtain ⟨second, otherValue⟩ := exists_extended_of_number? isSecond rightNotNan
    simp only [Operands.compare, Comparison.holds, Number.isLess_eq isValue otherValue,
      Number.isLess_eq otherValue isValue, Number.isAtMost_eq isValue otherValue,
      Number.isAtMost_eq otherValue isValue, ← decide_not, not_lt, and_self]
  · exact ⟨rfl, rfl⟩

/-- Of two values other than what is not a number, the four comparisons tell the same. -/
theorem compare_not
    (leftNotNan : left ≠ .double .nan)
    (rightNotNan : right ≠ .double .nan) :
    left.compare .atMost right = (left.compare .greater right).map not ∧
      left.compare .atLeast right = (left.compare .less right).map not := by
  simp only [compare]
  cases made : Operands.ofValues left right with
  | error error => exact ⟨rfl, rfl⟩
  | ok operands =>
      obtain ⟨atMost, atLeast⟩ :=
        ((ofValues_eq_ok_iff operands).1 made).compare_not leftNotNan rightNotNan
      exact ⟨congrArg Except.ok atMost, congrArg Except.ok atLeast⟩

/-- Numbers are ordered by their exact values. The numbers other than what is not a number
are the values that have an exact value, and each has one only; two of them are compared
as these values, without any rounding of a whole number. So a number is not less than
itself, what is less than a lesser number is less, and no chain of numbers, each less than
the next, comes back to its beginning. And for any two values other than what is not a
number, at most is the opposite of greater, at least is the opposite of less, and less is
greater with the values exchanged, wherever these comparisons give a result. -/
theorem compare_exact :
    (∀ value : Value,
      value.isNumeric = true ∧ value ≠ .double .nan ↔ ∃! exact, value.IsExactly exact) ∧
    (∀ (left right : Value) (first second : Extended),
      left.IsExactly first → right.IsExactly second →
        left.compare .less right = .ok (decide (first < second)) ∧
          left.compare .atMost right = .ok (decide (first ≤ second)) ∧
          left.compare .greater right = .ok (decide (second < first)) ∧
          left.compare .atLeast right = .ok (decide (second ≤ first))) ∧
    (∀ value : Value, ¬value.Precedes value) ∧
    (∀ first second third : Value,
      first.Precedes second → second.Precedes third → first.Precedes third) ∧
    (∀ value : Value, ¬Relation.TransGen Precedes value value) ∧
    ∀ left right : Value, left ≠ .double .nan → right ≠ .double .nan →
      left.compare .atMost right = (left.compare .greater right).map not ∧
        left.compare .atLeast right = (left.compare .less right).map not ∧
        ∀ holds,
          left.compare .less right = .ok holds ↔ right.compare .greater left = .ok holds := by
  refine ⟨fun value => ?_, fun left right first second isFirst isSecond =>
      ⟨isFirst.compare_eq isSecond .less, isFirst.compare_eq isSecond .atMost,
        isFirst.compare_eq isSecond .greater, isFirst.compare_eq isSecond .atLeast⟩,
    not_precedes_self, fun first second third => .trans,
    fun value chain => not_precedes_self value (.of_transGen chain),
    fun left right leftNotNan rightNotNan => ?_⟩
  · rw [← exists_isExactly_iff]
    constructor
    · rintro ⟨exact, isExact⟩
      exact ⟨exact, isExact, fun other isOther => isOther.unique isExact⟩
    · rintro ⟨exact, isExact, -⟩
      exact ⟨exact, isExact⟩
  · obtain ⟨atMost, atLeast⟩ := compare_not leftNotNan rightNotNan
    exact ⟨atMost, atLeast, compare_less_iff left right⟩

/-- A string is read as the double below the whole number that it spells, and is less than
this number, which in turn is less than a string that is read as an infinity. -/
theorem compare_exact_chain :
    (Value.string "9007199254740993").Precedes (.integer 9007199254740993) ∧
      (Value.integer 9007199254740993).Precedes (.string " 1e400") ∧
      (Value.string "9007199254740993").Precedes (.string " 1e400") ∧
      (Value.integer (10 ^ 400)).compare .less (.double (.infinite false)) = .ok true ∧
      (Value.integer 2).compare .atLeast (.string "x") =
        ((Value.integer 2).compare .less (.string "x")).map not := by
  obtain ⟨-, exactly, -, transitive, -, opposite⟩ := compare_exact
  have first : (Value.string "9007199254740993").Precedes (.integer 9007199254740993) := by
    refine ⟨by decide +kernel, rfl, (compare_eq_ok_iff ..).2 ⟨_, .numbers rfl rfl, ?_⟩⟩
    decide +kernel
  have second : (Value.integer 9007199254740993).Precedes (.string " 1e400") := by
    refine ⟨rfl, by decide +kernel, (compare_eq_ok_iff ..).2 ⟨_, .numbers rfl rfl, ?_⟩⟩
    decide +kernel
  refine ⟨first, second, transitive _ _ _ first second, ?_,
    (opposite (.integer 2) (.string "x") (by simp) (by simp)).2.1⟩
  rw [(exactly _ _ _ _ (.integer (10 ^ 400)) (.double rfl)).1]
  exact congrArg Except.ok (decide_eq_true (Extended.ofRat_lt_top _))

end Value

end Templating
