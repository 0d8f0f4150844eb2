import Mathlib.Data.Nat.Digits.Lemmas
import Mathlib.Data.Nat.Size
import Templating.Proofs.Number.Form
import Templating.Proofs.Outcome
import Templating.Value.Comparison

/-!
# Whole numbers that are too large

A value has a text exactly when every whole number that it displays has one. The numbers
that it displays are found through lists and tuples, from left to right, and the first one
with too many digits is the one that the error tells of. Two values are compared by their
texts, so that the comparison fails where a text is missing, except for two numbers.
-/

namespace Templating

/-- A whole number has too many decimal digits to be displayed. -/
def IsOversized (number : Int) : Prop :=
  displayedDigits < (Nat.digits 10 number.natAbs).length

instance : DecidablePred IsOversized := fun number => by
  unfold IsOversized
  infer_instance

/-- The error that tells of a whole number with too many digits. -/
def oversizedError (number : Int) : Error :=
  .evaluation (.integerTooLarge number.natAbs.size) none none

theorem bitLength_eq_size (number : Int) : bitLength number = number.natAbs.size := by
  unfold bitLength
  split
  · next isZero =>
      subst isZero
      rfl
  · next nonzero =>
      have positive : number.natAbs ≠ 0 := Int.natAbs_ne_zero.2 nonzero
      refine Nat.le_antisymm ?_ ?_
      · exact Nat.succ_le_of_lt (Nat.lt_size.2 (Nat.log2_self_le positive))
      · exact Nat.size_le.2 Nat.lt_log2_self

theorem isOversized_iff (number : Int) :
    IsOversized number ↔ 10 ^ displayedDigits ≤ number.natAbs := by
  rw [IsOversized, Nat.lt_digits_length_iff (by decide)]

/-- Only a whole number with too many digits has no text. -/
theorem displayInteger_eq_error_iff (number : Int) (error : Error) :
    displayInteger number = .error error ↔
      IsOversized number ∧ error = oversizedError number := by
  rw [displayInteger, isOversized_iff, Nat.pow_eq, oversizedError, bitLength_eq_size]
  by_cases small : number.natAbs < 10 ^ displayedDigits
  · rw [if_pos small]
    simp only [reduceCtorEq, false_iff, not_and]
    exact fun large => absurd small (Nat.not_lt_of_le large)
  · rw [if_neg small]
    simp only [Except.error.injEq, Nat.le_of_not_lt small, true_and]
    exact eq_comm

namespace Value

/-- A value displays a whole number: it is the number, or an item of it displays the
number. What a mapping holds is not displayed. -/
inductive Shows : Value → Int → Prop
  | integer (number : Int) : Shows (.integer number) number
  | list
      {items : List Value}
      {item : Value}
      {number : Int}
      (inside : item ∈ items)
      (shows : Shows item number) :
      Shows (.list items) number
  | tuple
      {items : List Value}
      {item : Value}
      {number : Int}
      (inside : item ∈ items)
      (shows : Shows item number) :
      Shows (.tuple items) number

mutual

/-- The whole numbers that a value displays, from left to right. -/
def shown : Value → List Int
  | .integer number => [number]
  | .list items => shownAll items
  | .tuple items => shownAll items
  | _ => []

/-- The whole numbers that several values display, from left to right. -/
def shownAll : List Value → List Int
  | [] => []
  | value :: rest => value.shown ++ shownAll rest

end

mutual

theorem mem_shown {value : Value} {number : Int} :
    number ∈ value.shown ↔ value.Shows number := by
  cases value with
  | integer other =>
      rw [shown, List.mem_singleton]
      constructor
      · rintro rfl
        exact .integer number
      · rintro ⟨⟩
        rfl
  | list items =>
      rw [shown, mem_shownAll]
      constructor
      · rintro ⟨item, inside, shows⟩
        exact .list inside shows
      · rintro (_ | ⟨inside, shows⟩)
        exact ⟨_, inside, shows⟩
  | tuple items =>
      rw [shown, mem_shownAll]
      constructor
      · rintro ⟨item, inside, shows⟩
        exact .tuple inside shows
      · rintro (_ | _ | ⟨inside, shows⟩)
        exact ⟨_, inside, shows⟩
  | _ => exact ⟨nofun, nofun⟩

theorem mem_shownAll {values : List Value} {number : Int} :
    number ∈ shownAll values ↔ ∃ item ∈ values, item.Shows number := by
  cases values with
  | nil => simp [shownAll]
  | cons value rest => simp [shownAll, mem_shown, mem_shownAll]

end

end Value

/-- An action fails on the first of several whole numbers that has too many digits, and
on nothing else. -/
def FailsOn {α : Type} (action : Except Error α) (numbers : List Int) : Prop :=
  ∀ error,
    action = .error error ↔
      ∃ number,
        numbers.find? (fun shown => IsOversized shown) = some number ∧
          error = oversizedError number

namespace FailsOn

variable {α β : Type} {action : Except Error α} {next : α → Except Error β}
  {numbers more : List Int}

theorem ok (value : α) : FailsOn (.ok value) [] := by
  intro error
  simp

theorem fails_iff (failsOn : FailsOn action numbers) :
    (∃ error, action = .error error) ↔ ∃ number ∈ numbers, IsOversized number := by
  have found := @List.find?_isSome _ numbers fun shown => IsOversized shown
  simp only [decide_eq_true_eq, Option.isSome_iff_exists] at found
  rw [← found]
  constructor
  · rintro ⟨error, failed⟩
    obtain ⟨number, isFirst, -⟩ := (failsOn error).1 failed
    exact ⟨number, isFirst⟩
  · rintro ⟨number, isFirst⟩
    exact ⟨_, (failsOn _).2 ⟨number, isFirst, rfl⟩⟩

/-- An action that gives a result has met no number that is too large. -/
theorem find?_eq_none
    {value : α}
    (failsOn : FailsOn action numbers)
    (gives : action = .ok value) :
    numbers.find? (fun shown => IsOversized shown) = none := by
  rw [Option.eq_none_iff_forall_ne_some]
  intro number isFirst
  have failed := (failsOn _).2 ⟨number, isFirst, rfl⟩
  cases gives.symm.trans failed

/-- Actions in a row fail on the first number that one of them meets. -/
theorem bind
    (failsOn : FailsOn action numbers)
    (nextFailsOn : ∀ value, FailsOn (next value) more) :
    FailsOn (action >>= next) (numbers ++ more) := by
  intro error
  rw [bind_eq_error]
  simp only [List.find?_append, Option.or_eq_some_iff]
  constructor
  · rintro (failed | ⟨value, gives, failed⟩)
    · obtain ⟨number, isFirst, rfl⟩ := (failsOn error).1 failed
      exact ⟨number, .inl isFirst, rfl⟩
    · obtain ⟨number, isFirst, rfl⟩ := (nextFailsOn value error).1 failed
      exact ⟨number, .inr ⟨failsOn.find?_eq_none gives, isFirst⟩, rfl⟩
  · rintro ⟨number, isFirst | ⟨none, isFirst⟩, rfl⟩
    · exact .inl ((failsOn _).2 ⟨number, isFirst, rfl⟩)
    · cases ended : action with
      | ok value =>
          exact .inr ⟨value, rfl, (nextFailsOn value _).2 ⟨number, isFirst, rfl⟩⟩
      | error error =>
          obtain ⟨other, isOther, -⟩ := (failsOn error).1 ended
          cases none.symm.trans isOther

/-- What is made of a result cannot fail. -/
theorem map (failsOn : FailsOn action numbers) (make : α → β) :
    FailsOn (action >>= fun value => .ok (make value)) numbers := by
  have whole := failsOn.bind fun value => ok (make value)
  rwa [List.append_nil] at whole

end FailsOn

namespace Value

mutual

/-- A value is displayed unless a number that it displays is too large. -/
theorem display_failsOn (value : Value) : FailsOn value.display value.shown := by
  cases value with
  | integer number =>
      intro error
      simp [shown, displayInteger_eq_error_iff, List.find?_singleton]
  | list items => exact (displayAll_failsOn items).map _
  | tuple items => exact (displayAll_failsOn items).map _
  | _ => exact .ok _

theorem displayAll_failsOn (values : List Value) :
    FailsOn (displayAll values) (shownAll values) := by
  cases values with
  | nil => exact .ok _
  | cons value rest =>
      exact (display_failsOn value).bind fun text => (displayAll_failsOn rest).map _

end

/-- Equality displays both values, the left one first. -/
theorem equal_failsOn (left right : Value) :
    FailsOn (left.equal right) (left.shown ++ right.shown) :=
  left.display_failsOn.bind fun _ => right.display_failsOn.map _

/-- Two numbers are compared without a text. -/
theorem exists_compare_of_isNumeric
    {left right : Value}
    (leftNumeric : left.isNumeric = true)
    (rightNumeric : right.isNumeric = true)
    (comparison : Comparison) :
    ∃ holds, left.compare comparison right = .ok holds := by
  obtain ⟨first, isFirst⟩ := left.isNumeric_iff.1 leftNumeric
  obtain ⟨second, isSecond⟩ := right.isNumeric_iff.1 rightNumeric
  refine ⟨(Operands.numbers first second).compare comparison, ?_⟩
  simp only [compare, Operands.ofValues, isFirst, isSecond]
  rfl

/-- An order displays both values unless both are numbers, the left one first. -/
theorem compare_failsOn
    {left right : Value}
    (notBoth : ¬(left.isNumeric = true ∧ right.isNumeric = true))
    (comparison : Comparison) :
    FailsOn (left.compare comparison right) (left.shown ++ right.shown) := by
  refine FailsOn.map ?_ _
  rw [isNumeric_iff, isNumeric_iff] at notBoth
  unfold Operands.ofValues
  split
  · next first second isFirst isSecond =>
      exact absurd ⟨⟨_, isFirst⟩, ⟨_, isSecond⟩⟩ notBoth
  · exact left.display_failsOn.bind fun _ => right.display_failsOn.map _

/-- A value has no text to be displayed. -/
def HasNoText (value : Value) : Prop := ∃ error, value.display = .error error

theorem hasNoText_iff (value : Value) :
    value.HasNoText ↔ ∃ number, value.Shows number ∧ IsOversized number := by
  rw [HasNoText, value.display_failsOn.fails_iff]
  simp only [mem_shown]

theorem exists_oversized_append (left right : Value) :
    (∃ number ∈ left.shown ++ right.shown, IsOversized number) ↔
      left.HasNoText ∨ right.HasNoText := by
  simp only [hasNoText_iff, List.mem_append, mem_shown, or_and_right, exists_or]

/-- What fails in displaying and comparing values. A value has no text exactly when it is
a whole number with too many digits, or holds one in lists and tuples, and then the error
tells the length in binary digits of the first such number from the left. Equality fails
exactly when one of the two values has no text. An order fails exactly then if the values
are not both numbers, and never if they are. -/
theorem fails_on_oversized :
    (∀ value : Value,
      (value.HasNoText ↔ ∃ number, value.Shows number ∧ IsOversized number) ∧
        ∀ error,
          value.display = .error error ↔
            ∃ before number after,
              value.shown = before ++ number :: after ∧
                (∀ earlier ∈ before, ¬IsOversized earlier) ∧
                IsOversized number ∧
                error =
                  .evaluation (.integerTooLarge number.natAbs.size) none none ∧
                error.message =
                  "Integer too large to display (" ++ number.natAbs.size.repr ++
                    " bits)") ∧
      (∀ left right : Value,
        (∃ error, left.equal right = .error error) ↔
          left.HasNoText ∨ right.HasNoText) ∧
      ∀ (comparison : Comparison) (left right : Value),
        ((∃ error, left.compare comparison right = .error error) ↔
            ¬(left.isNumeric = true ∧ right.isNumeric = true) ∧
              (left.HasNoText ∨ right.HasNoText)) ∧
          (left.isNumeric = true → right.isNumeric = true →
            ∃ holds, left.compare comparison right = .ok holds) := by
  refine ⟨fun value => ⟨value.hasNoText_iff, fun error => ?_⟩, fun left right => ?_,
    fun comparison left right =>
      ⟨?_, fun leftNumeric rightNumeric =>
        exists_compare_of_isNumeric leftNumeric rightNumeric comparison⟩⟩
  · rw [value.display_failsOn error]
    simp only [List.find?_eq_some_iff_append, decide_eq_true_eq, Bool.not_eq_true',
      decide_eq_false_iff_not]
    constructor
    · rintro ⟨number, ⟨oversized, before, after, split, fit⟩, rfl⟩
      exact ⟨before, number, after, split, fit, oversized, rfl, rfl⟩
    · rintro ⟨before, number, after, split, fit, oversized, rfl, -⟩
      exact ⟨number, ⟨oversized, before, after, split, fit⟩, rfl⟩
  · rw [(equal_failsOn left right).fails_iff, exists_oversized_append]
  · by_cases both : left.isNumeric = true ∧ right.isNumeric = true
    · obtain ⟨holds, compared⟩ :=
        exists_compare_of_isNumeric both.1 both.2 comparison
      simp [both, compared]
    · rw [(compare_failsOn both comparison).fails_iff, exists_oversized_append]
      exact (and_iff_right both).symm

theorem isOversized_power : IsOversized (10 ^ 4300) :=
  (isOversized_iff _).2 (by decide +kernel)

theorem size_power : (10 ^ 4300 : Int).natAbs.size = 14285 := by
  refine Nat.le_antisymm (Nat.size_le.2 ?_) (Nat.lt_size.2 ?_)
  · decide +kernel
  · decide +kernel

/-- A number in a mapping is not displayed, the first one behind the mapping is told of,
and on its own it is compared with a numeral. -/
theorem fails_on_oversized_nested :
    (Value.tuple
        [.mapping [("key", .integer (10 ^ 5000))],
          .list [.string "x", .integer (10 ^ 4300)], .integer (10 ^ 4400)]).display =
        .error (.evaluation (.integerTooLarge 14285) none none) ∧
      (Value.integer (10 ^ 4300)).isNumeric = true ∧
      (Value.string "1e3").isNumeric = true ∧
      (∃ holds,
        (Value.integer (10 ^ 4300)).compare .less (.string "1e3") = .ok holds) ∧
      ∃ error,
        (Value.list [.integer (10 ^ 4300)]).compare .less (.string "1e3") =
          .error error := by
  obtain ⟨displays, -, compares⟩ := fails_on_oversized
  have numeral : (Value.string "1e3").isNumeric = true := by decide +kernel
  have noText : (Value.list [.integer (10 ^ 4300)]).HasNoText :=
    (displays _).1.2 ⟨_, .list (.head _) (.integer _), isOversized_power⟩
  have notBoth :
      ¬((Value.list [.integer (10 ^ 4300)]).isNumeric = true ∧
        (Value.string "1e3").isNumeric = true) :=
    fun both => nomatch both.1
  -- Stated for every three numbers, so that no numeral is computed.
  have split : ∀ hidden first second : Int,
      (Value.tuple [.mapping [("key", .integer hidden)],
        .list [.string "x", .integer first], .integer second]).shown =
        [] ++ first :: [second] :=
    fun _ _ _ => rfl
  refine ⟨((displays _).2 _).2 ⟨[], 10 ^ 4300, [10 ^ 4400], split _ _ _,
    fun _ absent => absurd absent List.not_mem_nil, isOversized_power, ?_, ?_⟩, rfl,
    numeral, (compares ..).2 rfl numeral, (compares ..).1.2 ⟨notBoth, .inl noText⟩⟩
  · rw [size_power]
  · rw [size_power]
    rfl

end Value
end Templating
