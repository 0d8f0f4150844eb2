import Templating.Proofs.Number.Exact
import Templating.Proofs.Number.Shortest
import Templating.Proofs.Outcome
import Templating.Value.Display

/-!
# The texts of numbers

What is displayed for a number determines its value among the whole numbers and among the
doubles: the text of a whole number names just this number, and the text of a finite double
is read as a double of the same value. A whole number and a double share a text only when
they are equal and below the bound from which doubles are displayed with a point or an
exponent.
-/

namespace Templating

open Extended (ofRat)

/-! ## Whole numbers -/

theorem toList_integerText (whole : Int) :
    (integerText whole).toList =
      (if whole < 0 then ['-'] else []) ++ Nat.toDigits 10 whole.natAbs := by
  rw [integerText]
  split_ifs
  · rw [String.toList_append, Nat.toList_repr]
    rfl
  · rw [Nat.toList_repr]
    rfl

/-- A whole number displays a numeral of itself. -/
theorem integerText_denotes (whole : Int) :
    Numeral.Denotes (whole < 0) whole.natAbs (integerText whole).toList := by
  have signed := Double.sign_if (whole < 0)
  have spelled := Numeral.denotes_append signed
    (fun _ => Nat.isDigit_of_mem_toDigits (b := 10) (n := whole.natAbs) (by decide)
      (by decide))
    .absent .absent (Or.inl Nat.toDigits_ne_nil)
  rw [toList_integerText]
  simpa [Numeral.digitsValue_toDigits] using spelled

theorem integerText_injective : Function.Injective integerText := by
  intro left right same
  have denotes := integerText_denotes left
  rw [same] at denotes
  obtain ⟨signs, sizes⟩ := denotes.unique (integerText_denotes right)
  rw [Nat.cast_inj] at sizes
  rw [decide_eq_decide] at signs
  omega

/-- A whole number displays digits and a minus sign only. -/
theorem of_mem_integerText
    {whole : Int}
    {character : Char}
    (inside : character ∈ (integerText whole).toList) :
    character = '-' ∨ character.isDigit = true := by
  rw [toList_integerText] at inside
  rcases List.mem_append.1 inside with inSign | inDigits
  · split_ifs at inSign
    · exact .inl (List.mem_singleton.1 inSign)
    · cases inSign
  · exact .inr (Nat.isDigit_of_mem_toDigits (by decide) (by decide) inDigits)

/-! ## Doubles -/

theorem Double.text_ne_integerText (double : Double) (whole : Int) :
    double.text ≠ integerText whole := by
  intro same
  obtain ⟨mark, inside, noDigit, noMinus⟩ := double.exists_mark_text
  rw [same] at inside
  rcases of_mem_integerText inside with isMinus | isDigit
  · exact noMinus isMinus
  · exact Bool.false_ne_true (noDigit.symm.trans isDigit)

/-- A double displays the text of a whole number exactly when it is this number and lies
below the bound. -/
theorem displayDouble_eq_integerText_iff (double : Double) (whole : Int) :
    displayDouble double = integerText whole ↔
      double.extended? = some (ofRat whole) ∧ whole.natAbs < 10 ^ 15 := by
  rw [← Double.toInt?_eq_some_iff, displayDouble, Nat.pow_eq]
  cases isWhole : double.toInt? with
  | none => simp [double.text_ne_integerText]
  | some other =>
      dsimp only
      split_ifs with small
      · rw [integerText_injective.eq_iff, Option.some.injEq]
        refine ⟨?_, And.left⟩
        rintro rfl
        exact ⟨rfl, small⟩
      · simp only [double.text_ne_integerText, Option.some.injEq, false_iff, not_and]
        rintro rfl
        exact small

/-- The text of a whole number that is a double is read as this double. -/
theorem exists_read?_integerText
    {double : Double}
    {whole : Int}
    (isWhole : double.extended? = some (ofRat whole)) :
    ∃ numeral,
      Numeral.read? (integerText whole).toList = some numeral ∧
        numeral.toDouble.extended? = some (ofRat whole) := by
  rcases double with _ | negative | ⟨negative, magnitude⟩
  · cases isWhole
  · exact (Double.extended?_infinite_ne _ _ isWhole).elim
  · have size := Double.exact_eq_natAbs isWhole
    have nearest := magnitude.isNearest_exact (whole < 0)
    rw [size] at nearest
    obtain ⟨numeral, read, same⟩ := (integerText_denotes whole).exists_read nearest
    exact ⟨numeral, read, by rw [same, Double.extended?_of_exact size]⟩

/-- A finite double displays a numeral that is read as a double of the same value. -/
theorem exists_read?_displayDouble (negative : Bool) (magnitude : Magnitude) :
    ∃ numeral,
      Numeral.read? (displayDouble (.finite negative magnitude)).toList = some numeral ∧
        numeral.toDouble.extended? = (Double.finite negative magnitude).extended? := by
  have text :
      ∃ numeral,
        Numeral.read? (Double.text (.finite negative magnitude)).toList = some numeral ∧
          numeral.toDouble.extended? = (Double.finite negative magnitude).extended? := by
    obtain ⟨numeral, read, same⟩ := Double.read?_text negative magnitude
    exact ⟨numeral, read, by rw [same]⟩
  rw [displayDouble]
  split
  · next whole isWhole =>
      rw [Double.toInt?_eq_some_iff] at isWhole
      split_ifs
      · rw [isWhole]
        exact exists_read?_integerText isWhole
      · exact text
  · exact text

theorem read?_displayDouble_eq_none
    {double : Double}
    (notFinite : ∀ negative magnitude, double ≠ .finite negative magnitude) :
    Numeral.read? (displayDouble double).toList = none := by
  rcases double with _ | ⟨_ | _⟩ | ⟨negative, magnitude⟩
  · decide
  · decide
  · decide
  · exact absurd rfl (notFinite _ _)

/-- A zero is displayed as the whole number. -/
theorem displayDouble_eq_zero_iff (double : Double) :
    displayDouble double = "0" ↔ double.isZero = true := by
  have zero := displayDouble_eq_integerText_iff double 0
  rw [Int.cast_zero, ← Double.isZero_iff] at zero
  exact zero.trans (and_iff_left (by decide))

theorem extended?_eq_of_displayDouble
    {other : Double}
    {negative : Bool}
    {magnitude : Magnitude}
    (same : displayDouble (.finite negative magnitude) = displayDouble other) :
    (Double.finite negative magnitude).extended? = other.extended? := by
  obtain ⟨numeral, read, value⟩ := exists_read?_displayDouble negative magnitude
  rw [same] at read
  by_cases finite :
      ∃ otherNegative otherMagnitude, other = .finite otherNegative otherMagnitude
  · obtain ⟨otherNegative, otherMagnitude, rfl⟩ := finite
    obtain ⟨otherNumeral, otherRead, otherValue⟩ :=
      exists_read?_displayDouble otherNegative otherMagnitude
    cases read.symm.trans otherRead
    exact value.symm.trans otherValue
  · simp only [not_exists] at finite
    cases read.symm.trans (read?_displayDouble_eq_none finite)

/-- Two doubles display the same text exactly when they have the same value. -/
theorem displayDouble_eq_iff (left right : Double) :
    displayDouble left = displayDouble right ↔ left.extended? = right.extended? := by
  constructor
  · intro same
    by_cases finite : ∃ negative magnitude, left = .finite negative magnitude
    · obtain ⟨negative, magnitude, rfl⟩ := finite
      exact extended?_eq_of_displayDouble same
    · rcases right with _ | ⟨_ | _⟩ | ⟨otherNegative, otherMagnitude⟩
      case finite => exact (extended?_eq_of_displayDouble same.symm).symm
      all_goals
        rcases left with _ | ⟨_ | _⟩ | ⟨negative, magnitude⟩
        case finite => exact absurd ⟨_, _, rfl⟩ finite
        all_goals
          revert same
          decide
  · intro same
    cases isValue : left.extended? with
    | none =>
        rw [isValue, eq_comm, Double.extended?_eq_none_iff] at same
        rw [(Double.extended?_eq_none_iff left).1 isValue, same]
    | some value =>
        rw [isValue, eq_comm] at same
        rcases Double.eq_or_eq_zero_of_extended isValue same with rfl | rfl
        · rfl
        · rw [(displayDouble_eq_zero_iff left).2 (left.isZero_iff.2 isValue),
            (displayDouble_eq_zero_iff right).2 (right.isZero_iff.2 same)]

/-! ## Equal values -/

/-- Two values are equal when they display the same text. -/
theorem Value.equal_eq_ok_true_iff {left right : Value} :
    left.equal right = .ok true ↔
      ∃ text, left.display = .ok text ∧ right.display = .ok text := by
  simp only [Value.equal, bind_eq_ok, pure, Except.pure, Except.ok.injEq, decide_eq_true_eq]
  constructor
  · rintro ⟨first, isFirst, second, isSecond, rfl⟩
    exact ⟨first, isFirst, isSecond⟩
  · rintro ⟨text, isFirst, isSecond⟩
    exact ⟨text, isFirst, text, isSecond, rfl⟩

end Templating
