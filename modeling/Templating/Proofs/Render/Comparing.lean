import Templating.Proofs.Render.Steps
import Templating.Proofs.Template.Calling
import Templating.Proofs.Value.Agreement

/-!
# Equality and order in expressions

What an expression finds equal it does not find greater as well, unless one side is a whole
number that no double is equal to and the other one the string of its digits. A number that
is written in an expression is a double, so that it is equal to a whole number of the data
only below the bound from which the two display different texts.
-/

namespace Templating

open Extended (ofRat)

namespace Render

variable {σ : Type} {environment : Environment σ} {left right : Expr}
  {session middle after : Session σ} {first second : Value}

/-- A relation of two expressions is that of their values. -/
theorem evaluate_relation
    (isFirst : evaluate environment left session = .ok first middle)
    (isSecond : evaluate environment right middle = .ok second after)
    (position : Int)
    (kind : Relation) :
    evaluate environment (.binary position (.relation kind) left right) session =
      (ofExcept (kind.holds first second) >>= fun holds => pure (.boolean holds)) after := by
  rw [evaluate, render_bind, isFirst]
  dsimp only
  rw [render_bind, isSecond]

theorem evaluate_relation_of_holds
    {holds : Bool}
    {kind : Relation}
    (isFirst : evaluate environment left session = .ok first middle)
    (isSecond : evaluate environment right middle = .ok second after)
    (related : kind.holds first second = .ok holds)
    (position : Int) :
    evaluate environment (.binary position (.relation kind) left right) session =
      .ok (.boolean holds) after := by
  rw [evaluate_relation isFirst isSecond, related]
  rfl

/-- A sequence gives a result when its steps do, the second one behind the first one. -/
theorem bind_eq_ok_iff
    {α β : Type}
    {step : Render σ α}
    {next : α → Render σ β}
    {value : β} :
    (step >>= next) session = .ok value after ↔
      ∃ result middle,
        step session = .ok result middle ∧ next result middle = .ok value after := by
  rw [render_bind]
  cases step session with
  | error error final => simp
  | ok result middle => simp

/-- A relation that counts as true is one that holds between the values. -/
theorem related_of_evaluate
    {value : Value}
    {final : Session σ}
    {position : Int}
    {kind : Relation}
    (isFirst : evaluate environment left session = .ok first middle)
    (isSecond : evaluate environment right middle = .ok second after)
    (isValue :
      evaluate environment (.binary position (.relation kind) left right) session =
        .ok value final)
    (truthy : value.truthy = true) :
    kind.holds first second = .ok true ∧ value = .boolean true ∧ final = after := by
  rw [evaluate_relation isFirst isSecond] at isValue
  cases related : kind.holds first second with
  | error error =>
      rw [related] at isValue
      cases isValue
  | ok holds =>
      rw [related] at isValue
      cases isValue
      cases truthy
      exact ⟨rfl, rfl, rfl⟩

/-- A conjunction is true when both of its operands count as true, the second one behind the
first one. -/
theorem evaluate_conjunction_eq_true_iff (position : Int) :
    evaluate environment (.binary position .conjunction left right) session =
        .ok (.boolean true) after ↔
      ∃ first middle second,
        evaluate environment left session = .ok first middle ∧ first.truthy = true ∧
          evaluate environment right middle = .ok second after ∧ second.truthy = true := by
  rw [evaluate, bind_eq_ok_iff]
  constructor
  · rintro ⟨first, middle, isFirst, ends⟩
    split_ifs at ends with truthy
    · obtain ⟨second, final, isSecond, ends⟩ := bind_eq_ok_iff.1 ends
      obtain ⟨isTrue, rfl⟩ := EStateM.Result.ok.inj ends
      exact ⟨first, middle, second, isFirst, truthy, isSecond, Value.boolean.inj isTrue⟩
    · cases ends
  · rintro ⟨first, middle, second, isFirst, truthy, isSecond, alsoTruthy⟩
    refine ⟨first, middle, isFirst, ?_⟩
    rw [if_pos truthy]
    exact bind_eq_ok_iff.2 ⟨second, after, isSecond, by rw [alsoTruthy]; rfl⟩

/-- A conjunction of two relations between the same values holds when both do. -/
theorem evaluate_conjunction_iff
    {leftAgain rightAgain : Expr}
    {kind otherKind : Relation}
    {position inner other : Int}
    (isFirst : evaluate environment left session = .ok first session)
    (isSecond : evaluate environment right session = .ok second session)
    (isFirstAgain : evaluate environment leftAgain session = .ok first session)
    (isSecondAgain : evaluate environment rightAgain session = .ok second session) :
    (∃ after,
      evaluate environment
          (.binary position .conjunction (.binary inner (.relation kind) left right)
            (.binary other (.relation otherKind) leftAgain rightAgain)) session =
        .ok (.boolean true) after) ↔
      kind.holds first second = .ok true ∧ otherKind.holds first second = .ok true := by
  constructor
  · rintro ⟨after, ends⟩
    obtain ⟨value, middle, otherValue, isValue, truthy, isOther, otherTruthy⟩ :=
      (evaluate_conjunction_eq_true_iff position).1 ends
    obtain ⟨related, rfl, rfl⟩ := related_of_evaluate isFirst isSecond isValue truthy
    obtain ⟨otherRelated, -, -⟩ :=
      related_of_evaluate isFirstAgain isSecondAgain isOther otherTruthy
    exact ⟨related, otherRelated⟩
  · rintro ⟨related, otherRelated⟩
    exact ⟨session, (evaluate_conjunction_eq_true_iff position).2 ⟨_, session, _,
      evaluate_relation_of_holds isFirst isSecond related inner, rfl,
      evaluate_relation_of_holds isFirstAgain isSecondAgain otherRelated other, rfl⟩⟩

end Render

/-- Two values other than what is not a number that are equal are tied in every order:
neither is less, and each is at most the other one. The only exceptions are a whole number
that no double is equal to and the string of its digits, which is read as a double: of such
a pair exactly one is less than the other. So the condition that two expressions are equal
and that the first one is greater holds for these pairs only, whatever the values are, as
long as the expressions have the same values in both halves. -/
theorem equal_values_tied :
    (∀ left right : Value, left ≠ .double .nan → right ≠ .double .nan →
      left.equal right = .ok true → ¬left.ReadsApart right →
        left.compare .less right = .ok false ∧
          left.compare .greater right = .ok false ∧
          left.compare .atMost right = .ok true ∧
          left.compare .atLeast right = .ok true) ∧
    (∀ left right : Value, left.ReadsApart right →
      ∃ less,
        left.compare .less right = .ok less ∧ left.compare .greater right = .ok !less) ∧
    ∀ (σ : Type) (environment : Environment σ) (left right leftAgain rightAgain : Expr)
      (session : Session σ) (first second : Value) (position inner other : Int),
      Render.evaluate environment left session = .ok first session →
        Render.evaluate environment right session = .ok second session →
        Render.evaluate environment leftAgain session = .ok first session →
        Render.evaluate environment rightAgain session = .ok second session →
        (∃ after,
          Render.evaluate environment
              (.binary position .conjunction (.binary inner (.relation .equal) left right)
                (.binary other (.relation (.order .greater)) leftAgain rightAgain))
              session =
            .ok (.boolean true) after) →
        first.ReadsApart second := by
  refine ⟨fun left right leftNotNan rightNotNan equal notApart => ?_,
    fun left right => Value.ReadsApart.compare_ne,
    fun σ environment left right leftAgain rightAgain session first second position inner
      other isFirst isSecond isFirstAgain isSecondAgain holds => ?_⟩
  · obtain ⟨notLess, notGreater⟩ := Value.compare_of_equal equal notApart
    obtain ⟨atMost, atLeast⟩ := Value.compare_not leftNotNan rightNotNan
    rw [notGreater] at atMost
    rw [notLess] at atLeast
    exact ⟨notLess, notGreater, atMost, atLeast⟩
  · obtain ⟨equal, greater⟩ :=
      (Render.evaluate_conjunction_iff isFirst isSecond isFirstAgain isSecondAgain).1 holds
    by_contra notApart
    obtain ⟨-, notGreater⟩ := Value.compare_of_equal equal notApart
    cases notGreater.symm.trans greater

/-- A whole number beside the string of its digits, which is read as the double below it:
the two are equal, and the whole number is greater. -/
theorem equal_and_greater :
    (Value.integer 9007199254740993).equal (.string "9007199254740993") = .ok true ∧
      (Value.integer 9007199254740993).compare .greater (.string "9007199254740993") =
        .ok true ∧
      (Value.integer 9007199254740993).compare .atMost (.string "9007199254740993") =
        .ok false := by
  refine ⟨Value.equal_eq_ok_true_iff.2 ⟨"9007199254740993", ?_, rfl⟩,
    (Value.compare_eq_ok_iff ..).2 ⟨_, .numbers rfl rfl, ?_⟩,
    (Value.compare_eq_ok_iff ..).2 ⟨_, .numbers rfl rfl, ?_⟩⟩
  · exact (Value.display_integer_eq_ok_iff _ _).2 ⟨by decide +kernel, rfl⟩
  · decide +kernel
  · decide +kernel

/-- A whole number with a double of its own is tied with the string of its digits. The next
one is read apart from its digits, which a condition on two names finds out. -/
theorem equal_values_tied_powers :
    let environment : Environment Unit :=
      { limits := .standard, registry := .empty, source := "" }
    let session : Session Unit :=
      .start [("x", .integer 9007199254740993), ("y", .string "9007199254740993")] ()
    (Value.integer 9007199254740992).compare .atMost (.string "9007199254740992") =
        .ok true ∧
      (∃ less,
        (Value.integer 9007199254740993).compare .less (.string "9007199254740993") =
            .ok less ∧
          (Value.integer 9007199254740993).compare .greater (.string "9007199254740993") =
            .ok !less) ∧
      (∃ after,
        Render.evaluate environment
            (.binary 7 .conjunction
              (.binary 2 (.relation .equal) (.reference 0 "x") (.reference 5 "y"))
              (.binary 13 (.relation (.order .greater)) (.reference 11 "x")
                (.reference 15 "y"))) session =
          .ok (.boolean true) after) ∧
      (Value.integer 9007199254740993).ReadsApart (.string "9007199254740993") := by
  intro environment session
  obtain ⟨tied, apart, condition⟩ := equal_values_tied
  have double : (Double.finite false
      { significand := 2 ^ 52, exponent := 1075, significand_lt := by decide
        exponent_le := by decide, full := .inr (by decide) }).extended? =
        some (ofRat (9007199254740992 : Int)) :=
    (Double.toInt?_eq_some_iff ..).1 (by decide +kernel)
  have displays (whole : Int) (small : whole.natAbs < 10 ^ displayedDigits) :
      (Value.integer whole).display = .ok (integerText whole) :=
    (Value.display_integer_eq_ok_iff ..).2 ⟨small, rfl⟩
  have digits : integerText 9007199254740992 = "9007199254740992" := rfl
  have nextDigits : integerText 9007199254740993 = "9007199254740993" := rfl
  have equal :
      (Value.integer 9007199254740992).equal (.string "9007199254740992") = .ok true :=
    Value.equal_eq_ok_true_iff.2 ⟨_, displays _ (by decide +kernel), rfl⟩
  have nextEqual :
      (Value.integer 9007199254740993).equal (.string "9007199254740993") = .ok true :=
    Value.equal_eq_ok_true_iff.2 ⟨_, displays _ (by decide +kernel), rfl⟩
  have notApart : ¬(Value.integer 9007199254740992).ReadsApart
      (.string "9007199254740992") := by
    rw [← digits]
    rintro ⟨between⟩
    exact between _ double
  have readsApart : (Value.integer 9007199254740993).ReadsApart
      (.string "9007199254740993") := by
    rw [← nextDigits]
    exact .integer (isBetweenDoubles_of_odd (by decide) (by decide))
  have greater :
      (Value.integer 9007199254740993).compare .greater (.string "9007199254740993") =
        .ok true :=
    (Value.compare_eq_ok_iff ..).2 ⟨_, .numbers rfl rfl, by decide +kernel⟩
  have holds := (@Render.evaluate_conjunction_iff Unit environment (.reference 0 "x")
    (.reference 5 "y") session (.integer 9007199254740993) (.string "9007199254740993")
    (.reference 11 "x") (.reference 15 "y") .equal (.order .greater) 7 2 13
    rfl rfl rfl rfl).2 ⟨nextEqual, greater⟩
  exact ⟨(tied (.integer 9007199254740992) (.string "9007199254740992") (by simp)
    (by simp) equal notApart).2.2.1, apart _ _ readsApart, holds,
    condition _ environment _ _ _ _ session _ _ 7 2 13 rfl rfl rfl rfl holds⟩

/-! ## Numbers in expressions -/

/-- The number that the digits of a number name. -/
theorem Numeral.size_written (whole fraction : List Char) :
    (Numeral.mk false whole fraction 0).size =
      digitsValue (whole ++ fraction) / 10 ^ fraction.length := by
  rw [size, zero_sub, zpow_neg, zpow_natCast, div_eq_mul_inv]

section

variable {whole fraction : List Char}
  (nonempty : whole ≠ [])
  (wholeDigits : ∀ character ∈ whole, character.isDigit = true)
  (fractionDigits : ∀ character ∈ fraction, character.isDigit = true)

include nonempty wholeDigits fractionDigits

/-- The digits of a number are scanned as a single token. -/
theorem Token.Writes.written (source : String) (position : Nat) :
    Writes source position (Numeral.written whole fraction)
      [⟨.number, String.ofList (Numeral.written whole fraction), position⟩] [] where
  scans := by
    have lexical := lexical_written nonempty wholeDigits fractionDigits
    rw [lexical.scanFrom_append ?_ source position]
    · simp [scanFrom, Except.map, bind, Except.bind, pure, Except.pure]
    · intro other kind meaning _ front
      rw [List.append_nil] at front
      exact front.length_le
  passes := by
    have plain := Numeral.of_mem_written wholeDigits fractionDigits
    exact .ofPlain (fun inside => absurd (plain _ inside) (by decide))
      (fun inside => absurd (plain _ inside) (by decide))

/-- A number in an expression is parsed to the double nearest to it. -/
theorem Expr.parse_number
    {limits : Limits}
    {known : String → Bool}
    (short : (Numeral.written whole fraction).length ≤ limits.expressionLength) :
    ∃ double : Double,
      parse limits known (String.ofList (Numeral.written whole fraction)) =
          .ok (.number 0 double) ∧
        double.IsNearest false
          (Numeral.digitsValue (whole ++ fraction) / 10 ^ fraction.length) := by
  have spells := Numeral.read?_eq_some_iff.1
    (Numeral.read?_written nonempty wholeDigits fractionDigits)
  have nearest := spells.toDouble_isNearest
  have read := spells.ofText?
  have written := Token.Writes.written nonempty wholeDigits fractionDigits
    (String.ofList (Numeral.written whole fraction)) 0
  have writes :
      (Grammar.Derivation.literal .number
        ⟨String.ofList (Numeral.written whole fraction), 0⟩).Writes known
          (String.ofList (Numeral.written whole fraction)) 0
          (String.ofList (Numeral.written whole fraction)).toList [] 0 :=
    ⟨by rwa [String.toList_ofList], by simp, rfl⟩
  rw [← String.toList_ofList (l := Numeral.written whole fraction)] at short
  rw [Numeral.size_written] at nearest
  refine ⟨_, (parse_primary writes short (Nat.zero_le _)).trans ?_, nearest⟩
  simp [Grammar.Derivation.meaning, Grammar.Literal.expr, Grammar.Leaf.token, Token.number,
    read]

end

/-- A whole number is equal to the double nearest to it when it is below the bound. -/
theorem Value.equal_nearest
    {double : Double}
    {number : Int}
    {text : String}
    (nearest : double.IsNearest false number)
    (nonneg : 0 ≤ number)
    (displays : (Value.integer number).display = .ok text) :
    (Value.double double).equal (.integer number) =
        .ok (decide (number.natAbs < 10 ^ 15)) ∧
      (Value.integer number).equal (.double double) =
        .ok (decide (number.natAbs < 10 ^ 15)) := by
  obtain ⟨-, rfl⟩ := (Value.display_integer_eq_ok_iff ..).1 displays
  have same : displayDouble double = integerText number ↔ number.natAbs < 10 ^ 15 := by
    rw [displayDouble_eq_integerText_iff, and_iff_right_iff_imp]
    intro small
    obtain ⟨natural, rfl⟩ := Int.eq_ofNat_of_zero_le nonneg
    exact nearest.extended?_of_lt (small.trans (by decide))
  have doubleDisplays := Value.display_double double
  constructor
  · rw [equal_eq_ok_of_display doubleDisplays displays]
    exact congrArg Except.ok (decide_eq_decide.2 same)
  · rw [equal_eq_ok_of_display displays doubleDisplays]
    exact congrArg Except.ok (decide_eq_decide.2 (eq_comm.trans same))

/-- Of two whole numbers or doubles other than what is not a number, neither of them less
than the other, both have one value; they are equal exactly when both are whole numbers, or
both doubles, or their value is a whole number below the bound. A number that is written in
an expression is parsed to a double, and where its value is that of a whole number, it is
equal to this whole number exactly below the bound, whichever of the two stands in front. -/
theorem equal_below_bound :
    (∀ (left right : Number) (text otherText : String),
      left ≠ .double .nan → right ≠ .double .nan →
        left.toValue.display = .ok text → right.toValue.display = .ok otherText →
        left.toValue.compare .less right.toValue = .ok false →
        left.toValue.compare .greater right.toValue = .ok false →
        ∃ value holds,
          left.extended? = some value ∧ right.extended? = some value ∧
            left.toValue.equal right.toValue = .ok holds ∧
            (holds = true ↔
              left.isInteger = right.isInteger ∨
                ∃ whole : Int, whole.natAbs < 10 ^ 15 ∧ value = ofRat whole)) ∧
    ∀ (limits : Limits) (known : String → Bool) (whole fraction : List Char),
      whole ≠ [] →
        (∀ character ∈ whole ++ fraction, character.isDigit = true) →
        (Numeral.written whole fraction).length ≤ limits.expressionLength →
        ∃ double : Double,
          Expr.parse limits known (String.ofList (Numeral.written whole fraction)) =
              .ok (.number 0 double) ∧
            ∀ (σ : Type) (environment : Environment σ) (operand : Expr)
              (session after : Session σ) (number : Int) (text : String),
              Numeral.digitsValue (whole ++ fraction) / 10 ^ fraction.length = (number : ℚ) →
                (Value.integer number).display = .ok text →
                Render.evaluate environment operand session = .ok (.integer number) after →
                ∀ position offset : Int,
                  Render.evaluate environment
                      (.binary position (.relation .equal) (.number offset double) operand)
                      session =
                    .ok (.boolean (decide (number.natAbs < 10 ^ 15))) after ∧
                  Render.evaluate environment
                      (.binary position (.relation .equal) operand (.number offset double))
                      session =
                    .ok (.boolean (decide (number.natAbs < 10 ^ 15))) after := by
  constructor
  · intro left right text otherText notNan otherNotNan displays otherDisplays notLess
      notGreater
    obtain ⟨value, isValue⟩ := Number.exists_extended notNan
    obtain ⟨other, isOther⟩ := Number.exists_extended otherNotNan
    obtain rfl := Number.eq_of_not_less isValue isOther notLess notGreater
    refine ⟨value, _, isValue, isOther, Value.equal_eq_ok_of_display displays otherDisplays, ?_⟩
    rw [decide_eq_true_eq]
    exact Number.display_eq_iff isValue isOther displays otherDisplays
  · intro limits known whole fraction nonempty digits short
    obtain ⟨wholeDigits, fractionDigits⟩ := List.forall_mem_append.1 digits
    obtain ⟨double, parsed, nearest⟩ :=
      @Expr.parse_number whole fraction nonempty wholeDigits fractionDigits _ known short
    refine ⟨double, parsed, fun σ environment operand session after number text size displays
      isNumber position offset => ?_⟩
    have nonneg : 0 ≤ number := by
      have sizeNonneg : (0 : ℚ) ≤ number := by
        rw [← size]
        positivity
      exact_mod_cast sizeNonneg
    rw [size] at nearest
    obtain ⟨front, behind⟩ := Value.equal_nearest nearest nonneg displays
    have isDouble (session : Session σ) :
        Render.evaluate environment (.number offset double) session =
          .ok (.double double) session := by
      rw [Render.evaluate]
      rfl
    have frontHolds :
        Relation.equal.holds (.double double) (.integer number) =
          .ok (decide (number.natAbs < 10 ^ 15)) := front
    have behindHolds :
        Relation.equal.holds (.integer number) (.double double) =
          .ok (decide (number.natAbs < 10 ^ 15)) := behind
    exact ⟨Render.evaluate_relation_of_holds (isDouble session) isNumber frontHolds position,
      Render.evaluate_relation_of_holds isNumber (isDouble after) behindHolds position⟩

/-- The bound as a double. -/
def Double.displayBound : Double :=
  .finite false
    { significand := 8 * 10 ^ 15
      exponent := 1071
      significand_lt := by decide
      exponent_le := by decide
      full := .inr (by decide) }

/-- A whole number and the double of the same value, neither of them less than the other,
are not equal when they reach the bound. -/
theorem unequal_at_bound :
    (Value.integer (10 ^ 15)).compare .less (.double .displayBound) = .ok false ∧
      (Value.integer (10 ^ 15)).compare .greater (.double .displayBound) = .ok false ∧
      (Value.integer (10 ^ 15)).equal (.double .displayBound) = .ok false := by
  have isBound : Double.displayBound.extended? = some (ofRat (10 ^ 15 : Int)) :=
    (Double.toInt?_eq_some_iff ..).1 (by decide +kernel)
  have displays : (Value.integer (10 ^ 15)).display = .ok (integerText (10 ^ 15)) :=
    (Value.display_integer_eq_ok_iff ..).2 ⟨by decide +kernel, rfl⟩
  obtain ⟨notLess, notGreater⟩ :=
    @Number.not_less_of_extended (.integer (10 ^ 15)) (.double .displayBound) _ rfl isBound
  refine ⟨notLess, notGreater, ?_⟩
  rw [Value.equal_eq_ok_of_display displays (Value.display_double _)]
  refine congrArg Except.ok (decide_eq_false fun same => ?_)
  exact absurd ((displayDouble_eq_integerText_iff ..).1 same.symm).2 (by decide)

/-- The largest whole number below the bound is equal to the double of the same value, and
a name that stands for it to the number that an expression spells with decimals. -/
theorem equal_below_bound_largest :
    let environment : Environment Unit :=
      { limits := .standard, registry := .empty, source := "" }
    let session : Session Unit := .start [("x", .integer 999999999999999)] ()
    let largest : Double :=
      .finite false
        { significand := 8 * 999999999999999
          exponent := 1071
          significand_lt := by decide
          exponent_le := by decide
          full := .inr (by decide) }
    (Value.integer 999999999999999).equal (.double largest) = .ok true ∧
      ∃ double : Double,
        Expr.parse .standard (fun _ => false) "999999999999999.0" =
            .ok (.number 0 double) ∧
          Render.evaluate environment
              (.binary 18 (.relation .equal) (.number 0 double) (.reference 21 "x"))
              session =
            .ok (.boolean true) session := by
  intro environment session largest
  obtain ⟨numbers, literal⟩ := equal_below_bound
  have isLargest : largest.extended? = some (ofRat (999999999999999 : Int)) :=
    (Double.toInt?_eq_some_iff ..).1 (by decide +kernel)
  have displays :
      (Value.integer 999999999999999).display = .ok (integerText 999999999999999) :=
    (Value.display_integer_eq_ok_iff ..).2 ⟨by decide +kernel, rfl⟩
  constructor
  · obtain ⟨notLess, notGreater⟩ :=
      @Number.not_less_of_extended (.integer 999999999999999) (.double largest) _ rfl
        isLargest
    obtain ⟨value, holds, isValue, -, equal, small⟩ :=
      numbers (.integer 999999999999999) (.double largest) _ _ (by simp) (by simp [largest])
        displays (Value.display_double _) notLess notGreater
    rw [small.2 (.inr ⟨999999999999999, by decide, (Option.some.inj isValue).symm⟩)] at equal
    exact equal
  · obtain ⟨double, parsed, evaluated⟩ :=
      literal .standard (fun _ => false) "999999999999999".toList ['0'] (by decide)
        (List.all_eq_true.1 (by decide)) (by decide)
    refine ⟨double, parsed, ?_⟩
    refine (evaluated Unit environment (.reference 21 "x") session session 999999999999999 _
      ?_ displays rfl 18 0).1
    have digits :
        Numeral.digitsValue ("999999999999999".toList ++ ['0']) = 9999999999999990 := by
      decide +kernel
    rw [digits]
    norm_num

end Templating
