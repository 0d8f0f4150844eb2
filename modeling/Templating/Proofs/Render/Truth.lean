import Templating.Proofs.Render.Steps
import Templating.Proofs.Value.Display
import Templating.Value.Comparison

/-!
# What counts as true

Whether a single value counts as true is decided by the text that it displays: the values
that count as false are those that display nothing, a zero or the word for false. So no
condition tells two equal values apart.
-/

namespace Templating

open Extended (ofRat)

/-- The texts that count as false. -/
def falseTexts : List String := ["", "0", "false"]

/-- Of the texts that count as false only the zero is a numeral. -/
theorem mem_falseTexts_iff
    {text : String}
    (isNumeral : Numeral.read? text.toList ≠ none) :
    text ∈ falseTexts ↔ text = "0" := by
  have empty : text ≠ "" := by
    rintro rfl
    exact isNumeral (by decide)
  have noWord : text ≠ "false" := by
    rintro rfl
    exact isNumeral (by decide)
  simp [falseTexts, empty, noWord]

theorem integerText_mem_falseTexts (whole : Int) :
    integerText whole ∈ falseTexts ↔ whole = 0 := by
  obtain ⟨numeral, read, -⟩ := (integerText_denotes whole).exists_isNearest
  rw [mem_falseTexts_iff (by simp [read])]
  exact integerText_injective.eq_iff' rfl

theorem displayDouble_mem_falseTexts (double : Double) :
    displayDouble double ∈ falseTexts ↔ double.isZero = true := by
  by_cases finite : ∃ negative magnitude, double = .finite negative magnitude
  · obtain ⟨negative, magnitude, rfl⟩ := finite
    obtain ⟨numeral, read, -⟩ := exists_read?_displayDouble negative magnitude
    rw [mem_falseTexts_iff (by simp [read])]
    exact displayDouble_eq_zero_iff _
  · rcases double with _ | ⟨_ | _⟩ | ⟨negative, magnitude⟩
    case finite => exact absurd ⟨_, _, rfl⟩ finite
    all_goals decide

namespace Value

variable {value left right : Value}

/-- A value that displays a text of its own counts as false exactly when this text does. -/
theorem truthy_eq_false_iff
    {text : String}
    (scalar : value.IsScalar)
    (displays : value.display = .ok text) :
    value.truthy = false ↔ text ∈ falseTexts := by
  cases value with
  | null =>
      cases displays
      decide
  | boolean value =>
      cases displays
      cases value <;> decide
  | integer whole =>
      rw [display_integer, displayInteger] at displays
      split at displays
      · cases displays
        simp [truthy, integerText_mem_falseTexts]
      · cases displays
  | double double =>
      cases displays
      simp [truthy, displayDouble_mem_falseTexts]
  | string text =>
      cases displays
      rw [truthy, Bool.not_eq_false', List.contains_iff_mem, falseTexts]
  | _ => exact scalar.elim

theorem truthy_eq_of_equal
    (leftScalar : left.IsScalar)
    (rightScalar : right.IsScalar)
    (equal : left.equal right = .ok true) :
    left.truthy = right.truthy := by
  obtain ⟨text, leftDisplays, rightDisplays⟩ := equal_eq_ok_true_iff.1 equal
  rw [Bool.eq_iff_iff, ← not_iff_not, Bool.not_eq_true, Bool.not_eq_true,
    truthy_eq_false_iff leftScalar leftDisplays, truthy_eq_false_iff rightScalar rightDisplays]

end Value

/-! ## Conditions -/

namespace Render

variable {σ : Type} {environment : Environment σ} {left right : Expr} {session : Session σ}

/-- Evaluated in a session, two expressions give equal values of a single piece, and leave
the same session behind. -/
def GiveEqual
    (environment : Environment σ)
    (left right : Expr)
    (session : Session σ) :
    Prop :=
  ∃ first second after,
    evaluate environment left session = .ok first after ∧
      evaluate environment right session = .ok second after ∧
      first.IsScalar ∧ second.IsScalar ∧ first.equal second = .ok true

/-- Steps that look only at whether a value is true go on alike behind expressions that
give equal values. -/
theorem GiveEqual.bind_eq
    {α : Type}
    (giveEqual : GiveEqual environment left right session)
    (next : Bool → Render σ α) :
    (evaluate environment left >>= fun value => next value.truthy) session =
      (evaluate environment right >>= fun value => next value.truthy) session := by
  obtain ⟨first, second, after, isFirst, isSecond, firstScalar, secondScalar, equal⟩ :=
    giveEqual
  rw [render_bind, render_bind, isFirst, isSecond]
  dsimp only
  rw [Value.truthy_eq_of_equal firstScalar secondScalar equal]

/-- A negation does not tell equal values apart. -/
theorem GiveEqual.evaluate_unary
    (giveEqual : GiveEqual environment left right session)
    (position otherPosition : Int)
    (operator otherOperator : UnaryOperator) :
    evaluate environment (.unary position operator left) session =
      evaluate environment (.unary otherPosition otherOperator right) session := by
  rw [evaluate, evaluate]
  exact giveEqual.bind_eq fun truthy => pure (Value.boolean !truthy)

/-- The same one of two branches is rendered for equal values. -/
theorem GiveEqual.bind_branch
    (giveEqual : GiveEqual environment left right session)
    (body : List Node)
    (branches : Branches) :
    (do
      let value ← evaluate environment left
      if value.truthy then renderAll environment body
      else renderBranches environment branches) session =
      (do
        let value ← evaluate environment right
        if value.truthy then renderAll environment body
        else renderBranches environment branches) session :=
  giveEqual.bind_eq fun truthy =>
    if truthy then renderAll environment body else renderBranches environment branches

end Render

/-- Whether a single value counts as true is decided by the text that it displays: a value
with a text counts as false exactly when the text is empty, `0` or `false`. So of two such
values that are equal both count as true or both as false. Where two expressions give equal
values, their negations give the same, and a conditional renders the same, whether it is
one of them that stands in front of its first branch or of a later one, or the other. -/
theorem truth_by_text :
    (∀ (value : Value) (text : String), value.IsScalar → value.display = .ok text →
      (value.truthy = false ↔ text = "" ∨ text = "0" ∨ text = "false")) ∧
    (∀ left right : Value, left.IsScalar → right.IsScalar → left.equal right = .ok true →
      left.truthy = right.truthy) ∧
    ∀ (σ : Type) (environment : Environment σ) (left right : Expr) (session : Session σ),
      Render.GiveEqual environment left right session →
        (∀ position otherPosition operator otherOperator,
          Render.evaluate environment (.unary position operator left) session =
            Render.evaluate environment (.unary otherPosition otherOperator right)
              session) ∧
        ∀ body branches,
          Render.renderBranches environment (.elif left body branches) session =
              Render.renderBranches environment (.elif right body branches) session ∧
            ∀ outside,
              Render.charge (Budget.enterBlock environment.limits) outside =
                  .ok () session →
                Render.renderNode environment (.conditional left body branches) outside =
                  Render.renderNode environment (.conditional right body branches)
                    outside := by
  refine ⟨fun value text scalar displays => ?_, fun left right => Value.truthy_eq_of_equal,
    fun σ environment left right session giveEqual =>
      ⟨giveEqual.evaluate_unary, fun body branches => ⟨?_, fun outside entered => ?_⟩⟩⟩
  · rw [Value.truthy_eq_false_iff scalar displays]
    simp [falseTexts]
  · rw [Render.renderBranches, Render.renderBranches]
    exact giveEqual.bind_branch body branches
  · rw [Render.renderNode, Render.renderNode, render_bind, render_bind, entered]
    dsimp only
    rw [tryFinally_release, tryFinally_release, giveEqual.bind_branch]

/-- A negative zero and the string of a zero display the same text, and no condition tells
them apart. -/
theorem truth_by_text_zero :
    let environment : Environment Unit :=
      { limits := .standard, registry := .empty, source := "" }
    let session : Session Unit :=
      .start [("x", .double (.finite true .zero)), ("y", .string "0")] ()
    ((Value.double (.finite true .zero)).truthy = false ↔
        "0" = "" ∨ "0" = "0" ∨ "0" = "false") ∧
      (Value.double (.finite true .zero)).truthy = (Value.string "0").truthy ∧
      Render.evaluate environment (.unary 0 .negation (.reference 4 "x")) session =
        Render.evaluate environment (.unary 0 .negation (.reference 4 "y")) session ∧
      Render.renderNode environment
          (.conditional (.reference 3 "x") [.text "a"] (.otherwise [.text "b"])) session =
        Render.renderNode environment
          (.conditional (.reference 3 "y") [.text "a"] (.otherwise [.text "b"])) session := by
  intro environment session
  obtain ⟨byText, ofEqual, conditions⟩ := truth_by_text
  have displays : (Value.double (.finite true .zero)).display = .ok "0" :=
    congrArg Except.ok ((displayDouble_eq_zero_iff _).2 rfl)
  have equal : (Value.double (.finite true .zero)).equal (.string "0") = .ok true :=
    Value.equal_eq_ok_true_iff.2 ⟨"0", displays, rfl⟩
  have giveEqual (position : Int) (budget : Budget) :
      Render.GiveEqual environment (.reference position "x") (.reference position "y")
        { session with budget } :=
    ⟨.double (.finite true .zero), .string "0", { session with budget }, rfl, rfl, trivial,
      trivial, equal⟩
  refine ⟨byText _ _ trivial displays, ofEqual _ _ trivial trivial equal, ?_, ?_⟩
  · exact (conditions _ _ _ _ session (giveEqual 4 session.budget)).1 ..
  · exact ((conditions _ _ _ _ _ (giveEqual 3 _)).2 _ _).2 _ rfl

end Templating
