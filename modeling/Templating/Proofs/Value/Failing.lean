import Templating.Proofs.Outcome
import Templating.Render.Evaluation

/-!
# Where values fail

A value that has no text holds a whole number with too many digits, and says so when
it is displayed. So does every comparison that needs its text.
-/

namespace Templating

/-- A whole number has too many digits to be displayed. -/
def Error.IsTooLarge (error : Error) : Prop :=
  match error.cause with
  | .evaluation (.integerTooLarge _) => True
  | _ => False

theorem Error.IsTooLarge.isEvaluation {error : Error} (tooLarge : error.IsTooLarge) :
    error.IsEvaluation := by
  obtain ⟨cause, position, source⟩ := error
  cases cause with
  | evaluation cause => trivial
  | _ => exact tooLarge.elim

theorem displayInteger_error
    {value : Int}
    {error : Error}
    (failed : displayInteger value = .error error) :
    error.IsTooLarge := by
  unfold displayInteger at failed
  split at failed
  · cases failed
  · cases failed
    trivial

namespace Value

mutual

/-- Only a whole number with too many digits is not displayed. -/
theorem display_error
    {value : Value}
    {error : Error}
    (failed : value.display = .error error) :
    error.IsTooLarge := by
  cases value with
  | integer value =>
      rw [display_integer] at failed
      exact displayInteger_error failed
  | list items =>
      obtain itemFailed | ⟨texts, joined⟩ := bind_error failed
      · exact displayAll_error itemFailed
      · cases joined
  | tuple items =>
      obtain itemFailed | ⟨texts, joined⟩ := bind_error failed
      · exact displayAll_error itemFailed
      · cases joined
  | _ => cases failed

/-- Only a whole number with too many digits is not displayed. -/
theorem displayAll_error
    {values : List Value}
    {error : Error}
    (failed : displayAll values = .error error) :
    error.IsTooLarge := by
  cases values with
  | nil => cases failed
  | cons value rest =>
      obtain firstFailed | ⟨text, failed⟩ := bind_error failed
      · exact display_error firstFailed
      · obtain restFailed | ⟨texts, listed⟩ := bind_error failed
        · exact displayAll_error restFailed
        · cases listed

end

end Value

/-- Two values are made comparable, or one of them cannot be displayed. -/
theorem Operands.ofValues_error
    {left right : Value}
    {error : Error}
    (failed : Operands.ofValues left right = .error error) :
    error.IsTooLarge := by
  unfold Operands.ofValues at failed
  split at failed
  · cases failed
  · obtain leftFailed | ⟨first, failed⟩ := bind_error failed
    · exact Value.display_error leftFailed
    · obtain rightFailed | ⟨second, made⟩ := bind_error failed
      · exact Value.display_error rightFailed
      · cases made

theorem Value.equal_error
    {left right : Value}
    {error : Error}
    (failed : left.equal right = .error error) :
    error.IsTooLarge := by
  obtain leftFailed | ⟨first, failed⟩ := bind_error failed
  · exact display_error leftFailed
  · obtain rightFailed | ⟨second, compared⟩ := bind_error failed
    · exact display_error rightFailed
    · cases compared

/-- A relation of two values fails only where one of them cannot be displayed. -/
theorem Relation.holds_error
    {left right : Value}
    {kind : Relation}
    {error : Error}
    (failed : kind.holds left right = .error error) :
    error.IsTooLarge := by
  cases kind with
  | equal => exact Value.equal_error failed
  | notEqual =>
      cases equal : left.equal right with
      | ok value =>
          rw [holds, equal] at failed
          cases failed
      | error other =>
          rw [holds, equal] at failed
          cases failed
          exact Value.equal_error equal
  | order comparison =>
      obtain operandsFailed | ⟨operands, compared⟩ := bind_error failed
      · exact Operands.ofValues_error operandsFailed
      · cases compared

end Templating
