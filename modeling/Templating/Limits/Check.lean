import Templating.Error
import Templating.Limits

/-!
# Checks against the limits

The parsers compare what they find with the limits by these checks. Each passes
exactly as long as the limit is not exceeded, and fails with the error that
names the limit.
-/

namespace Templating
namespace Limits

/-- The text of a tag is within its length. -/
def checkLength
    (limits : Limits)
    (length : Nat)
    (position : Option Int)
    (source : Option String) :
    Except Error Unit :=
  if length ≤ limits.expressionLength then .ok ()
  else .error (.parse (.expressionTooLong limits.expressionLength) position source)

/-- A point of an expression is within its depth. -/
def checkDepth
    (limits : Limits)
    (depth : Nat)
    (position : Option Int)
    (source : Option String) :
    Except Error Unit :=
  if depth ≤ limits.expressionDepth then .ok ()
  else
    .error (.parse (.expressionTooDeep depth limits.expressionDepth) position source)

/-- A block is within the nesting of blocks. -/
def checkNesting
    (limits : Limits)
    (depth : Nat)
    (position : Option Int)
    (source : Option String) :
    Except Error Unit :=
  if depth ≤ limits.nestingDepth then .ok ()
  else .error (.parse (.nestingTooDeep limits.nestingDepth) position source)

variable (limits : Limits) (amount : Nat)
  (position : Option Int) (source : Option String)

@[simp] theorem checkLength_eq_ok :
    limits.checkLength amount position source = .ok () ↔
      amount ≤ limits.expressionLength := by
  unfold checkLength
  split <;> simp_all

@[simp] theorem checkDepth_eq_ok :
    limits.checkDepth amount position source = .ok () ↔
      amount ≤ limits.expressionDepth := by
  unfold checkDepth
  split <;> simp_all

@[simp] theorem checkNesting_eq_ok :
    limits.checkNesting amount position source = .ok () ↔
      amount ≤ limits.nestingDepth := by
  unfold checkNesting
  split <;> simp_all

end Limits
end Templating
