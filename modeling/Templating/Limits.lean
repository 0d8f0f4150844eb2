/-!
# Limits

A template is written by people whom the host need not trust, so parsing and
rendering are bounded. Three limits bound the text of a template and three bound
a render, while the nesting of blocks is bounded both times. Every limit is
positive.
-/

namespace Templating

/-- The bounds on parsing and rendering one template. -/
structure Limits where
  /-- The most characters of one tag's text. -/
  expressionLength : Nat
  /-- The most parentheses, negations and calls around one point of an
  expression. -/
  expressionDepth : Nat
  /-- The most blocks around one point of a template. -/
  nestingDepth : Nat
  /-- The most loop iterations of a whole render. -/
  loopIterations : Nat
  /-- The most function calls in progress at one moment. -/
  callDepth : Nat
  /-- The most bytes of output. -/
  outputSize : Nat
  expressionLength_pos : 0 < expressionLength
  expressionDepth_pos : 0 < expressionDepth
  nestingDepth_pos : 0 < nestingDepth
  loopIterations_pos : 0 < loopIterations
  callDepth_pos : 0 < callDepth
  outputSize_pos : 0 < outputSize
  deriving DecidableEq

namespace Limits

/-- The limits of a host that states none. -/
def standard : Limits where
  expressionLength := 2000
  expressionDepth := 32
  nestingDepth := 10
  loopIterations := 1000
  callDepth := 5
  outputSize := 1048576
  expressionLength_pos := by decide
  expressionDepth_pos := by decide
  nestingDepth_pos := by decide
  loopIterations_pos := by decide
  callDepth_pos := by decide
  outputSize_pos := by decide

instance : Inhabited Limits := ⟨standard⟩

/-- Each limit of the one is at most the same limit of the other. -/
structure AtMost (limits others : Limits) : Prop where
  expressionLength : limits.expressionLength ≤ others.expressionLength
  expressionDepth : limits.expressionDepth ≤ others.expressionDepth
  nestingDepth : limits.nestingDepth ≤ others.nestingDepth
  loopIterations : limits.loopIterations ≤ others.loopIterations
  callDepth : limits.callDepth ≤ others.callDepth
  outputSize : limits.outputSize ≤ others.outputSize

end Limits
end Templating
