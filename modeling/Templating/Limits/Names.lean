import Templating.Limits

/-!
# Limits by name

The six limits in their order, the two spellings of each name, and limits as counts
by name.
-/

namespace Templating

/-- The names of the limits. -/
inductive LimitName
  | expressionLength
  | expressionDepth
  | nestingDepth
  | loopIterations
  | callDepth
  | outputSize
  deriving DecidableEq

namespace LimitName

/-- The limits in their order. -/
def all : List LimitName :=
  [.expressionLength, .expressionDepth, .nestingDepth, .loopIterations,
    .callDepth, .outputSize]

theorem mem_all (name : LimitName) : name ∈ all := by
  cases name <;> decide

/-- The spelling with capitals. -/
def capitalized : LimitName → String
  | .expressionLength => "maxExpressionLength"
  | .expressionDepth => "maxExpressionDepth"
  | .nestingDepth => "maxNestingDepth"
  | .loopIterations => "maxLoopIterations"
  | .callDepth => "maxFunctionCallDepth"
  | .outputSize => "maxOutputSize"

/-- The spelling with underscores. -/
def underscored : LimitName → String
  | .expressionLength => "max_expression_length"
  | .expressionDepth => "max_expression_depth"
  | .nestingDepth => "max_nesting_depth"
  | .loopIterations => "max_loop_iterations"
  | .callDepth => "max_function_call_depth"
  | .outputSize => "max_output_size"

/-- The limit of a name. -/
def get (limits : Limits) : LimitName → { count : Nat // 0 < count }
  | .expressionLength => ⟨limits.expressionLength, limits.expressionLength_pos⟩
  | .expressionDepth => ⟨limits.expressionDepth, limits.expressionDepth_pos⟩
  | .nestingDepth => ⟨limits.nestingDepth, limits.nestingDepth_pos⟩
  | .loopIterations => ⟨limits.loopIterations, limits.loopIterations_pos⟩
  | .callDepth => ⟨limits.callDepth, limits.callDepth_pos⟩
  | .outputSize => ⟨limits.outputSize, limits.outputSize_pos⟩

end LimitName

/-- A number for each limit, which need not be positive. -/
abbrev Counts := LimitName → Int

namespace Limits

/-- The counts of limits. -/
def counts (limits : Limits) : Counts := fun name => (name.get limits).val

/-- The limits that give each name its count. -/
def ofCounts (count : LimitName → { count : Nat // 0 < count }) : Limits where
  expressionLength := count .expressionLength
  expressionDepth := count .expressionDepth
  nestingDepth := count .nestingDepth
  loopIterations := count .loopIterations
  callDepth := count .callDepth
  outputSize := count .outputSize
  expressionLength_pos := (count .expressionLength).property
  expressionDepth_pos := (count .expressionDepth).property
  nestingDepth_pos := (count .nestingDepth).property
  loopIterations_pos := (count .loopIterations).property
  callDepth_pos := (count .callDepth).property
  outputSize_pos := (count .outputSize).property

/-- The limits with given counts, if all of them are positive. -/
def ofCounts? (counts : Counts) : Option Limits :=
  if positive : ∀ name ∈ LimitName.all, 0 < counts name then
    some (ofCounts fun name =>
      ⟨(counts name).toNat, by have := positive name name.mem_all; omega⟩)
  else none

/-- Positive counts are those of limits. -/
theorem exists_ofCounts?
    {counts : Counts}
    (positive : ∀ name, 1 ≤ counts name) :
    ∃ limits, ofCounts? counts = some limits ∧ limits.counts = counts := by
  refine ⟨_, dif_pos fun name _ => positive name, funext fun name => ?_⟩
  have := positive name
  cases name <;> exact Int.toNat_of_nonneg (by omega)

theorem one_le_counts (limits : Limits) (name : LimitName) : 1 ≤ limits.counts name := by
  have := (name.get limits).property
  simp only [counts]
  omega

end Limits
end Templating
