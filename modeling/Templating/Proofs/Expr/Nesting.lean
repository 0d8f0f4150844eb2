import Templating.Proofs.Expr.Grammar

/-!
# The size and the nesting of expressions

The ways down an expression lead from the whole of it to its parts without parts. Negations
and calls enclose what they are applied to, and the nesting of an expression is the greatest
number of them on one of its ways. Its height is never above the number of its parts.

A derivation bounds the parts and the nesting of what it means. Every part is written by a
token of its own, and the negations and calls on a way are among those that the derivation
nests. The links of a chain make an expression higher without nesting, and parentheses nest
without making it higher.
-/

namespace Templating
namespace Expr

/-- The parts right below an expression. -/
def parts : Expr → List Expr
  | .access position object _ => [.reference position object]
  | .call _ _ arguments => arguments
  | .unary _ _ operand => [operand]
  | .binary _ _ left right => [left, right]
  | _ => []

/-- A way down an expression, from the whole of it to a part that has no parts. -/
inductive Way : Expr → List Expr → Prop
  | stop {expr : Expr} (isLeaf : expr.parts = []) : Way expr [expr]
  | step
      {expr part : Expr}
      {way : List Expr}
      (isPart : part ∈ expr.parts)
      (further : Way part way) :
      Way expr (expr :: way)

/-- A negation or a call, which encloses what it is applied to. -/
def isEnclosing : Expr → Bool
  | .call _ _ _ | .unary _ _ _ => true
  | _ => false

mutual

/-- The greatest number of negations and calls on a way down an expression. -/
def nesting : Expr → Nat
  | .call _ _ arguments => nestingAll arguments + 1
  | .unary _ _ operand => operand.nesting + 1
  | .binary _ _ left right => max left.nesting right.nesting
  | _ => 0

/-- The greatest nesting among several expressions. -/
def nestingAll : List Expr → Nat
  | [] => 0
  | expr :: rest => max expr.nesting (nestingAll rest)

end

@[simp] theorem nestingAll_cons (expr : Expr) (rest : List Expr) :
    nestingAll (expr :: rest) = max expr.nesting (nestingAll rest) := rfl

theorem nesting_le_nestingAll
    {expr : Expr}
    {exprs : List Expr}
    (member : expr ∈ exprs) :
    expr.nesting ≤ nestingAll exprs := by
  induction member with
  | head rest => exact Nat.le_max_left _ _
  | tail other _ inductionHypothesis =>
      exact Nat.le_trans inductionHypothesis (Nat.le_max_right _ _)

/-- A step down goes less deep when it goes into a negation or a call. -/
theorem nesting_part_le
    {expr part : Expr}
    (isPart : part ∈ expr.parts) :
    part.nesting + (if expr.isEnclosing then 1 else 0) ≤ expr.nesting := by
  cases expr with
  | access position object property =>
      rw [List.mem_singleton.1 isPart]
      exact Nat.le_refl 0
  | call position function arguments =>
      exact Nat.succ_le_succ (nesting_le_nestingAll isPart)
  | unary position operator operand =>
      rw [List.mem_singleton.1 isPart]
      exact Nat.le_refl _
  | binary position operator left right =>
      obtain rfl | rfl : part = left ∨ part = right := by simpa [parts] using isPart
      · exact Nat.le_max_left _ _
      · exact Nat.le_max_right _ _
  | _ => cases isPart

theorem isEnclosing_le_nesting (expr : Expr) :
    (if expr.isEnclosing then 1 else 0) ≤ expr.nesting := by
  cases expr with
  | call | unary => exact Nat.succ_le_succ (Nat.zero_le _)
  | _ => exact Nat.zero_le _

/-- No way holds more negations and calls than the nesting says. -/
theorem Way.countP_le_nesting
    {expr : Expr}
    {way : List Expr}
    (down : expr.Way way) :
    way.countP isEnclosing ≤ expr.nesting := by
  induction down with
  | @stop expr isLeaf =>
      rw [List.countP_singleton]
      exact expr.isEnclosing_le_nesting
  | @step expr part way isPart further inductionHypothesis =>
      rw [List.countP_cons]
      exact Nat.le_trans (Nat.add_le_add_right inductionHypothesis _)
        (nesting_part_le isPart)

mutual

/-- The parts on one way are no more than all the parts. -/
theorem depth_le_count (expr : Expr) : expr.depth ≤ expr.count := by
  cases expr with
  | access => exact Nat.le_refl 2
  | call position function arguments =>
      exact Nat.add_le_add_left (depthAll_le_countAll arguments) 1
  | unary position operator operand => exact Nat.add_le_add_left operand.depth_le_count 1
  | binary position operator left right =>
      have inLeft := left.depth_le_count
      have inRight := right.depth_le_count
      simp only [depth, count]
      omega
  | _ => exact Nat.le_refl 1

theorem depthAll_le_countAll (exprs : List Expr) : depthAll exprs ≤ countAll exprs := by
  cases exprs with
  | nil => exact Nat.le_refl 0
  | cons expr rest =>
      have inExpr := expr.depth_le_count
      have inRest := depthAll_le_countAll rest
      simp only [depthAll, countAll]
      omega

end

end Expr

namespace Grammar

/-- What a symbol means has at most so many parts and nests at most so deep. The links of
a chain are bounded by what they add to the expression in front of them. -/
def Symbol.Bounded : (symbol : Symbol) → symbol.Meaning → (size nesting : Nat) → Prop
  | .expression _, expr, size, nesting => expr.count ≤ size ∧ expr.nesting ≤ nesting
  | .links _, extend, size, nesting =>
      ∀ left : Expr,
        (extend left).count ≤ left.count + size ∧
          (extend left).nesting ≤ max left.nesting nesting
  | .arguments, exprs, size, nesting =>
      Expr.countAll exprs ≤ size ∧ Expr.nestingAll exprs ≤ nesting
  | .furtherArguments, exprs, size, nesting =>
      Expr.countAll exprs ≤ size ∧ Expr.nestingAll exprs ≤ nesting

/-- What a derivation means has no more parts than the derivation has tokens and nests no
deeper than the derivation. -/
theorem Derivation.bounded {symbol : Symbol} (derivation : Derivation symbol) :
    symbol.Bounded derivation.meaning derivation.tokens.length derivation.nesting := by
  induction derivation with
  | chain first links firstHypothesis linksHypothesis =>
      obtain ⟨size, deep⟩ := firstHypothesis
      obtain ⟨extendedSize, extendedDeep⟩ := linksHypothesis first.meaning
      simp only [Symbol.Bounded, meaning, tokens, List.length_append, nesting]
      exact ⟨by omega, by omega⟩
  | noLink => exact fun left => ⟨Nat.le_refl _, Nat.le_max_left _ _⟩
  | @link connective operator operand links operandHypothesis linksHypothesis =>
      intro left
      obtain ⟨size, deep⟩ := operandHypothesis
      -- The links behind this one extend what it makes of the expression in front.
      obtain ⟨extendedSize, extendedDeep⟩ :=
        linksHypothesis (.binary operator.position connective.operator left operand.meaning)
      simp only [Expr.count, Expr.nesting] at extendedSize extendedDeep
      simp only [meaning, tokens, List.length_cons, List.length_append, nesting]
      exact ⟨by omega, by omega⟩
  | single operand operandHypothesis => exact operandHypothesis
  | compared left relation operator right leftHypothesis rightHypothesis =>
      obtain ⟨leftSize, leftDeep⟩ := leftHypothesis
      obtain ⟨rightSize, rightDeep⟩ := rightHypothesis
      simp only [Symbol.Bounded, meaning, Expr.count, Expr.nesting, tokens,
        List.length_append, List.length_cons, nesting]
      exact ⟨by omega, by omega⟩
  | negation operator operand operandHypothesis =>
      obtain ⟨size, deep⟩ := operandHypothesis
      simp only [Symbol.Bounded, meaning, Expr.count, Expr.nesting, tokens,
        List.length_cons, nesting]
      exact ⟨by omega, by omega⟩
  | primary inner innerHypothesis => exact innerHypothesis
  | parenthesized opening inner closing innerHypothesis =>
      obtain ⟨size, deep⟩ := innerHypothesis
      simp only [Symbol.Bounded, meaning, tokens, List.length_cons, List.length_append,
        nesting]
      exact ⟨by omega, by omega⟩
  | literal constant leaf => cases constant <;> exact ⟨Nat.le_refl 1, Nat.le_refl 0⟩
  | call name opening arguments closing argumentsHypothesis =>
      obtain ⟨size, deep⟩ := argumentsHypothesis
      simp only [Symbol.Bounded, meaning, Expr.count, Expr.nesting, tokens,
        List.length_cons, List.length_append, nesting]
      exact ⟨by omega, by omega⟩
  | access object dot property => exact ⟨Nat.le_succ 2, Nat.le_refl 0⟩
  | reference name => exact ⟨Nat.le_refl 1, Nat.le_refl 0⟩
  | noArgument | noFurtherArgument => exact ⟨Nat.le_refl 0, Nat.le_refl 0⟩
  | firstArgument argument further argumentHypothesis furtherHypothesis =>
      obtain ⟨size, deep⟩ := argumentHypothesis
      obtain ⟨furtherSize, furtherDeep⟩ := furtherHypothesis
      simp only [Symbol.Bounded, meaning, Expr.countAll_cons, Expr.nestingAll_cons, tokens,
        List.length_append, nesting]
      exact ⟨by omega, by omega⟩
  | furtherArgument comma argument further argumentHypothesis furtherHypothesis =>
      obtain ⟨size, deep⟩ := argumentHypothesis
      obtain ⟨furtherSize, furtherDeep⟩ := furtherHypothesis
      simp only [Symbol.Bounded, meaning, Expr.countAll_cons, Expr.nestingAll_cons, tokens,
        List.length_cons, List.length_append, nesting]
      exact ⟨by omega, by omega⟩

end Grammar
end Templating
