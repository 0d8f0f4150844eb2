import Templating.Proofs.Render.Unbounded

/-!
# Properties of runs

A property of computations holds of every run when it holds of the smallest steps and is
kept where steps are put in sequence. `EvaluationInvariant` asks for this where
expressions are evaluated, and `Invariant` where templates are run.
-/

namespace Templating
namespace Unbounded

variable {σ : Type}

/-- A property of computations that holds when expressions are evaluated. -/
structure EvaluationInvariant (environment : Environment σ) where
  Holds : {α : Type} → Unbounded σ α → Prop
  pure : ∀ {α : Type} (value : α), Holds (Pure.pure value)
  fail : ∀ {α : Type} (failure : Failure), Holds (α := α) (Unbounded.fail failure)
  bind : ∀ {α β : Type} {computation : Unbounded σ α} {next : α → Unbounded σ β},
    Holds computation → (∀ value, Holds (next value)) → Holds (computation >>= next)
  call : ∀ depth, Holds (record (.call depth))
  callHost : ∀ name arguments position,
    Holds (Unbounded.callHost environment name arguments position)

/-- A property of computations that holds when templates are run. -/
structure Invariant (environment : Environment σ)
    extends EvaluationInvariant environment where
  block : ∀ depth, Holds (record (.block depth))
  iteration : Holds (record .iteration)
  emission : ∀ piece, Holds (record (.emission piece))

namespace EvaluationInvariant

variable {environment : Environment σ} (invariant : EvaluationInvariant environment)

theorem ofExcept {α : Type} (result : Except Error α) :
    invariant.Holds (Unbounded.ofExcept result) := by
  cases result with
  | ok value => exact invariant.pure value
  | error error => exact invariant.fail _

theorem ite
    {α : Type}
    {condition : Prop}
    [Decidable condition]
    {whenTrue whenFalse : Unbounded σ α}
    (first : invariant.Holds whenTrue)
    (second : invariant.Holds whenFalse) :
    invariant.Holds (if condition then whenTrue else whenFalse) := by
  split
  · exact first
  · exact second

mutual

/-- The property holds of the evaluation of an expression. -/
theorem evaluate (expr : Expr) (surroundings : Surroundings) :
    invariant.Holds (Unbounded.evaluate environment surroundings expr) := by
  cases expr with
  | string position text => exact invariant.pure _
  | number position value => exact invariant.pure _
  | boolean position value => exact invariant.pure _
  | null position => exact invariant.pure _
  | reference position name => exact invariant.pure _
  | access position object property => exact invariant.pure _
  | call position function arguments =>
      exact invariant.bind (invariant.call _) fun _ =>
        invariant.bind (evaluateAll arguments _) fun values =>
          invariant.callHost function values position
  | unary position operator operand =>
      exact invariant.bind (evaluate operand surroundings) fun _ => invariant.pure _
  | binary position operator left right =>
      have first := evaluate left surroundings
      have second := evaluate right surroundings
      cases operator with
      | conjunction =>
          exact invariant.bind first fun _ =>
            invariant.ite (invariant.bind second fun _ => invariant.pure _)
              (invariant.pure _)
      | disjunction =>
          exact invariant.bind first fun _ =>
            invariant.ite (invariant.pure _)
              (invariant.bind second fun _ => invariant.pure _)
      | relation relation =>
          exact invariant.bind first fun _ => invariant.bind second fun _ =>
            invariant.bind (invariant.ofExcept _) fun _ => invariant.pure _
      | other symbol =>
          exact invariant.bind first fun _ => invariant.bind second fun _ =>
            invariant.bind (invariant.ofExcept _) fun _ => invariant.fail _
  | unknown kind => exact invariant.fail _

/-- The property holds of the evaluation of several expressions. -/
theorem evaluateAll (exprs : List Expr) (surroundings : Surroundings) :
    invariant.Holds (Unbounded.evaluateAll environment surroundings exprs) := by
  cases exprs with
  | nil => exact invariant.pure _
  | cons expr rest =>
      exact invariant.bind (evaluate expr surroundings) fun _ =>
        invariant.bind (evaluateAll rest surroundings) fun _ => invariant.pure _

end

end EvaluationInvariant

namespace Invariant

variable {environment : Environment σ} (invariant : Invariant environment)

theorem iterate
    {body : Surroundings → Unbounded σ Unit}
    (bodyHolds : ∀ surroundings, invariant.Holds (body surroundings))
    (surroundings : Surroundings)
    (variableName : String)
    (total position : Nat)
    (items : List (Value × Value)) :
    invariant.Holds
      (Unbounded.iterate surroundings variableName total body position items) := by
  induction items generalizing position with
  | nil => exact invariant.pure _
  | cons item rest inductionHypothesis =>
      exact invariant.bind invariant.iteration fun _ =>
        invariant.bind (bodyHolds _) fun _ => inductionHypothesis _

mutual

/-- The property holds of the run of a node. -/
theorem renderNode (node : Node) (surroundings : Surroundings) :
    invariant.Holds (Unbounded.renderNode environment node surroundings) := by
  cases node with
  | text content => exact invariant.emission _
  | output expr =>
      exact invariant.bind (invariant.evaluate expr surroundings) fun _ =>
        invariant.bind (invariant.ofExcept _) fun _ => invariant.emission _
  | rawOutput expr =>
      exact invariant.bind (invariant.evaluate expr surroundings) fun _ =>
        invariant.bind (invariant.ofExcept _) fun _ => invariant.emission _
  | conditional condition body branches =>
      exact invariant.bind (invariant.block _) fun _ =>
        invariant.bind (invariant.evaluate condition _) fun _ =>
          invariant.ite (renderAll body _) (renderBranches branches _)
  | loop variableName iterable body =>
      exact invariant.bind (invariant.block _) fun _ =>
        invariant.bind (invariant.evaluate iterable _) fun _ =>
          invariant.iterate (renderAll body) _ _ _ _ _
  | unknown kind => exact invariant.fail _

/-- The property holds of the run of branches. -/
theorem renderBranches (branches : Branches) (surroundings : Surroundings) :
    invariant.Holds (Unbounded.renderBranches environment branches surroundings) := by
  cases branches with
  | done => exact invariant.pure _
  | elif condition body branches =>
      exact invariant.bind (invariant.evaluate condition _) fun _ =>
        invariant.ite (renderAll body _) (renderBranches branches _)
  | otherwise body => exact renderAll body surroundings

/-- The property holds of the run of several nodes. -/
theorem renderAll (nodes : List Node) (surroundings : Surroundings) :
    invariant.Holds (Unbounded.renderAll environment nodes surroundings) := by
  cases nodes with
  | nil => exact invariant.pure _
  | cons node rest =>
      exact invariant.bind (renderNode node surroundings) fun _ =>
        renderAll rest surroundings

end

end Invariant
end Unbounded
end Templating
