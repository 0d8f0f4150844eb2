import Templating.Proofs.Expr.Operators
import Templating.Proofs.Value.Failing
import Templating.Render.Template

/-!
# Comparing two renders

Two renders of one template go through it in the same order. A relation between
their steps therefore holds of the whole renders when it holds of the smallest
steps and is kept where steps are put in sequence and into calls, blocks and
scopes. `EvaluationCongruence` asks for this where expressions are evaluated, and
`Congruence` where templates are rendered. A relation that looks at one side only
says what a single render keeps.
-/

namespace Templating

namespace Render

variable {σ τ : Type}

/-- A relation between steps of two renders that holds when expressions are
evaluated. -/
structure EvaluationCongruence (first : Environment σ) (second : Environment τ) where
  Related : {α : Type} → Render σ α → Render τ α → Prop
  /-- The failures by which the smallest steps may end. -/
  MayFail : Failure → Prop
  source : first.source = second.source
  evaluation : ∀ error : Error, error.IsEvaluation → MayFail (.error error)
  pure : ∀ {α : Type} (value : α), Related (Pure.pure value) (Pure.pure value)
  throw : ∀ {α : Type} {failure : Failure}, MayFail failure →
    Related (α := α) (MonadExcept.throw failure) (MonadExcept.throw failure)
  bind : ∀ {α β : Type} {step : Render σ α} {other : Render τ α}
    {next : α → Render σ β} {otherNext : α → Render τ β},
    Related step other → (∀ value, Related (next value) (otherNext value)) →
      Related (step >>= next) (other >>= otherNext)
  resolve : ∀ name, Related (Render.resolve name) (Render.resolve name)
  callHost : ∀ name arguments position,
    Related (Render.callHost first name arguments position)
      (Render.callHost second name arguments position)
  call : ∀ {α : Type} {step : Render σ α} {other : Render τ α},
    Related step other →
      Related
        (do
          charge (Budget.enterCall first.limits)
          tryFinally step (release Budget.exitCall))
        (do
          charge (Budget.enterCall second.limits)
          tryFinally other (release Budget.exitCall))

/-- A relation between steps of two renders that holds when templates are
rendered. -/
structure Congruence (first : Environment σ) (second : Environment τ)
    extends EvaluationCongruence first second where
  iteration :
    Related (charge (Budget.countIteration first.limits))
      (charge (Budget.countIteration second.limits))
  emit : ∀ text, Related (Render.emit first.limits text) (Render.emit second.limits text)
  block : ∀ {α : Type} {step : Render σ α} {other : Render τ α},
    Related step other →
      Related
        (do
          charge (Budget.enterBlock first.limits)
          tryFinally step (release Budget.exitBlock))
        (do
          charge (Budget.enterBlock second.limits)
          tryFinally other (release Budget.exitBlock))
  scope : ∀ (scope : Scope) {α : Type} {step : Render σ α} {other : Render τ α},
    Related step other →
      Related
        (do
          openScope scope
          tryFinally step closeScope)
        (do
          openScope scope
          tryFinally other closeScope)

namespace EvaluationCongruence

variable {first : Environment σ} {second : Environment τ}
  (congruence : EvaluationCongruence first second)

/-- Both sides go on with a result or fail with its error. -/
theorem ofExcept
    {α : Type}
    (result : Except Error α)
    (mayFail : ∀ error, result = .error error → error.IsEvaluation) :
    congruence.Related (Render.ofExcept result) (Render.ofExcept result) := by
  cases result with
  | ok value => exact congruence.pure value
  | error error =>
      exact congruence.throw (congruence.evaluation error (mayFail error rfl))

theorem ite
    {α : Type}
    {condition : Prop}
    [Decidable condition]
    {step whenFalse : Render σ α}
    {other otherWhenFalse : Render τ α}
    (related : congruence.Related step other)
    (relatedWhenFalse : congruence.Related whenFalse otherWhenFalse) :
    congruence.Related (if condition then step else whenFalse)
      (if condition then other else otherWhenFalse) := by
  split
  · exact related
  · exact relatedWhenFalse

mutual

/-- The evaluations of an expression are related. -/
theorem evaluate
    (expr : Expr)
    (mayFail : ∀ symbol ∈ expr.unknownOperators,
      congruence.MayFail (.unknownOperator symbol)) :
    congruence.Related (Render.evaluate first expr) (Render.evaluate second expr) := by
  cases expr with
  | string position text => exact congruence.pure _
  | number position value => exact congruence.pure _
  | boolean position value => exact congruence.pure _
  | null position => exact congruence.pure _
  | reference position name => exact congruence.resolve name
  | access position object property =>
      exact congruence.bind (congruence.resolve object) fun _ => congruence.pure _
  | call position function arguments =>
      simp only [Expr.unknownOperators] at mayFail
      apply congruence.call
      apply congruence.bind (evaluateAll arguments mayFail)
      intro values
      exact congruence.callHost function values position
  | unary position operator operand =>
      simp only [Expr.unknownOperators] at mayFail
      apply congruence.bind (evaluate operand mayFail)
      intro value
      exact congruence.pure _
  | binary position operator left right =>
      cases operator with
      | conjunction =>
          simp only [Expr.unknownOperators, List.forall_mem_append] at mayFail
          apply congruence.bind (evaluate left mayFail.1)
          intro value
          apply congruence.ite
          · apply congruence.bind (evaluate right mayFail.2)
            intro other
            exact congruence.pure _
          · exact congruence.pure _
      | disjunction =>
          simp only [Expr.unknownOperators, List.forall_mem_append] at mayFail
          apply congruence.bind (evaluate left mayFail.1)
          intro value
          apply congruence.ite
          · exact congruence.pure _
          · apply congruence.bind (evaluate right mayFail.2)
            intro other
            exact congruence.pure _
      | relation kind =>
          simp only [Expr.unknownOperators, List.forall_mem_append] at mayFail
          apply congruence.bind (evaluate left mayFail.1)
          intro value
          apply congruence.bind (evaluate right mayFail.2)
          intro other
          apply congruence.bind
          · exact congruence.ofExcept (kind.holds value other) fun _ failed =>
              (Relation.holds_error failed).isEvaluation
          · intro holds
            exact congruence.pure _
      | other symbol =>
          simp only [Expr.unknownOperators, List.forall_mem_cons,
            List.forall_mem_append] at mayFail
          apply congruence.bind (evaluate left mayFail.2.1)
          intro value
          apply congruence.bind (evaluate right mayFail.2.2)
          intro other
          apply congruence.bind
          · exact congruence.ofExcept (Operands.ofValues value other) fun _ failed =>
              (Operands.ofValues_error failed).isEvaluation
          · intro operands
            exact congruence.throw mayFail.1
  | unknown kind =>
      simp only [Render.evaluate, fail, ← congruence.source]
      exact congruence.throw (congruence.evaluation _ trivial)

/-- The evaluations of several expressions are related. -/
theorem evaluateAll
    (exprs : List Expr)
    (mayFail : ∀ symbol ∈ Expr.unknownOperatorsAll exprs,
      congruence.MayFail (.unknownOperator symbol)) :
    congruence.Related (Render.evaluateAll first exprs)
      (Render.evaluateAll second exprs) := by
  cases exprs with
  | nil => exact congruence.pure _
  | cons expr rest =>
      simp only [Expr.unknownOperatorsAll, List.forall_mem_append] at mayFail
      apply congruence.bind (evaluate expr mayFail.1)
      intro value
      apply congruence.bind (evaluateAll rest mayFail.2)
      intro values
      exact congruence.pure _

end

end EvaluationCongruence

namespace Congruence

variable {first : Environment σ} {second : Environment τ}
  (congruence : Congruence first second)

/-- The operators without a meaning among several expressions are failures that
may end a step. -/
def Covers (exprs : List Expr) : Prop :=
  ∀ expr ∈ exprs, ∀ symbol ∈ expr.unknownOperators,
    congruence.MayFail (.unknownOperator symbol)

/-- Loops are related if their bodies are. -/
theorem iterate
    {body : Render σ Unit}
    {otherBody : Render τ Unit}
    (related : congruence.Related body otherBody)
    (variableName : String)
    (total position : Nat)
    (items : List (Value × Value)) :
    congruence.Related
      (Render.iterate first.limits variableName total body position items)
      (Render.iterate second.limits variableName total otherBody position items) := by
  induction items generalizing position with
  | nil => exact congruence.pure _
  | cons item rest inductionHypothesis =>
      obtain ⟨index, element⟩ := item
      apply congruence.bind congruence.iteration
      intro _
      have iterated :=
        congruence.bind
          (congruence.scope
            (loopScope variableName element (loopValue index position total)) related)
          fun _ => inductionHypothesis (position + 1)
      simp only [bind_assoc] at iterated
      exact iterated

mutual

/-- The renders of a node are related. -/
theorem renderNode (node : Node) (covers : congruence.Covers node.expressions) :
    congruence.Related (Render.renderNode first node)
      (Render.renderNode second node) := by
  cases node with
  | text content => exact congruence.emit content
  | output expr =>
      simp only [Node.expressions, Covers, List.forall_mem_singleton] at covers
      apply congruence.bind (congruence.evaluate expr covers)
      intro value
      apply congruence.bind
      · exact congruence.ofExcept value.display fun _ failed =>
          (Value.display_error failed).isEvaluation
      · intro text
        exact congruence.emit _
  | rawOutput expr =>
      simp only [Node.expressions, Covers, List.forall_mem_singleton] at covers
      apply congruence.bind (congruence.evaluate expr covers)
      intro value
      apply congruence.bind
      · exact congruence.ofExcept value.display fun _ failed =>
          (Value.display_error failed).isEvaluation
      · intro text
        exact congruence.emit _
  | conditional condition body branches =>
      simp only [Node.expressions, Covers, List.forall_mem_cons,
        List.forall_mem_append] at covers
      apply congruence.block
      apply congruence.bind (congruence.evaluate condition covers.1)
      intro value
      apply congruence.ite
      · exact renderAll body covers.2.1
      · exact renderBranches branches covers.2.2
  | loop variableName iterable body =>
      simp only [Node.expressions, Covers, List.forall_mem_cons] at covers
      apply congruence.block
      apply congruence.bind (congruence.evaluate iterable covers.1)
      intro value
      exact congruence.iterate (renderAll body covers.2) _ _ _ _
  | unknown kind => exact congruence.throw (congruence.evaluation _ trivial)

/-- The renders of branches are related. -/
theorem renderBranches
    (branches : Branches)
    (covers : congruence.Covers branches.expressions) :
    congruence.Related (Render.renderBranches first branches)
      (Render.renderBranches second branches) := by
  cases branches with
  | done => exact congruence.pure _
  | elif condition body branches =>
      simp only [Branches.expressions, Covers, List.forall_mem_cons,
        List.forall_mem_append] at covers
      apply congruence.bind (congruence.evaluate condition covers.1)
      intro value
      apply congruence.ite
      · exact renderAll body covers.2.1
      · exact renderBranches branches covers.2.2
  | otherwise body => exact renderAll body covers

/-- The renders of several nodes are related. -/
theorem renderAll
    (nodes : List Node)
    (covers : congruence.Covers (Node.expressionsAll nodes)) :
    congruence.Related (Render.renderAll first nodes)
      (Render.renderAll second nodes) := by
  cases nodes with
  | nil => exact congruence.pure _
  | cons node rest =>
      simp only [Node.expressionsAll, Covers, List.forall_mem_append] at covers
      apply congruence.bind (renderNode node covers.1)
      intro _
      exact renderAll rest covers.2

end

end Congruence
end Render
end Templating
