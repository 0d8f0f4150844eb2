import Templating.Proofs.Expr.Calls
import Templating.Proofs.Render.Steps
import Templating.Proofs.Render.Watching
import Templating.Proofs.Value.Failing

/-!
# Going through a watched render

A watched render and the render itself go through a template side by side. What relates
their steps relates them as wholes, when it holds of plain steps and of the calls of the
host and is kept by sequences, by what is done in the end, and by blocks. The relation
may depend on the number of blocks that a step enters one inside the other.
-/

namespace Templating

/-- An error that says that blocks are nested too deep. -/
def Error.IsNesting (error : Error) : Prop :=
  match error.cause with
  | .limit .nestingDepth _ _ => True
  | _ => False

/-- An error that says that a function is unknown while a template is rendered. -/
def Error.IsMissingFunction (error : Error) : Prop :=
  match error.cause with
  | .evaluation (.unknownFunction _) => True
  | _ => False

/-- A failure is an error of a kind. -/
def Failure.Says (kind : Error → Prop) : Failure → Prop
  | .error reason => kind reason
  | .unknownOperator _ => False

theorem Error.IsTooLarge.not_isNesting {error : Error} (tooLarge : error.IsTooLarge) :
    ¬error.IsNesting := by
  obtain ⟨cause, position, source⟩ := error
  cases cause with
  | limit resource bound actual => exact tooLarge.elim
  | _ => exact not_false

theorem Error.IsTooLarge.not_isMissingFunction
    {error : Error}
    (tooLarge : error.IsTooLarge) :
    ¬error.IsMissingFunction := by
  obtain ⟨cause, position, source⟩ := error
  cases cause with
  | evaluation cause =>
      cases cause with
      | unknownFunction name => exact tooLarge.elim
      | _ => exact not_false
  | _ => exact not_false

namespace Render

variable {σ α β : Type}

/-- A step that leaves the number of blocks as it is. When it fails, neither blocks are
nested too deep nor is a function unknown. -/
structure Plain (step : Render σ α) : Prop where
  blocks :
    ∀ session,
      (stateAfter (step session)).budget.nestingDepth = session.budget.nestingDepth
  failure :
    ∀ {session failure after},
      step session = .error failure after →
        ¬failure.Says Error.IsNesting ∧ ¬failure.Says Error.IsMissingFunction

namespace Plain

theorem pure (value : α) : Plain (Pure.pure value : Render σ α) where
  blocks _ := rfl
  failure stopped := by cases stopped

theorem resolve (name : String) : Plain (σ := σ) (Render.resolve name) where
  blocks _ := rfl
  failure stopped := by cases stopped

theorem openScope (scope : Scope) : Plain (σ := σ) (Render.openScope scope) where
  blocks _ := rfl
  failure stopped := by cases stopped

theorem closeScope : Plain (σ := σ) Render.closeScope where
  blocks _ := rfl
  failure stopped := by cases stopped

theorem exitCall : Plain (σ := σ) (Render.release Budget.exitCall) where
  blocks _ := rfl
  failure stopped := by cases stopped

theorem fail
    {error : Error}
    (depth : ¬error.IsNesting)
    (function : ¬error.IsMissingFunction) :
    Plain (Render.fail error : Render σ α) where
  blocks _ := rfl
  failure stopped := by
    cases stopped
    exact ⟨depth, function⟩

theorem ofExcept
    {result : Except Error α}
    (mayFail : ∀ {error}, result = .error error → error.IsTooLarge) :
    Plain (σ := σ) (Render.ofExcept result) := by
  cases result with
  | ok value => exact .pure value
  | error error =>
      have tooLarge := mayFail rfl
      exact .fail tooLarge.not_isNesting tooLarge.not_isMissingFunction

/-- The operands are compared and then the operator is found to have no meaning. -/
theorem applyUnknown (symbol : String) (left right : Value) :
    Plain (σ := σ) (Render.applyUnknown symbol left right) := by
  unfold Render.applyUnknown
  cases operands : Operands.ofValues left right with
  | ok found =>
      exact {
        blocks := fun _ => rfl
        failure := fun stopped => by
          cases stopped
          exact ⟨not_false, not_false⟩ }
  | error error =>
      have tooLarge := Operands.ofValues_error operands
      exact {
        blocks := fun _ => rfl
        failure := fun stopped => by
          cases stopped
          exact ⟨tooLarge.not_isNesting, tooLarge.not_isMissingFunction⟩ }

/-- Only the number of blocks is compared with the limit for blocks. -/
theorem charge
    {resource : Resource}
    {bound : Nat}
    {count : Budget → Int}
    {change : Budget → Budget}
    (other : resource ≠ .nestingDepth)
    (keeps : ∀ budget, (change budget).nestingDepth = budget.nestingDepth) :
    Plain (σ := σ) (Render.charge (Budget.spend resource bound count change)) where
  blocks session := by
    rw [charge_spend]
    split
    all_goals exact keeps session.budget
  failure {session _ _} stopped := by
    rw [charge_spend] at stopped
    split at stopped
    · cases stopped
    · cases stopped
      refine ⟨fun nesting => ?_, not_false⟩
      cases resource with
      | nestingDepth => exact other rfl
      | _ => exact nesting

theorem enterCall (limits : Limits) :
    Plain (σ := σ) (Render.charge (Budget.enterCall limits)) :=
  .charge (by simp) fun _ => rfl

theorem countIteration (limits : Limits) :
    Plain (σ := σ) (Render.charge (Budget.countIteration limits)) :=
  .charge (by simp) fun _ => rfl

theorem emit (limits : Limits) (text : String) :
    Plain (σ := σ) (Render.emit limits text) where
  blocks session := by
    rw [emit_apply]
    split
    all_goals rfl
  failure {session _ _} stopped := by
    rw [emit_apply] at stopped
    split at stopped
    · cases stopped
    · cases stopped
      exact ⟨not_false, not_false⟩

end Plain
end Render

namespace Watched

open Render (Plain)

variable {σ α β : Type}

/-- A relation between the steps of a watched render and those of the render, for steps
that enter at most so many blocks one inside the other. -/
structure Traversal (environment : Environment σ) where
  Related : {α : Type} → (height : Nat) → Watched σ α → Render σ α → Prop
  /-- The names under which functions may be called. -/
  MayCall : String → Prop
  pure : ∀ {α : Type} (value : α), Related 0 (Pure.pure value) (Pure.pure value)
  look : ∀ {α : Type} {step : Render σ α}, Plain step →
    Related 0 (Watched.look .render step) step
  callHost : ∀ name arguments position, MayCall name →
    Related 0 (Watched.callHost environment name arguments position)
      (Render.callHost environment name arguments position)
  bind : ∀ {α β : Type} {height : Nat} {watched : Watched σ α} {step : Render σ α}
    {watchedNext : α → Watched σ β} {next : α → Render σ β},
    Related height watched step →
      (∀ value, Related height (watchedNext value) (next value)) →
        Related height (watched >>= watchedNext) (step >>= next)
  /-- A plain step in the end, on success and on failure. -/
  ends : ∀ {α : Type} {height : Nat} {watched : Watched σ α} {step : Render σ α}
    {last : Render σ Unit},
    Plain last → Related height watched step →
      Related height (tryFinally watched (Watched.look .render last))
        (tryFinally step last)
  block : ∀ {α : Type} {height : Nat} {watched : Watched σ α} {step : Render σ α},
    Related height watched step →
      Related (height + 1)
        (do
          Watched.look .render (Render.charge (Budget.enterBlock environment.limits))
          tryFinally watched (Watched.look .render (Render.release Budget.exitBlock)))
        (do
          Render.charge (Budget.enterBlock environment.limits)
          tryFinally step (Render.release Budget.exitBlock))
  /-- A step may enter fewer blocks. -/
  weaken : ∀ {α : Type} {height more : Nat} {watched : Watched σ α} {step : Render σ α},
    height ≤ more → Related height watched step → Related more watched step

namespace Traversal

variable {environment : Environment σ} (traversal : Traversal environment)

/-- The functions that are called in expressions may be called. -/
def Covers (exprs : List Expr) : Prop :=
  ∀ expr ∈ exprs, ∀ site ∈ expr.calls, traversal.MayCall site.function

/-- What holds without blocks holds with any number of them. -/
theorem flat
    {α : Type}
    {watched : Watched σ α}
    {step : Render σ α}
    (related : traversal.Related 0 watched step)
    (height : Nat) :
    traversal.Related height watched step :=
  traversal.weaken (Nat.zero_le height) related

theorem ite
    {α : Type}
    {height : Nat}
    {condition : Prop}
    [Decidable condition]
    {watched watchedWhenFalse : Watched σ α}
    {step whenFalse : Render σ α}
    (related : traversal.Related height watched step)
    (relatedWhenFalse : traversal.Related height watchedWhenFalse whenFalse) :
    traversal.Related height (if condition then watched else watchedWhenFalse)
      (if condition then step else whenFalse) := by
  split
  · exact related
  · exact relatedWhenFalse

mutual

/-- The evaluations of an expression are related. -/
theorem evaluate
    (expr : Expr)
    (mayCall : ∀ site ∈ expr.calls, traversal.MayCall site.function) :
    traversal.Related 0 (Watched.evaluate environment expr)
      (Render.evaluate environment expr) := by
  cases expr with
  | string position text => exact traversal.pure _
  | number position value => exact traversal.pure _
  | boolean position value => exact traversal.pure _
  | null position => exact traversal.pure _
  | reference position name => exact traversal.look (.resolve name)
  | access position object property =>
      exact traversal.bind (traversal.look (.resolve object)) fun _ => traversal.pure _
  | call position function arguments =>
      simp only [Expr.calls, List.forall_mem_cons] at mayCall
      apply traversal.bind (traversal.look (.enterCall environment.limits))
      intro _
      apply traversal.ends .exitCall
      apply traversal.bind (evaluateAll arguments mayCall.2)
      intro values
      exact traversal.callHost function values position mayCall.1
  | unary position operator operand =>
      apply traversal.bind (evaluate operand mayCall)
      intro value
      exact traversal.pure _
  | binary position operator left right =>
      simp only [Expr.calls, List.forall_mem_append] at mayCall
      cases operator with
      | conjunction =>
          apply traversal.bind (evaluate left mayCall.1)
          intro value
          apply traversal.ite
          · apply traversal.bind (evaluate right mayCall.2)
            intro other
            exact traversal.pure _
          · exact traversal.pure _
      | disjunction =>
          apply traversal.bind (evaluate left mayCall.1)
          intro value
          apply traversal.ite
          · exact traversal.pure _
          · apply traversal.bind (evaluate right mayCall.2)
            intro other
            exact traversal.pure _
      | relation kind =>
          apply traversal.bind (evaluate left mayCall.1)
          intro value
          apply traversal.bind (evaluate right mayCall.2)
          intro other
          apply traversal.bind (traversal.look (.ofExcept Relation.holds_error))
          intro holds
          exact traversal.pure _
      | other symbol =>
          apply traversal.bind (evaluate left mayCall.1)
          intro value
          apply traversal.bind (evaluate right mayCall.2)
          intro other
          exact traversal.look (.applyUnknown symbol value other)
  | unknown kind => refine traversal.look (.fail ?_ ?_) <;> exact not_false

/-- The evaluations of several expressions are related. -/
theorem evaluateAll
    (exprs : List Expr)
    (mayCall : ∀ site ∈ Expr.callsAll exprs, traversal.MayCall site.function) :
    traversal.Related 0 (Watched.evaluateAll environment exprs)
      (Render.evaluateAll environment exprs) := by
  cases exprs with
  | nil => exact traversal.pure _
  | cons expr rest =>
      simp only [Expr.callsAll, List.forall_mem_append] at mayCall
      apply traversal.bind (evaluate expr mayCall.1)
      intro value
      apply traversal.bind (evaluateAll rest mayCall.2)
      intro values
      exact traversal.pure _

end

/-- Loops are related if their bodies are. -/
theorem iterate
    {height : Nat}
    {watched : Watched σ Unit}
    {body : Render σ Unit}
    (related : traversal.Related height watched body)
    (variableName : String)
    (total position : Nat)
    (items : List (Value × Value)) :
    traversal.Related height
      (Watched.iterate environment.limits variableName total watched position items)
      (Render.iterate environment.limits variableName total body position items) := by
  induction items generalizing position with
  | nil => exact traversal.flat (traversal.pure _) height
  | cons item rest inductionHypothesis =>
      obtain ⟨index, element⟩ := item
      apply traversal.bind
        (traversal.flat (traversal.look (.countIteration environment.limits)) height)
      intro _
      apply traversal.bind (traversal.flat (traversal.look (.openScope _)) height)
      intro _
      apply traversal.bind (traversal.ends .closeScope related)
      intro _
      exact inductionHypothesis (position + 1)

mutual

/-- The renders of a node are related. -/
theorem renderNode (node : Node) (covers : traversal.Covers node.expressions) :
    traversal.Related node.blockDepth (Watched.renderNode environment node)
      (Render.renderNode environment node) := by
  cases node with
  | text content => exact traversal.look (.emit _ content)
  | output expr =>
      simp only [Node.expressions, Covers, List.forall_mem_singleton] at covers
      apply traversal.bind (traversal.evaluate expr covers)
      intro value
      apply traversal.bind (traversal.look (.ofExcept Value.display_error))
      intro text
      exact traversal.look (.emit _ _)
  | rawOutput expr =>
      simp only [Node.expressions, Covers, List.forall_mem_singleton] at covers
      apply traversal.bind (traversal.evaluate expr covers)
      intro value
      apply traversal.bind (traversal.look (.ofExcept Value.display_error))
      intro text
      exact traversal.look (.emit _ _)
  | conditional condition body branches =>
      simp only [Node.expressions, Covers, List.forall_mem_cons,
        List.forall_mem_append] at covers
      rw [Node.blockDepth, Nat.add_comm]
      apply traversal.block
      apply traversal.bind (traversal.flat (traversal.evaluate condition covers.1) _)
      intro value
      apply traversal.ite
      · exact traversal.weaken (Nat.le_max_left _ _) (renderAll body covers.2.1)
      · exact traversal.weaken (Nat.le_max_right _ _) (renderBranches branches covers.2.2)
  | loop variableName iterable body =>
      simp only [Node.expressions, Covers, List.forall_mem_cons] at covers
      rw [Node.blockDepth, Nat.add_comm]
      apply traversal.block
      apply traversal.bind (traversal.flat (traversal.evaluate iterable covers.1) _)
      intro value
      exact traversal.iterate (renderAll body covers.2) _ _ _ _
  | unknown kind => refine traversal.look (.fail ?_ ?_) <;> exact not_false

/-- The renders of branches are related. -/
theorem renderBranches
    (branches : Branches)
    (covers : traversal.Covers branches.expressions) :
    traversal.Related branches.blockDepth (Watched.renderBranches environment branches)
      (Render.renderBranches environment branches) := by
  cases branches with
  | done => exact traversal.pure _
  | elif condition body branches =>
      simp only [Branches.expressions, Covers, List.forall_mem_cons,
        List.forall_mem_append] at covers
      apply traversal.bind (traversal.flat (traversal.evaluate condition covers.1) _)
      intro value
      apply traversal.ite
      · exact traversal.weaken (Nat.le_max_left _ _) (renderAll body covers.2.1)
      · exact traversal.weaken (Nat.le_max_right _ _) (renderBranches branches covers.2.2)
  | otherwise body => exact renderAll body covers

/-- The renders of several nodes are related. -/
theorem renderAll
    (nodes : List Node)
    (covers : traversal.Covers (Node.expressionsAll nodes)) :
    traversal.Related (Node.blockDepthAll nodes) (Watched.renderAll environment nodes)
      (Render.renderAll environment nodes) := by
  cases nodes with
  | nil => exact traversal.pure _
  | cons node rest =>
      simp only [Node.expressionsAll, Covers, List.forall_mem_append] at covers
      apply traversal.bind
        (traversal.weaken (Nat.le_max_left _ _) (renderNode node covers.1))
      intro _
      exact traversal.weaken (Nat.le_max_right _ _) (renderAll rest covers.2)

end

end Traversal

/-- What a watched step comes to, apart from what was seen. -/
def forget :
    EStateM.Result Mishap (Watch σ) α → EStateM.Result Failure (Session σ) α
  | .ok value watch => .ok value watch.session
  | .error mishap watch => .error mishap.failure watch.session

/-- In a sequence the second step goes on where the first one ended. -/
theorem bind_apply
    (first : Watched σ α)
    (next : α → Watched σ β)
    (watch : Watch σ) :
    (first >>= next) watch =
      match first watch with
      | .ok value after => next value after
      | .error mishap after => .error mishap after := by
  simp only [bind, EStateM.bind]
  cases first watch <;> rfl

/-- What is done in the end is done on success and on failure. -/
theorem tryFinally_apply
    {ε τ : Type}
    (step : EStateM ε τ α)
    (last : EStateM ε τ Unit)
    (state : τ) :
    tryFinally step last state =
      match last (stateAfter (step state)) with
      | .ok _ after => mapState (fun _ => after) (step state)
      | .error failure after => .error failure after := by
  simp only [tryFinally, tryFinally', Functor.map, EStateM.map]
  cases step state with
  | ok value after =>
      simp only [stateAfter, mapState]
      cases last after <;> rfl
  | error failure after =>
      simp only [stateAfter, mapState]
      cases last after <;> rfl

/-- A watched step is the step itself when what was seen is forgotten. -/
def Forgets (watched : Watched σ α) (step : Render σ α) : Prop :=
  ∀ watch, forget (watched watch) = step watch.session

namespace Forgets

theorem look (origin : Origin) (step : Render σ α) :
    Forgets (Watched.look origin step) step := by
  intro watch
  unfold Watched.look
  cases step watch.session <;> rfl

theorem bind
    {watched : Watched σ α}
    {step : Render σ α}
    {watchedNext : α → Watched σ β}
    {next : α → Render σ β}
    (first : Forgets watched step)
    (second : ∀ value, Forgets (watchedNext value) (next value)) :
    Forgets (watched >>= watchedNext) (step >>= next) := by
  intro watch
  rw [bind_apply, render_bind, ← first watch]
  cases watched watch with
  | ok value after => exact second value after
  | error mishap after => rfl

theorem ends
    {watched : Watched σ α}
    {step : Render σ α}
    (forgets : Forgets watched step)
    (last : Render σ Unit) :
    Forgets (tryFinally watched (Watched.look .render last)) (tryFinally step last) := by
  intro watch
  rw [tryFinally_apply, tryFinally_apply, ← forgets watch]
  cases watched watch with
  | ok value after =>
      simp only [stateAfter, forget, Watched.look]
      cases last after.session <;> rfl
  | error mishap after =>
      simp only [stateAfter, forget, Watched.look]
      cases last after.session <;> rfl

end Forgets

/-- Watching changes nothing about a render. -/
def forgetting (environment : Environment σ) : Traversal environment where
  Related _ watched step := Forgets watched step
  MayCall _ := True
  pure _ _ := rfl
  look _ := .look .render _
  callHost _ _ _ _ := .look _ _
  bind := .bind
  ends _ forgets := forgets.ends _
  block forgets := (Forgets.look .render _).bind fun _ => forgets.ends _
  weaken _ forgets := forgets

/-- A watched render of a template is the render of the template. -/
theorem forgets_renderTemplate
    (environment : Environment σ)
    (data : Scope)
    (template : Template) :
    Forgets (renderTemplate environment data template)
      (Render.renderTemplate environment data template) := by
  apply Forgets.bind (.look .render _)
  intro _
  apply Forgets.bind ((forgetting environment).renderAll template fun _ _ _ _ => trivial)
  intro _ watch
  rfl

end Watched
end Templating
