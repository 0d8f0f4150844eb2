import Templating.Proofs.Render.Replay

/-!
# Every render replays its run

Each part of a render follows the run of the same part: it replays what happens
in the run, with the variables in scope and the counts of the session as the
surroundings. The proof has one rule for each way in which a render changes these
and changes them back: a block, a call and an iteration.
-/

namespace Templating
namespace Unbounded

variable {σ α β : Type} {limits : Limits}

/-- A step between two changes that undo each other, of which the first one moves
the session. -/
theorem mapState_bounded_move
    {blocks calls : Int}
    {scopes : List Scope → List Scope}
    {back : Session σ → Session σ}
    (undone : ∀ session, back (Session.move blocks calls scopes session) = session)
    (computation : Unbounded σ α)
    (session : Session σ) :
    mapState back
        (bounded limits computation (session.move blocks calls scopes)) =
      bounded limits computation session := by
  rw [bounded_move]
  cases bounded limits computation session with
  | ok value after => simp only [mapState, undone]
  | error failure after => simp only [mapState, undone]

/-- A recorded occurrence is charged before the computation goes on. -/
theorem bounded_record_bind
    (occurrence : Occurrence σ)
    (computation : Unbounded σ α)
    (session : Session σ) :
    bounded limits (do record occurrence; computation) session =
      match occurrence.charge limits session with
      | .ok _ after => bounded limits computation after
      | .error failure after => .error failure after := by
  rw [bounded_bind]
  simp only [bounded, record, replay, render_bind]
  cases occurrence.charge limits session <;> rfl

namespace Follows

variable {surroundings : Surroundings}

/-- A step behind a count that is taken back follows a computation behind the
occurrence that is counted. Counting moves the session, allowed or not. -/
private theorem counted
    {occurrence : Occurrence σ}
    {counting : Render σ Unit}
    {giving : Budget → Budget}
    {inner : Surroundings}
    {step : Render σ α}
    {computation : Unbounded σ α}
    (blocks calls : Int)
    (counts : ∀ session, surroundingsOf session = surroundings →
      (counting session = .ok () (session.move blocks calls id) ∧
          occurrence.charge limits session = .ok () session) ∨
        ∃ failure, counting session = .error failure (session.move blocks calls id) ∧
          occurrence.charge limits session =
            .error failure (session.move blocks calls id))
    (enters : ∀ session : Session σ, surroundingsOf session = surroundings →
      surroundingsOf (session.move blocks calls id) = inner)
    (gives : ∀ session : Session σ,
      { session.move blocks calls id with
        budget := giving (session.move blocks calls id).budget } = session)
    (inside : Follows limits inner step computation) :
    Follows limits surroundings
      (do
        counting
        tryFinally step (Render.release giving))
      (do
        record occurrence
        computation) := by
  intro session place
  rw [render_bind, bounded_record_bind]
  rcases counts session place with ⟨counted, charged⟩ | ⟨failure, counted, charged⟩
  · simp only [counted, charged, tryFinally_release]
    rw [inside _ (enters session place)]
    exact mapState_bounded_move gives computation session
  · simp only [counted, charged]

/-- A step in a block follows a computation in a block. -/
theorem block
    {step : Render σ α}
    {computation : Unbounded σ α}
    (inside : Follows limits surroundings.inBlock step computation) :
    Follows limits surroundings
      (do
        Render.charge (Budget.enterBlock limits)
        tryFinally step (Render.release Budget.exitBlock))
      (do
        record (.block (surroundings.blocks + 1))
        computation) := by
  refine counted 1 0 ?_ ?_ ?_ inside
  · rintro session rfl
    simp only [Budget.enterBlock, charge_spend, Occurrence.charge, surroundingsOf]
    by_cases allowed : session.budget.nestingDepth + 1 ≤ limits.nestingDepth
    · simp [allowed, Session.move]
    · simp [allowed, Session.move]
  · rintro session rfl
    simp [surroundingsOf, Session.move, Surroundings.inBlock]
  · intro session
    simp [Session.move, Budget.exitBlock]

/-- A step in a call follows a computation in a call. -/
theorem call
    {step : Render σ α}
    {computation : Unbounded σ α}
    (inside : Follows limits surroundings.inCall step computation) :
    Follows limits surroundings
      (do
        Render.charge (Budget.enterCall limits)
        tryFinally step (Render.release Budget.exitCall))
      (do
        record (.call (surroundings.calls + 1))
        computation) := by
  refine counted 0 1 ?_ ?_ ?_ inside
  · rintro session rfl
    simp only [Budget.enterCall, charge_spend, Occurrence.charge, surroundingsOf]
    by_cases allowed : session.budget.callDepth + 1 ≤ limits.callDepth
    · simp [allowed, Session.move]
    · simp [allowed, Session.move]
  · rintro session rfl
    simp [surroundingsOf, Session.move, Surroundings.inCall]
  · intro session
    simp [Session.move, Budget.exitCall]

/-- A step with further variables, and another step after they are gone, follow a
computation with these variables and another one after it. -/
theorem scope
    {scope : Scope}
    {step : Render σ α}
    {next : α → Render σ β}
    {computation : Unbounded σ α}
    {continuation : α → Unbounded σ β}
    (inside : Follows limits (surroundings.withScope scope) step computation)
    (after : ∀ value,
      Follows limits surroundings (next value) (continuation value)) :
    Follows limits surroundings
      (do
        Render.openScope scope
        let value ← tryFinally step Render.closeScope
        next value)
      (do
        let value ← computation
        continuation value) := by
  have entered : Follows limits surroundings
      (do
        Render.openScope scope
        tryFinally step Render.closeScope)
      computation := by
    rintro session rfl
    have opened : Render.openScope scope session =
        .ok () (session.move 0 0 (scope :: ·)) := by
      simp [Render.openScope, Session.move]
    have within : surroundingsOf (session.move 0 0 (scope :: ·)) =
        (surroundingsOf session).withScope scope := by
      simp [surroundingsOf, Session.move, Surroundings.withScope]
    rw [render_bind, opened]
    simp only [tryFinally_closeScope]
    rw [inside _ within]
    apply mapState_bounded_move
    intro other
    simp [Session.move]
  rw [← bind_assoc]
  exact bind entered after

/-- Looking a name up follows a pure computation. -/
theorem resolve (name : String) :
    Follows (σ := σ) limits surroundings (Render.resolve name)
      (Pure.pure (surroundings.lookup name)) := by
  rintro session rfl
  rfl

/-- A choice between steps follows the choice between computations. -/
theorem ite
    {condition : Prop}
    [Decidable condition]
    {first second : Render σ α}
    {firstRun secondRun : Unbounded σ α}
    (whenTrue : Follows limits surroundings first firstRun)
    (whenFalse : Follows limits surroundings second secondRun) :
    Follows limits surroundings (if condition then first else second)
      (if condition then firstRun else secondRun) := by
  split
  · exact whenTrue
  · exact whenFalse

/-- A counted iteration follows a recorded one. -/
theorem iteration :
    Follows (σ := σ) limits surroundings
      (Render.charge (Budget.countIteration limits)) (record .iteration) := by
  intro session _
  simp only [bounded, record, replay, render_bind, Occurrence.charge]
  cases Render.charge (Budget.countIteration limits) session <;> rfl

/-- An emitted piece follows a recorded one. -/
theorem emit (piece : Piece) :
    Follows (σ := σ) limits surroundings (Render.emit limits piece.text)
      (record (.emission piece)) := by
  intro session _
  simp only [bounded, record, replay, render_bind, Occurrence.charge]
  cases Render.emit limits piece.text session <;> rfl

/-- A function of the host leaves the same state and the same result. -/
theorem callHost
    (environment : Environment σ)
    (name : String)
    (arguments : List Value)
    (position : Int) :
    Follows limits surroundings
      (Render.callHost environment name arguments position)
      (Unbounded.callHost environment name arguments position) := by
  intro session _
  simp only [Render.callHost, Registry.call, bounded, Unbounded.callHost]
  cases environment.registry.find? name with
  | none => rfl
  | some function =>
      simp only
      cases function arguments
          { limits := environment.limits, position, source := environment.source }
          session.host with
      | ok value host => rfl
      | error failure host => cases failure <;> rfl

end Follows

variable (environment : Environment σ)

mutual

/-- Evaluating an expression follows its run. -/
theorem evaluate_follows (expr : Expr) (surroundings : Surroundings) :
    Follows environment.limits surroundings (Render.evaluate environment expr)
      (evaluate environment surroundings expr) := by
  cases expr with
  | string position text => exact Follows.pure _
  | number position value => exact Follows.pure _
  | boolean position value => exact Follows.pure _
  | null position => exact Follows.pure _
  | reference position name => exact Follows.resolve name
  | access position object property =>
      exact Follows.bind (Follows.resolve object) fun _ => Follows.pure _
  | call position function arguments =>
      apply Follows.call
      apply Follows.bind (evaluateAll_follows arguments surroundings.inCall)
      intro values
      exact Follows.callHost environment function values position
  | unary position operator operand =>
      apply Follows.bind (evaluate_follows operand surroundings)
      intro value
      exact Follows.pure _
  | binary position operator left right =>
      cases operator with
      | conjunction =>
          apply Follows.bind (evaluate_follows left surroundings)
          intro first
          apply Follows.ite
          · apply Follows.bind (evaluate_follows right surroundings)
            intro second
            exact Follows.pure _
          · exact Follows.pure _
      | disjunction =>
          apply Follows.bind (evaluate_follows left surroundings)
          intro first
          apply Follows.ite
          · exact Follows.pure _
          · apply Follows.bind (evaluate_follows right surroundings)
            intro second
            exact Follows.pure _
      | relation kind =>
          apply Follows.bind (evaluate_follows left surroundings)
          intro first
          apply Follows.bind (evaluate_follows right surroundings)
          intro second
          apply Follows.bind (Follows.ofExcept (kind.holds first second))
          intro holds
          exact Follows.pure _
      | other symbol =>
          apply Follows.bind (evaluate_follows left surroundings)
          intro first
          apply Follows.bind (evaluate_follows right surroundings)
          intro second
          apply Follows.bind (Follows.ofExcept (Operands.ofValues first second))
          intro operands
          exact Follows.throw _
  | unknown kind => exact Follows.throw _

/-- Evaluating several expressions follows their run. -/
theorem evaluateAll_follows (exprs : List Expr) (surroundings : Surroundings) :
    Follows environment.limits surroundings
      (Render.evaluateAll environment exprs)
      (evaluateAll environment surroundings exprs) := by
  cases exprs with
  | nil => exact Follows.pure _
  | cons expr rest =>
      apply Follows.bind (evaluate_follows expr surroundings)
      intro value
      apply Follows.bind (evaluateAll_follows rest surroundings)
      intro values
      exact Follows.pure _

end

/-- A loop follows the run of its iterations, if its body follows a run wherever
it stands. -/
theorem iterate_follows
    {surroundings : Surroundings}
    {body : Render σ Unit}
    {computation : Surroundings → Unbounded σ Unit}
    (variableName : String)
    (total position : Nat)
    (items : List (Value × Value))
    (bodyFollows : ∀ inside, Follows limits inside body (computation inside)) :
    Follows limits surroundings
      (Render.iterate limits variableName total body position items)
      (iterate surroundings variableName total computation position items) := by
  induction items generalizing position with
  | nil => exact Follows.pure _
  | cons item rest inductionHypothesis =>
      obtain ⟨index, element⟩ := item
      apply Follows.bind Follows.iteration
      intro _
      -- Leaving the scope of one iteration comes before the next one begins.
      apply Follows.scope (bodyFollows _)
      intro _
      exact inductionHypothesis (position + 1)

mutual

/-- Rendering a node follows its run. -/
theorem renderNode_follows (node : Node) (surroundings : Surroundings) :
    Follows environment.limits surroundings (Render.renderNode environment node)
      (renderNode environment node surroundings) := by
  cases node with
  | text content => exact Follows.emit (.literal content)
  | output expr =>
      apply Follows.bind (evaluate_follows environment expr surroundings)
      intro value
      apply Follows.bind (Follows.ofExcept value.display)
      intro displayed
      exact Follows.emit (.escaped expr value displayed)
  | rawOutput expr =>
      apply Follows.bind (evaluate_follows environment expr surroundings)
      intro value
      apply Follows.bind (Follows.ofExcept value.display)
      intro displayed
      exact Follows.emit (.raw expr value displayed)
  | conditional condition body branches =>
      apply Follows.block
      apply Follows.bind
        (evaluate_follows environment condition surroundings.inBlock)
      intro value
      apply Follows.ite
      · exact renderAll_follows body surroundings.inBlock
      · exact renderBranches_follows branches surroundings.inBlock
  | loop variableName iterable body =>
      apply Follows.block
      apply Follows.bind
        (evaluate_follows environment iterable surroundings.inBlock)
      intro value
      exact iterate_follows variableName _ 0 value.iterationItems
        fun inside => renderAll_follows body inside
  | unknown kind => exact Follows.throw _

/-- Rendering branches follows their run. -/
theorem renderBranches_follows (branches : Branches) (surroundings : Surroundings) :
    Follows environment.limits surroundings
      (Render.renderBranches environment branches)
      (renderBranches environment branches surroundings) := by
  cases branches with
  | done => exact Follows.pure _
  | elif condition body branches =>
      apply Follows.bind (evaluate_follows environment condition surroundings)
      intro value
      apply Follows.ite
      · exact renderAll_follows body surroundings
      · exact renderBranches_follows branches surroundings
  | otherwise body => exact renderAll_follows body surroundings

/-- Rendering nodes follows their run. -/
theorem renderAll_follows (nodes : List Node) (surroundings : Surroundings) :
    Follows environment.limits surroundings (Render.renderAll environment nodes)
      (renderAll environment nodes surroundings) := by
  cases nodes with
  | nil => exact Follows.pure _
  | cons node rest =>
      apply Follows.bind (renderNode_follows node surroundings)
      intro _
      exact renderAll_follows rest surroundings

end

end Unbounded
end Templating
