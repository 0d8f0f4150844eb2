import Templating.Render.Template

/-!
# What the steps of a render do to a session

Equations for the steps that a render is made of: a sequence, a use of the budget,
a piece of output, and a step after which something is given back.
-/

namespace Templating

/-- Change the state that a result leaves behind. -/
def mapState {ε τ α : Type} (change : τ → τ) :
    EStateM.Result ε τ α → EStateM.Result ε τ α
  | .ok value state => .ok value (change state)
  | .error failure state => .error failure (change state)

/-- The value or the failure of a result. -/
def outcomeOf {ε τ α : Type} : EStateM.Result ε τ α → Except ε α
  | .ok value _ => .ok value
  | .error failure _ => .error failure

/-- The state that a result leaves behind. -/
def stateAfter {ε τ α : Type} : EStateM.Result ε τ α → τ
  | .ok _ state => state
  | .error _ state => state

@[simp] theorem outcomeOf_mapState
    {ε τ α : Type}
    (change : τ → τ)
    (result : EStateM.Result ε τ α) :
    outcomeOf (mapState change result) = outcomeOf result := by
  cases result <;> rfl

@[simp] theorem stateAfter_mapState
    {ε τ α : Type}
    (change : τ → τ)
    (result : EStateM.Result ε τ α) :
    stateAfter (mapState change result) = change (stateAfter result) := by
  cases result <;> rfl

/-- Two results have the same outcome, and what they leave behind is related. -/
inductive SameOutcome {ε τ υ α : Type} (related : τ → υ → Prop) :
    EStateM.Result ε τ α → EStateM.Result ε υ α → Prop
  | ok
      {value : α}
      {state : τ}
      {other : υ}
      (after : related state other) :
      SameOutcome related (.ok value state) (.ok value other)
  | error
      {failure : ε}
      {state : τ}
      {other : υ}
      (after : related state other) :
      SameOutcome related (.error failure state) (.error failure other)

theorem SameOutcome.outcomeOf_eq
    {ε τ υ α : Type}
    {related : τ → υ → Prop}
    {result : EStateM.Result ε τ α}
    {other : EStateM.Result ε υ α}
    (same : SameOutcome related result other) :
    outcomeOf result = outcomeOf other := by
  cases same <;> rfl

variable {σ α β : Type}

@[simp] theorem Session.host_start (data : Scope) (host : σ) :
    (Session.start data host).host = host := rfl

/-- In a sequence the second step goes on where the first one ended. -/
theorem render_bind
    (first : Render σ α)
    (next : α → Render σ β)
    (session : Session σ) :
    (first >>= next) session =
      match first session with
      | .ok value after => next value after
      | .error failure after => .error failure after := by
  simp only [bind, EStateM.bind]
  cases first session <;> rfl

/-- Using some of the budget in a session. -/
theorem charge_spend
    (resource : Resource)
    (bound : Nat)
    (count : Budget → Int)
    (change : Budget → Budget)
    (session : Session σ) :
    Render.charge (Budget.spend resource bound count change) session =
      if count (change session.budget) ≤ bound then
        .ok () { session with budget := change session.budget }
      else
        .error
          (.error (.exhausted resource bound (count (change session.budget))))
          { session with budget := change session.budget } := by
  simp only [Render.charge, Budget.spend]
  split
  · next spent =>
      split at spent
      · next allowed =>
          cases spent
          rw [if_pos allowed]
      · cases spent
  · next spent =>
      split at spent
      · cases spent
      · next exceeded =>
          cases spent
          rw [if_neg exceeded]

/-- Emitting a piece in a session. -/
theorem emit_apply (limits : Limits) (text : String) (session : Session σ) :
    Render.emit limits text session =
      if session.budget.outputSize + text.utf8ByteSize ≤ limits.outputSize then
        .ok ()
          { session with
            budget :=
              { session.budget with
                outputSize := session.budget.outputSize + text.utf8ByteSize }
            pieces := text :: session.pieces }
      else
        .error
          (.error
            (.exhausted .outputSize limits.outputSize
              (session.budget.outputSize + text.utf8ByteSize)))
          { session with
            budget :=
              { session.budget with
                outputSize := session.budget.outputSize + text.utf8ByteSize } } := by
  refine (render_bind (Render.charge (Budget.addOutput limits text)) _ session).trans ?_
  rw [Budget.addOutput, Budget.addBytes, charge_spend]
  by_cases allowed :
      session.budget.outputSize + text.utf8ByteSize ≤ limits.outputSize
  · simp [allowed]
  · simp [allowed]

/-- What is given back at the end is given back on success and on failure. -/
theorem tryFinally_release
    (step : Render σ α)
    (giving : Budget → Budget)
    (session : Session σ) :
    tryFinally step (Render.release giving) session =
      mapState (fun after => { after with budget := giving after.budget })
        (step session) := by
  simp only [tryFinally, tryFinally', Render.release, Functor.map, EStateM.map]
  cases step session <;> rfl

/-- A scope is left on success and on failure. -/
theorem tryFinally_closeScope (step : Render σ α) (session : Session σ) :
    tryFinally step Render.closeScope session =
      mapState (fun after => { after with scopes := after.scopes.tail })
        (step session) := by
  simp only [tryFinally, tryFinally', Render.closeScope, Functor.map, EStateM.map]
  cases step session <;> rfl

/-- A template is rendered from a fresh session, and its output is that of the
session in the end. -/
theorem renderTemplate_start
    (environment : Environment σ)
    (data : Scope)
    (template : Template)
    (session : Session σ) :
    Render.renderTemplate environment data template session =
      match Render.renderAll environment template
          (Session.start data session.host) with
      | .ok _ final => .ok final.output final
      | .error failure final => .error failure final := by
  unfold Render.renderTemplate
  rw [render_bind]
  change (Render.renderAll environment template >>= _)
    (Session.start data session.host) = _
  rw [render_bind]
  cases Render.renderAll environment template
    (Session.start data session.host) <;> rfl

end Templating
