import Templating.Proofs.Render.Congruence
import Templating.Proofs.Render.Steps

/-!
# What an expression depends on

The value of an expression depends on the variables in scope and on the number of
calls in progress. Whatever else is in a session does not show in it, as long as the
functions of the host answer without regard to the state of the host.
-/

namespace Templating

variable {σ α β : Type}

/-- The answers of the functions depend on the arguments and the circumstances of a
call only. -/
def Registry.IsStateless (registry : Registry σ) : Prop :=
  ∀ name function, registry.find? name = some function →
    ∀ (arguments : List Value) (context : CallContext) (host other : σ),
      outcomeOf (function arguments context host) =
        outcomeOf (function arguments context other)

/-- A registry with a single function, which gives its first argument. -/
def Registry.identity : Registry Unit :=
  empty.insert "id" (fun arguments _ => pure (arguments.head?.getD .null)) (by decide)

theorem Registry.eq_of_find?_identity
    {name : String}
    {function : HostFunction Unit}
    (found : identity.find? name = some function) :
    function = fun arguments _ => pure (arguments.head?.getD .null) := by
  simp only [identity, find?_insert, find?_empty] at found
  split at found
  · exact (Option.some.inj found).symm
  · cases found

theorem Registry.identity_isStateless : identity.IsStateless := by
  intro name function found arguments context host other
  rw [eq_of_find?_identity found]

/-- Sessions with the same variables in scope and as many calls in progress. -/
structure Session.Alike (session other : Session σ) : Prop where
  scopes : session.scopes = other.scopes
  callDepth : session.budget.callDepth = other.budget.callDepth

/-- Two steps do the same in sessions that are alike, and leave such sessions
behind. -/
def Indifferent (step other : Render σ α) : Prop :=
  ∀ session similar : Session σ, session.Alike similar →
    SameOutcome Session.Alike (step session) (other similar)

namespace Indifferent

theorem pure (value : α) :
    Indifferent (σ := σ) (Pure.pure value) (Pure.pure value) :=
  fun _ _ alike => .ok alike

theorem throw (failure : Failure) :
    Indifferent (σ := σ) (α := α) (MonadExcept.throw failure)
      (MonadExcept.throw failure) :=
  fun _ _ alike => .error alike

theorem resolve (name : String) :
    Indifferent (σ := σ) (Render.resolve name) (Render.resolve name) := by
  intro session similar alike
  have same : Session.lookup session.scopes name = Session.lookup similar.scopes name := by
    rw [alike.scopes]
  simp only [Render.resolve, same]
  exact .ok alike

theorem bind
    {step other : Render σ α}
    {next otherNext : α → Render σ β}
    (first : Indifferent step other)
    (second : ∀ value, Indifferent (next value) (otherNext value)) :
    Indifferent (step >>= next) (other >>= otherNext) := by
  intro session similar alike
  rw [render_bind, render_bind]
  have here := first session similar alike
  generalize step session = result at here
  generalize other similar = otherResult at here
  cases here with
  | ok after => exact second _ _ _ after
  | error after => exact .error after

/-- Only the number of calls decides whether a call begins, and the call ends as it
began. -/
theorem call
    (limits : Limits)
    {step other : Render σ α}
    (related : Indifferent step other) :
    Indifferent
      (do
        Render.charge (Budget.enterCall limits)
        tryFinally step (Render.release Budget.exitCall))
      (do
        Render.charge (Budget.enterCall limits)
        tryFinally other (Render.release Budget.exitCall)) := by
  apply bind
  · intro session similar alike
    rw [Budget.enterCall, charge_spend, charge_spend]
    simp only [alike.callDepth]
    split
    · exact .ok ⟨alike.scopes, rfl⟩
    · exact .error ⟨alike.scopes, rfl⟩
  · intro _ session similar alike
    rw [tryFinally_release, tryFinally_release]
    have here := related session similar alike
    generalize step session = result at here ⊢
    generalize other similar = otherResult at here ⊢
    cases here with
    | ok after =>
        exact .ok ⟨after.scopes, by simp only [Budget.exitCall, after.callDepth]⟩
    | error after =>
        exact .error ⟨after.scopes, by simp only [Budget.exitCall, after.callDepth]⟩

theorem callHost
    {environment : Environment σ}
    (stateless : environment.registry.IsStateless)
    (name : String)
    (arguments : List Value)
    (position : Int) :
    Indifferent (Render.callHost environment name arguments position)
      (Render.callHost environment name arguments position) := by
  intro session similar alike
  simp only [Render.callHost, Registry.call]
  cases found : environment.registry.find? name with
  | none => exact .error alike
  | some function =>
      have same := stateless name function found arguments
        { limits := environment.limits, position, source := environment.source }
        session.host similar.host
      dsimp only
      generalize function arguments _ session.host = result at same ⊢
      generalize function arguments _ similar.host = other at same ⊢
      cases result with
      | ok value host =>
          cases other with
          | ok otherValue otherHost =>
              cases same
              exact .ok ⟨alike.scopes, alike.callDepth⟩
          | error otherFailure otherHost => cases same
      | error failure host =>
          cases other with
          | ok otherValue otherHost => cases same
          | error otherFailure otherHost =>
              cases same
              cases failure with
              | error error => exact .error ⟨alike.scopes, alike.callDepth⟩
              | exception text => exact .error ⟨alike.scopes, alike.callDepth⟩

end Indifferent

/-- Expressions cannot tell sessions apart that are alike. -/
def indifferentCongruence
    {environment : Environment σ}
    (stateless : environment.registry.IsStateless) :
    Render.EvaluationCongruence environment environment where
  Related := Indifferent
  MayFail _ := True
  source := rfl
  evaluation _ _ := trivial
  pure := Indifferent.pure
  throw _ := Indifferent.throw _
  bind := Indifferent.bind
  resolve := Indifferent.resolve
  callHost := Indifferent.callHost stateless
  call := Indifferent.call environment.limits

/-- An expression has the same value or failure in sessions that are alike. -/
theorem outcomeOf_evaluate
    {environment : Environment σ}
    (stateless : environment.registry.IsStateless)
    (expr : Expr)
    {session similar : Session σ}
    (alike : session.Alike similar) :
    outcomeOf (Render.evaluate environment expr session) =
      outcomeOf (Render.evaluate environment expr similar) :=
  ((indifferentCongruence stateless).evaluate expr (fun _ _ => trivial) session similar
    alike).outcomeOf_eq

end Templating
