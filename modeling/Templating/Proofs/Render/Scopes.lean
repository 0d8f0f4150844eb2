import Templating.Proofs.Render.Congruence
import Templating.Proofs.Render.History

/-!
# The variables that a render leaves in scope

A loop brings its variables into scope for each iteration. Whatever ends the iteration,
they are out of scope behind it, so every node leaves the variables in scope that it
found. Between the requests of a host these are the data of the template and nothing
else, also after renders that failed inside of loops.
-/

namespace Templating
namespace Render

variable {σ τ α β : Type}

/-- A step leaves the variables in scope that it finds, on success and on failure. -/
def RestoresScopes (step : Render σ α) : Prop :=
  ∀ session, (stateAfter (step session)).scopes = session.scopes

namespace RestoresScopes

theorem bind
    {step : Render σ α}
    {next : α → Render σ β}
    (restores : RestoresScopes step)
    (nextRestores : ∀ value, RestoresScopes (next value)) :
    RestoresScopes (step >>= next) := by
  intro session
  have here := restores session
  rw [render_bind]
  generalize step session = result at here
  cases result with
  | ok value after => exact (nextRestores value after).trans here
  | error failure after => exact here

theorem charge (spending : EStateM Error Budget Unit) :
    RestoresScopes (σ := σ) (Render.charge spending) := by
  intro session
  unfold Render.charge
  cases spending session.budget <;> rfl

/-- Giving back in the end touches no variables. -/
theorem release
    {step : Render σ α}
    (restores : RestoresScopes step)
    (giving : Budget → Budget) :
    RestoresScopes (tryFinally step (Render.release giving)) := by
  intro session
  rw [tryFinally_release, stateAfter_mapState]
  exact restores session

/-- The scope of an iteration is closed in the end, and the step in it has left the others
as they were. -/
theorem scope
    {step : Render σ α}
    (restores : RestoresScopes step)
    (scope : Scope) :
    RestoresScopes (do
      openScope scope
      tryFinally step closeScope) := by
  intro session
  rw [render_bind]
  simp only [openScope]
  rw [tryFinally_closeScope, stateAfter_mapState]
  exact congrArg List.tail (restores _)

theorem emit (limits : Limits) (text : String) :
    RestoresScopes (σ := σ) (Render.emit limits text) :=
  bind (charge _) fun _ _ => rfl

/-- The functions of the host do not see the variables. -/
theorem callHost
    (environment : Environment σ)
    (name : String)
    (arguments : List Value)
    (position : Int) :
    RestoresScopes (Render.callHost environment name arguments position) := by
  intro session
  unfold Render.callHost
  dsimp only
  split <;> rfl

end RestoresScopes

/-- Every render restores the variables in scope, whatever it is compared with. -/
def restoringCongruence
    (environment : Environment σ)
    {other : Environment τ}
    (sameSource : environment.source = other.source) :
    Congruence environment other where
  Related step _ := RestoresScopes step
  MayFail _ := True
  source := sameSource
  evaluation _ _ := trivial
  pure _ _ := rfl
  throw _ _ := rfl
  bind restores nextRestores := restores.bind nextRestores
  resolve _ _ := rfl
  callHost := RestoresScopes.callHost environment
  call restores := (RestoresScopes.charge _).bind fun _ => restores.release _
  iteration := RestoresScopes.charge _
  emit := RestoresScopes.emit environment.limits
  block restores := (RestoresScopes.charge _).bind fun _ => restores.release _
  scope scope _ _ _ restores := restores.scope scope

variable (environment : Environment σ)

theorem evaluate_restoresScopes (expr : Expr) :
    RestoresScopes (evaluate environment expr) :=
  (restoringCongruence environment rfl).evaluate expr fun _ _ => trivial

theorem renderNode_restoresScopes (node : Node) :
    RestoresScopes (renderNode environment node) :=
  (restoringCongruence environment rfl).renderNode node fun _ _ _ _ => trivial

theorem renderAll_restoresScopes (nodes : List Node) :
    RestoresScopes (renderAll environment nodes) :=
  (restoringCongruence environment rfl).renderAll nodes fun _ _ _ _ => trivial

end Render

variable {σ : Type}

/-- A session that a host keeps for a template's data. It asks for renders and
evaluations in any order, with whatever functions and limits there are at that time, and
in between it changes its own state. -/
inductive Session.Kept (data : Scope) : Session σ → Prop
  | start (host : σ) : Kept data (Session.start data host)
  | request
      {session : Session σ}
      (kept : Kept data session)
      (environment : Environment σ)
      (request : Request) :
      Kept data (stateAfter (request.perform environment data session))
  | host {session : Session σ} (kept : Kept data session) (host : σ) :
      Kept data { session with host }

/-- A request leaves the data of the template as the only variables, if it finds them so
or renders. -/
theorem Request.perform_scopes
    (environment : Environment σ)
    (data : Scope)
    (request : Request)
    {session : Session σ}
    (only : session.scopes = [data]) :
    (stateAfter (request.perform environment data session)).scopes = [data] := by
  cases request with
  | evaluate expr =>
      have restores :
          Render.RestoresScopes (Request.perform environment data (.evaluate expr)) :=
        (Render.evaluate_restoresScopes environment expr).bind fun _ _ => rfl
      exact (restores session).trans only
  | render template =>
      have restores := Render.renderAll_restoresScopes environment template
        (Session.start data session.host)
      rw [Request.perform, render_bind, renderTemplate_start]
      generalize Render.renderAll environment template _ = result at restores ⊢
      cases result <;> exact restores

/-- Between requests only the data of the template is in scope. -/
theorem Session.Kept.scopes_eq
    {data : Scope}
    {session : Session σ}
    (kept : session.Kept data) :
    session.scopes = [data] := by
  induction kept with
  | start host => rfl
  | request kept environment request inductionHypothesis =>
      exact request.perform_scopes environment data inductionHypothesis
  | host kept host inductionHypothesis => exact inductionHypothesis

/-- However the render of a node ends, the variables in scope are those in which it began.
So between requests only the data is in scope, and a name means what it means in the data,
also when it is the variable of a loop that an earlier render failed in. -/
theorem scopes_restored :
    (∀ (environment : Environment σ) (node : Node) (session : Session σ),
        (stateAfter (Render.renderNode environment node session)).scopes =
          session.scopes) ∧
      ∀ (data : Scope) (session : Session σ),
        session.Kept data →
          session.scopes = [data] ∧
            ∀ (environment : Environment σ) (position : Int) (name : String),
              Render.evaluate environment (.reference position name) session =
                .ok ((data.find? name).getD .null) session := by
  refine ⟨fun environment node => Render.renderNode_restoresScopes environment node,
    fun data session kept => ⟨kept.scopes_eq, fun environment position name => ?_⟩⟩
  rw [Render.evaluate, Render.resolve, kept.scopes_eq, Session.lookup]
  cases found : data.find? name <;> simp [found]

/-- A node without a meaning stops a render in a loop. Behind it the variable of the loop
means nothing. -/
theorem scopes_restored_in_loop :
    let loop := Node.loop "x" (.string 0 "a") [.unknown "Weird"]
    let session :=
      stateAfter ((Request.render [loop]).perform identityOnce [] (Session.start [] ()))
    session.Kept [] ∧
      outcomeOf (Render.renderNode identityOnce loop (Session.start [] ())) =
        .error (.error (.evaluation (.unknownNode "Weird") none none)) ∧
      session.scopes = [[]] ∧
      Render.evaluate identityOnce (.reference 0 "x") session = .ok .null session := by
  intro loop session
  have kept : session.Kept [] := (Session.Kept.start ()).request identityOnce _
  obtain ⟨only, means⟩ := scopes_restored.2 [] session kept
  exact ⟨kept, rfl, only, means identityOnce 0 "x"⟩

end Templating
