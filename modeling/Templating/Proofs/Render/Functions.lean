import Templating.Proofs.Render.Nesting

/-!
# Unknown functions during a render

A render fails because of an unknown function only at a call of one. When the functions
that a template calls are all there, no render of it fails so, unless a function of the
host fails with such an error of its own.
-/

namespace Templating
namespace Watched

open Render (Plain)

variable {σ α β : Type}

/-- A watched step does not fail in the render because of an unknown function. -/
def FindsFunctions (watched : Watched σ α) : Prop :=
  ∀ watch mishap after,
    watched watch = .error mishap after →
      mishap.origin = .render → ¬mishap.failure.Says Error.IsMissingFunction

namespace FindsFunctions

theorem look
    {step : Render σ α}
    (failure :
      ∀ {session reason after},
        step session = .error reason after → ¬reason.Says Error.IsMissingFunction) :
    FindsFunctions (Watched.look .render step) := by
  intro watch mishap after failed isRender
  unfold Watched.look at failed
  cases stepped : step watch.session with
  | ok value session =>
      rw [stepped] at failed
      cases failed
  | error reason session =>
      rw [stepped] at failed
      cases failed
      exact failure stepped

/-- A function that is there is called, and how it fails is up to the host. -/
theorem callHost
    {environment : Environment σ}
    {name : String}
    (has : environment.registry.has name = true)
    (arguments : List Value)
    (position : Int) :
    FindsFunctions (Watched.callHost environment name arguments position) := by
  intro watch mishap after failed isRender
  rw [Watched.callHost, has, if_pos rfl, Watched.look] at failed
  split at failed
  · cases failed
  · cases failed
    cases isRender

theorem bind
    {watched : Watched σ α}
    {next : α → Watched σ β}
    (first : FindsFunctions watched)
    (second : ∀ value, FindsFunctions (next value)) :
    FindsFunctions (watched >>= next) := by
  intro watch mishap after failed isRender
  rw [bind_apply] at failed
  cases stepped : watched watch with
  | ok value between =>
      rw [stepped] at failed
      exact second value between mishap after failed isRender
  | error other between =>
      rw [stepped] at failed
      cases failed
      exact first watch _ _ stepped isRender

theorem ends
    {watched : Watched σ α}
    {last : Watched σ Unit}
    (first : FindsFunctions watched)
    (second : FindsFunctions last) :
    FindsFunctions (tryFinally watched last) := by
  intro watch mishap after failed isRender
  rw [tryFinally_apply] at failed
  split at failed
  · cases stepped : watched watch with
    | ok value between =>
        rw [stepped] at failed
        cases failed
    | error other between =>
        rw [stepped] at failed
        cases failed
        exact first watch _ _ stepped isRender
  · next ended =>
      cases failed
      exact second _ _ _ ended isRender

theorem enterBlock (limits : Limits) :
    FindsFunctions (σ := σ)
      (Watched.look .render (Render.charge (Budget.enterBlock limits))) := by
  refine look fun {session _ _} failed => ?_
  rw [Budget.enterBlock, charge_spend] at failed
  split at failed
  · cases failed
  · cases failed
    exact not_false

theorem exitBlock :
    FindsFunctions (σ := σ) (Watched.look .render (Render.release Budget.exitBlock)) :=
  look fun failed => by cases failed

end FindsFunctions

/-- Steps that call only functions which are there. -/
def functions (environment : Environment σ) : Traversal environment where
  Related _ watched _ := FindsFunctions watched
  MayCall name := environment.registry.has name = true
  pure _ := fun _ _ _ failed => by cases failed
  look plain := .look fun failed => (plain.failure failed).2
  callHost _ arguments position has := .callHost has arguments position
  bind := .bind
  ends plain related := related.ends (.look fun failed => (plain.failure failed).2)
  block related := (FindsFunctions.enterBlock _).bind fun _ => related.ends .exitBlock
  weaken _ related := related

/-- A template whose functions are there is not refused one of them. -/
theorem findsFunctions_renderTemplate
    {environment : Environment σ}
    {template : Template}
    (has :
      ∀ expr ∈ template.expressions, ∀ site ∈ expr.calls,
        environment.registry.has site.function = true)
    (data : Scope) :
    FindsFunctions (renderTemplate environment data template) := by
  apply FindsFunctions.bind (.look fun failed => by cases failed)
  intro _
  apply FindsFunctions.bind ((functions environment).renderAll template has)
  intro _ watch mishap after failed
  cases failed

end Watched
end Templating
