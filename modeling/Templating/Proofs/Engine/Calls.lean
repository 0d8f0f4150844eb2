import Templating.Engine
import Templating.Proofs.Render.Recording
import Templating.Proofs.Template.Sources

/-!
# The calls of an engine

The functions of the host that an engine runs while it renders a template, in
order. They are those that a host records which is otherwise the same. The calls of
a render show where its failure comes from.
-/

namespace Templating

variable {σ : Type}

/-- An error of a render that no function of the host has failed with: a limit is
exceeded, or an evaluation fails. -/
def Failure.IsOwn : Failure → Prop
  | .error reason => reason.IsLimit ∨ reason.IsEvaluation
  | .unknownOperator _ => False

namespace Engine

/-- The same engine, with the calls of its functions recorded. -/
def recording (engine : Engine σ) : Engine (σ × List HostCall) where
  registry := engine.registry.recording
  limits := engine.limits
  logsFailures := engine.logsFailures

/-- The functions of the host that run while a template is parsed and rendered. -/
def calls
    (engine : Engine σ)
    (source : String)
    (data : Scope)
    (host : σ) :
    List HostCall :=
  (engine.recording.render source data (host, [])).host.2

@[simp] theorem parse_recording (engine : Engine σ) (source : String) :
    engine.recording.parse source = engine.parse source := by
  simp [parse, recording]

@[simp] theorem environment_recording (engine : Engine σ) :
    engine.recording.environment = engine.environment.recording := rfl

/-- Every failure of the parser is a rejection of the template. -/
theorem parse_error
    {engine : Engine σ}
    {source : String}
    {error : Error}
    (failed : engine.parse source = .error error) :
    error.IsParse := by
  obtain rejected | ⟨pair, made⟩ := bind_error failed
  · exact Template.parseWithSegments_error rejected
  · cases made

/-- A parsed template has operators of the language only. -/
theorem unknownOperators_of_parse
    {engine : Engine σ}
    {source : String}
    {template : Template}
    {event : Event}
    (parsed : engine.parse source = .ok (template, event)) :
    ∀ expr ∈ template.expressions, expr.unknownOperators = [] := by
  obtain ⟨⟨segments, found⟩, read, made⟩ := (bind_eq_ok ..).1 parsed
  cases made
  intro expr inside
  obtain ⟨content, reads⟩ := Template.reads_of_parseWithSegments read expr inside
  exact Expr.unknownOperators_of_parse reads

/-- A parsed template is rendered as it is when the calls are recorded. -/
theorem renderTemplate_recorded
    {engine : Engine σ}
    {source : String}
    {template : Template}
    {event : Event}
    (parsed : engine.parse source = .ok (template, event))
    (data : Scope) :
    Recorded Failure.IsOwn (Render.renderTemplate engine.environment data template)
      (Render.renderTemplate engine.environment.recording data template) := by
  have covered : ∀ expr ∈ template.expressions, ∀ symbol ∈ expr.unknownOperators,
      Failure.IsOwn (.unknownOperator symbol) := by
    intro expr inside symbol unknown
    rw [unknownOperators_of_parse parsed expr inside] at unknown
    cases unknown
  exact Recorded.renderTemplate (fun _ => Or.inl) (fun _ => Or.inr) covered data

/-- The render of a parsed template and the same render with its calls recorded. -/
theorem renderParsed_recorded
    {engine : Engine σ}
    {source : String}
    {template : Template}
    {event : Event}
    (parsed : engine.parse source = .ok (template, event))
    (data : Scope)
    (host : σ) :
    RecordedResult Failure.IsOwn []
      (Render.renderTemplate engine.environment data template (Session.start data host))
      (Render.renderTemplate engine.environment.recording data template
        (Session.start data (host, []))) :=
  renderTemplate_recorded parsed data (Session.start data host) []

/-- Recording the calls changes nothing else. -/
theorem render_recording
    (engine : Engine σ)
    (source : String)
    (data : Scope)
    (host : σ) :
    let recorded := engine.recording.render source data (host, [])
    let run := engine.render source data host
    recorded.outcome = run.outcome ∧ recorded.events = run.events ∧
      recorded.host.1 = run.host := by
  simp only [render, parse_recording]
  cases parsed : engine.parse source with
  | error error => exact ⟨rfl, rfl, rfl⟩
  | ok found =>
      obtain ⟨template, event⟩ := found
      have recorded := renderParsed_recorded parsed data host
      simp only [renderParsed, environment_recording]
      generalize Render.renderTemplate engine.environment data template _ = result
        at recorded ⊢
      generalize Render.renderTemplate engine.environment.recording data template _ =
        recordedResult at recorded ⊢
      cases recorded with
      | ok answered => exact ⟨rfl, rfl, rfl⟩
      | error explains => exact ⟨rfl, rfl, rfl⟩

end Engine
end Templating
