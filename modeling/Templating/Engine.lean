import Templating.Render.Template
import Templating.Template.Parser

/-!
# The template engine

An engine holds the functions of a host, the limits, and whether failed renders
are to be logged. It parses templates and renders them. Besides its result, each
operation gives the events that a host may log and the state of the host after
it.
-/

namespace Templating

/-- What happened while a template was parsed or rendered. -/
inductive Event
  | parsed (segments nodes blockDepth expressionDepth : Nat)
  | rendered (outputSize : Int)
  | limitExceeded (resource : Resource) (bound actual : Int)
  | failed (error : Error)
  deriving DecidableEq

/-- A detail of an event. -/
inductive Detail
  | count (value : Int)
  | text (value : String)
  deriving DecidableEq

namespace Event

/-- Only an exceeded limit is worth a warning. -/
def isWarning : Event → Bool
  | .limitExceeded _ _ _ => true
  | _ => false

/-- The name of an event in a log. -/
def name : Event → String
  | .parsed _ _ _ _ => "template_parsed"
  | .rendered _ => "template_rendered"
  | .limitExceeded _ _ _ => "template_limit_exceeded"
  | .failed _ => "template_render_failed"

/-- The details of an event in a log, by name. -/
def details : Event → List (String × Detail)
  | .parsed segments nodes blockDepth expressionDepth =>
      [("segment_count", .count segments), ("node_count", .count nodes),
        ("block_depth", .count blockDepth),
        ("expression_depth", .count expressionDepth)]
  | .rendered outputSize => [("output_size", .count outputSize)]
  | .limitExceeded resource bound actual =>
      [("limit_name", .text resource.name), ("limit", .count bound),
        ("actual", .count actual)]
  | .failed error =>
      [("error_type", .text error.cause.kindName), ("error", .text error.message)]

end Event

/-- The result of an operation, with the events in order and the state of the
host after it. -/
structure Run (σ α : Type) where
  outcome : Except Failure α
  events : List Event
  host : σ

/-- A parser and renderer of templates. -/
structure Engine (σ : Type) where
  registry : Registry σ
  limits : Limits
  logsFailures : Bool

namespace Engine

variable {σ : Type}

/-- An engine that logs failures. -/
def create (registry : Registry σ) (limits : Limits) : Engine σ where
  registry := registry
  limits := limits
  logsFailures := true

/-- The event of a parsed template. -/
def parsedEvent (segments : List Segment) (template : Template) : Event :=
  .parsed segments.length template.count template.blockDepth
    template.expressionDepth

/-- The template that a text writes, and the event of having parsed it. -/
def parse (engine : Engine σ) (source : String) :
    Except Error (Template × Event) := do
  let (segments, template) ←
    Template.parseWithSegments engine.limits engine.registry.has source
  return (template, parsedEvent segments template)

/-- What stays the same while the engine renders a template. A template is
rendered without its text, so errors of evaluation point into nothing. -/
def environment (engine : Engine σ) : Environment σ where
  limits := engine.limits
  registry := engine.registry
  source := ""

/-- The events of a failed render: an exceeded limit is logged if failures
are. -/
def limitEvents (engine : Engine σ) : Failure → List Event
  | .error { cause := .limit resource bound actual, position := _, source := _ } =>
      if engine.logsFailures then [.limitExceeded resource bound actual] else []
  | _ => []

/-- Render a parsed template. -/
def renderParsed
    (engine : Engine σ)
    (template : Template)
    (data : Scope)
    (host : σ) :
    Run σ String :=
  match
    Render.renderTemplate engine.environment data template
      (Session.start data host)
  with
  | .ok output session =>
      { outcome := .ok output
        events := [.rendered session.budget.outputSize]
        host := session.host }
  | .error failure session =>
      { outcome := .error failure
        events := engine.limitEvents failure
        host := session.host }

/-- The events of a failed parse or render: an error is logged if failures
are. -/
def failureEvents (engine : Engine σ) : Failure → List Event
  | .error error => if engine.logsFailures then [.failed error] else []
  | .unknownOperator _ => []

/-- Parse and render a template. -/
def render
    (engine : Engine σ)
    (source : String)
    (data : Scope)
    (host : σ) :
    Run σ String :=
  match engine.parse source with
  | .error error =>
      { outcome := .error (.error error)
        events := engine.failureEvents (.error error)
        host }
  | .ok (template, event) =>
    let run := engine.renderParsed template data host
    match run.outcome with
    | .ok output =>
        { outcome := .ok output, events := event :: run.events, host := run.host }
    | .error failure =>
        { outcome := .error failure
          events := event :: run.events ++ engine.failureEvents failure
          host := run.host }

/-- Either the whole output of a render, or the error that it failed with. -/
inductive Attempt
  | success (output : String)
  | failure (error : Error)

/-- A render with every error as part of the result. -/
def attempted (run : Run σ String) : Run σ Attempt :=
  let outcome :=
    match run.outcome with
    | .ok output => .ok (.success output)
    | .error (.error error) => .ok (.failure error)
    | .error (.unknownOperator symbol) => .error (.unknownOperator symbol)
  { outcome, events := run.events, host := run.host }

/-- Parse and render a template; every error is part of the result. -/
def tryRender
    (engine : Engine σ)
    (source : String)
    (data : Scope)
    (host : σ) :
    Run σ Attempt :=
  attempted (engine.render source data host)

/-- Install a function. -/
def register (engine : Engine σ) (name : String) (candidate : Candidate σ) :
    Except RegistrationError (Engine σ) := do
  let registry ← engine.registry.register name candidate
  return { engine with registry }

end Engine
end Templating
