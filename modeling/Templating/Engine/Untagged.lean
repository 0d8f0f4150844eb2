import Templating.Engine
import Templating.Text.HostText

/-!
# Templates without tags

A template without tags is output as it is, and a host may ask for any of its
texts. One that holds surrogates parses, but its output cannot be measured: that
failure is none of the errors of an engine, and nothing in an engine catches it.
-/

namespace Templating

/-- A failure that leaves an engine, with the events before it. -/
structure Escape where
  failure : EncodingFailure
  events : List Event
  deriving DecidableEq

namespace HostText

/-- A text has opening braces. -/
def hasTags : HostText → Bool
  | .character '\x7b' :: .character '\x7b' :: _ => true
  | _ :: rest => hasTags rest
  | [] => false

end HostText

namespace Engine

variable {σ : Type} (engine : Engine σ) (host : σ)

/-- Parse and render a template that has no tags. -/
def renderUntagged (template : HostText) : Except Escape (Run σ String) :=
  let segments := if template.isEmpty then 0 else 1
  let parsed := .parsed segments segments 0 0
  match template.utf8Size with
  | .error failure => .error { failure, events := [parsed] }
  | .ok size =>
    match Budget.addBytes engine.limits size .fresh with
    | .ok _ budget =>
        .ok
          { outcome := .ok template.characters
            events := [parsed, .rendered budget.outputSize]
            host }
    | .error error _ =>
      let failure := .error error
      .ok
        { outcome := .error failure
          events :=
            parsed :: engine.limitEvents failure ++ engine.failureEvents failure
          host }

/-- Parse and render a template that has no tags; every error is part of the
result. -/
def tryRenderUntagged (template : HostText) : Except Escape (Run σ Attempt) := do
  let run ← engine.renderUntagged host template
  return attempted run

end Engine
end Templating
