import Templating.Proofs.Engine.Calls
import Templating.Proofs.Engine.HostTexts
import Templating.Proofs.Number.Form
import Templating.Proofs.Render.Refinement
import Templating.Proofs.Template.Indexed

/-!
# How renders fail

An engine gives the whole output of a template or fails with an error. What is
wrong with the text of a template is found before any function of the host runs.
After that a function that fails ends the render with its failure, and every other
error is one of evaluation or of a limit. The parsers look at no token and no segment
that is not there. Only a text of the host that has no encoding leaves an engine in
another way.
-/

namespace Templating

variable {σ : Type}

namespace Engine

variable (engine : Engine σ) {source : String} (data : Scope) (host : σ)

/-- What an engine parses is also read by index, so that no look ahead goes past the ending of
an expression or past the last segment, and no number of a text fails to be one. -/
theorem parseByIndex_eq (source : String) :
    Template.parseByIndex engine.limits engine.registry.has source =
      match engine.parse source with
      | .error error => .error (.rejected error)
      | .ok (template, _) => .ok template := by
  rw [Template.parseByIndex_eq, Template.parse, parse]
  cases Template.parseWithSegments engine.limits engine.registry.has source <;> rfl

end Engine
end Templating
