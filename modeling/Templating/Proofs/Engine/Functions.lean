import Templating.Proofs.Engine.Limits
import Templating.Proofs.Render.Functions
import Templating.Proofs.Template.Rereading

/-!
# The functions of a template from parsing to rendering

The parser looks up every function that a template calls, wherever the call stands. So a
template that was accepted is not refused a function when it is rendered, as long as the
functions that it calls are installed. When one of them is removed the template is
accepted no more: the parser tells the first call of what was removed.
-/

namespace Templating
namespace Engine

variable {σ : Type}

/-- The same engine with other functions. -/
def withRegistry (engine : Engine σ) (registry : Registry σ) : Engine σ :=
  { engine with registry }

/-- Every function that an accepted template calls is installed, so that no render with
these functions finds one of them missing, whatever else changes. Without one of them the
template is rejected at the first call of it: the calls are those of the expressions that
the tags hold, in the order of the tags and within each as they are written. -/
theorem functions_of_parse
    {engine : Engine σ}
    {source : String}
    {template : Template}
    {event : Event}
    (parsed : engine.parse source = .ok (template, event)) :
    (∀ expr ∈ template.expressions, ∀ site ∈ expr.calls,
      engine.registry.has site.function = true) ∧
      (∀ {τ : Type} (environment : Environment τ) (data : Scope) (session : Session τ),
        (∀ expr ∈ template.expressions, ∀ site ∈ expr.calls,
          environment.registry.has site.function = true) →
          let watched :=
            Watched.renderTemplate environment data template ⟨session, []⟩
          Watched.forget watched =
              Render.renderTemplate environment data template session ∧
            ∀ mishap after,
              watched = .error mishap after →
                mishap.origin = .render →
                  ¬mishap.failure.Says Error.IsMissingFunction) ∧
      ∃ segments,
        Segment.ofTemplate engine.limits source = .ok segments ∧
          (segments.Pairwise fun segment other => segment.position < other.position) ∧
          List.Forall₂
            (fun tag expr =>
              Expr.parse engine.limits engine.registry.has tag = .ok expr)
            (Segment.sources segments) template.expressions ∧
          (∀ expr ∈ template.expressions,
            expr.calls.Pairwise fun site other => site.position < other.position) ∧
          ∀ name,
            (∃ expr ∈ template.expressions, ∃ site ∈ expr.calls, site.function = name) →
              ∃ tag site,
                FirstCall name ((Segment.sources segments).zip template.expressions)
                    tag site ∧
                  (engine.withRegistry (engine.registry.unregister name)).parse source =
                    .error
                      (.parse (.unknownFunction name) (some site.position)
                        (some tag)) := by
  obtain ⟨⟨segments, found⟩, read, made⟩ := (bind_eq_ok ..).1 parsed
  cases made
  obtain ⟨lexed, spelled, -⟩ := Template.spelled_of_parseWithSegments read
  have reads :
      List.Forall₂
        (fun tag expr => Expr.parse engine.limits engine.registry.has tag = .ok expr)
        (Segment.sources segments) template.expressions :=
    spelled.reads_sources
  have isRead : ∀ expr ∈ template.expressions,
      ∃ tag, Expr.parse engine.limits engine.registry.has tag = .ok expr :=
    Template.reads_of_parseWithSegments read
  have installed : ∀ expr ∈ template.expressions, ∀ site ∈ expr.calls,
      engine.registry.has site.function = true := by
    intro expr member
    obtain ⟨tag, readsHere⟩ := isRead expr member
    exact Expr.known_of_parse readsHere
  refine ⟨installed, ?_, segments, lexed, (Segment.cuts_of_lexFrom lexed).ordered.2, reads,
    ?_, ?_⟩
  · intro τ environment data session has
    exact ⟨Watched.forgets_renderTemplate environment data template ⟨session, []⟩,
      Watched.findsFunctions_renderTemplate has data ⟨session, []⟩⟩
  · intro expr member
    obtain ⟨tag, readsHere⟩ := isRead expr member
    exact Expr.calls_ordered_of_parse readsHere
  · rintro name ⟨expr, member, called⟩
    rw [← List.map_snd_zip reads.length_eq.ge, List.mem_map] at member
    obtain ⟨reading, isReading, rfl⟩ := member
    obtain ⟨tag, site, missing, first⟩ :=
      Template.firstCall_of_called (engine.registry.has_unregister name)
        (fun reading member => installed reading.2 (List.of_mem_zip member).2)
        ⟨reading, isReading, called⟩
    refine ⟨tag, site, first, ?_⟩
    have refused :
        Template.parseWithSegments engine.limits (engine.registry.unregister name).has
            source =
          .error (missingError tag site) := by
      rw [Template.parseWithSegments_withKnown read, missing]
    rw [parse, withRegistry, refused, missingError, first.function_eq]
    rfl

/-- A template that calls the identity, without the identity. -/
theorem functions_of_parse_identifying :
    identifying.parse "\x7b\x7b id(true) \x7d\x7d" =
        .ok ([.output (.call 0 "id" [.boolean 3 true])], .parsed 1 3 0 2) ∧
      identifying.registry.has "id" = true ∧
      ∃ tag position,
        (identifying.withRegistry (identifying.registry.unregister "id")).parse
            "\x7b\x7b id(true) \x7d\x7d" =
          .error (.parse (.unknownFunction "id") (some position) (some tag)) := by
  obtain ⟨installed, -, segments, -, -, -, -, removed⟩ :=
    functions_of_parse identifying_parse
  have member :
      Expr.call 0 "id" [.boolean 3 true] ∈
        Template.expressions [.output (.call 0 "id" [.boolean 3 true])] :=
    .head _
  have called : ⟨0, "id"⟩ ∈ (Expr.call 0 "id" [.boolean 3 true]).calls := .head _
  obtain ⟨tag, site, -, rejected⟩ := removed "id" ⟨_, member, _, called, rfl⟩
  exact ⟨identifying_parse, installed _ member _ called, tag, site.position, rejected⟩

end Engine
end Templating
