import Templating.Proofs.Engine.Limits
import Templating.Proofs.Render.Joining

/-!
# Joined templates

The text of one template behind that of another one is parsed and rendered as the two
templates one behind the other. Neither the parser nor the render carries anything over
the seam but what it counts: iterations and output add up there, while all blocks and
calls of the first template are left.
-/

namespace Templating

/-- Text that meets at the seam becomes one text. -/
example (expr : Expr) :
    Template.join [.output expr, .text "a"] [.text "b", .rawOutput expr] =
      [.output expr, .text "ab", .rawOutput expr] :=
  rfl

namespace Engine

variable {σ : Type}

/-- The number of iterations that are counted when a template is rendered. -/
def iterations
    (engine : Engine σ)
    (template : Template)
    (data : Scope)
    (host : σ) :
    Int :=
  (stateAfter
    (Render.renderTemplate engine.environment data template
      (.start data host))).budget.loopIterations

/-- A text is rendered when the template that it writes is. -/
theorem outcome_eq_ok
    {engine : Engine σ}
    {source : String}
    {template : Template}
    {event : Event}
    (parsed : engine.parse source = .ok (template, event))
    (data : Scope)
    (host : σ)
    (output : String) :
    (engine.render source data host).outcome = .ok output ↔
      ∃ final,
        Render.renderTemplate engine.environment data template (.start data host) =
          .ok output final := by
  simp only [render, parsed, renderParsed]
  cases Render.renderTemplate engine.environment data template (.start data host) <;> simp

/-- Templates compose. Two texts that are accepted, one behind the other, are accepted as
the one template behind the other, unless two opening braces meet at the seam. When the
functions of the host have no state, what is rendered of the whole is what is rendered of
the two, and the whole is rendered when the two are, as long as their iterations and their
output are together within the limits. -/
theorem render_join
    {engine : Engine σ}
    {first second : String}
    {template other : Template}
    {event otherEvent : Event}
    (parsed : engine.parse first = .ok (template, event))
    (otherParsed : engine.parse second = .ok (other, otherEvent))
    (apart : ¬Tag.BracesMeet first.toList second.toList) :
    (∃ joinedEvent,
      engine.parse (first ++ second) = .ok (template.join other, joinedEvent)) ∧
      (engine.registry.IsStateless →
        ∀ (data : Scope) (host firstHost secondHost : σ),
          (∀ output,
            (engine.render (first ++ second) data host).outcome = .ok output →
              ∃ front rest,
                (engine.render first data firstHost).outcome = .ok front ∧
                  (engine.render second data secondHost).outcome = .ok rest ∧
                  output = front ++ rest) ∧
            ∀ front rest,
              (engine.render first data firstHost).outcome = .ok front →
                (engine.render second data secondHost).outcome = .ok rest →
                engine.iterations template data firstHost +
                    engine.iterations other data secondHost ≤
                  engine.limits.loopIterations →
                front.utf8ByteSize + rest.utf8ByteSize ≤ engine.limits.outputSize →
                  (engine.render (first ++ second) data host).outcome =
                    .ok (front ++ rest)) := by
  obtain ⟨⟨segments, found⟩, read, made⟩ := (bind_eq_ok ..).1 parsed
  obtain ⟨⟨others, otherFound⟩, otherRead, otherMade⟩ := (bind_eq_ok ..).1 otherParsed
  cases made
  cases otherMade
  have joined : engine.parse (first ++ second) = .ok (template.join other, _) :=
    (bind_eq_ok ..).2 ⟨_, Template.parseWithSegments_join read otherRead apart, rfl⟩
  refine ⟨⟨_, joined⟩, fun stateless data host firstHost secondHost => ⟨?_, ?_⟩⟩
  · intro output rendered
    obtain ⟨final, whole⟩ := (outcome_eq_ok joined ..).1 rendered
    obtain ⟨front, frontFinal, rest, restFinal, frontRendered, restRendered, same⟩ :=
      Unbounded.renderTemplate_of_join stateless data template other _
        (.start data firstHost) (.start data secondHost) whole
    exact ⟨front, rest, (outcome_eq_ok parsed ..).2 ⟨_, frontRendered⟩,
      (outcome_eq_ok otherParsed ..).2 ⟨_, restRendered⟩, same⟩
  · intro front rest frontRendered restRendered few short
    obtain ⟨frontFinal, frontWhole⟩ := (outcome_eq_ok parsed ..).1 frontRendered
    obtain ⟨restFinal, restWhole⟩ := (outcome_eq_ok otherParsed ..).1 restRendered
    rw [iterations, iterations, frontWhole, restWhole] at few
    exact (outcome_eq_ok joined ..).2
      (Unbounded.renderTemplate_join stateless data template other _ _ _ frontWhole
        restWhole few short)

/-- A call of the identity behind another one. -/
theorem render_join_identifying :
    identifying.registry.IsStateless ∧
      identifying.parse "\x7b\x7b id(true) \x7d\x7d" =
        .ok ([.output (.call 0 "id" [.boolean 3 true])], .parsed 1 3 0 2) ∧
      (identifying.render "\x7b\x7b id(true) \x7d\x7d" [] ()).outcome = .ok "true" ∧
      (identifying.render ("\x7b\x7b id(true) \x7d\x7d" ++ "\x7b\x7b id(true) \x7d\x7d") []
          ()).outcome =
        .ok ("true" ++ "true") := by
  have rendered :
      (identifying.render "\x7b\x7b id(true) \x7d\x7d" [] ()).outcome = .ok "true" := by
    simp only [render, identifying_parse]
    rfl
  have noLoop :
      identifying.iterations [.output (.call 0 "id" [.boolean 3 true])] [] () = 0 := by
    rfl
  have composed :=
    (render_join identifying_parse identifying_parse (by decide)).2
      Registry.identity_isStateless [] () () ()
  refine ⟨Registry.identity_isStateless, identifying_parse, rendered, ?_⟩
  exact composed.2 "true" "true" rendered rendered (by rw [noLoop]; decide) (by decide)

end Engine
end Templating
