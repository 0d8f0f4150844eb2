import Templating.Engine
import Templating.Proofs.Render.Nesting
import Templating.Proofs.Template.Nesting

/-!
# The nesting of blocks from parsing to rendering

The parser counts the blocks that it enters, and the render counts those in progress.
Both numbers follow from the template: what the parser compares with the limit at a
block is the depth of the block in the template, and a render never has more blocks in
progress than the greatest of these depths. So what the parser accepts is never refused
for its blocks when it is rendered within the same limits.
-/

namespace Templating
namespace Engine

/-- The blocks of an accepted template are within the limit wherever they are counted:
when the template is parsed, in the template, and at every moment of every render of it,
with whatever functions and data. -/
theorem nesting_of_parse
    {σ : Type}
    {engine : Engine σ}
    {source : String}
    {template : Template}
    {event : Event}
    (parsed : engine.parse source = .ok (template, event)) :
    (∃ segments,
      Segment.ofTemplate engine.limits source = .ok segments ∧
        Template.entered
            { source := some source, known := engine.registry.has
              limits := engine.limits }
            0 .empty segments =
          template.blocks) ∧
      deepest 0 template.blocks = template.blockDepth ∧
      template.blockDepth ≤ engine.limits.nestingDepth ∧
      ∀ {τ : Type} (environment : Environment τ) (data : Scope) (session : Session τ),
        environment.limits = engine.limits →
          let watched :=
            Watched.renderTemplate environment data template ⟨session, []⟩
          Watched.forget watched =
              Render.renderTemplate environment data template session ∧
            (∀ budget ∈ (stateAfter watched).seen,
              0 ≤ budget.nestingDepth ∧ budget.nestingDepth ≤ template.blockDepth) ∧
            ∀ mishap after,
              watched = .error mishap after →
                mishap.origin = .render → ¬mishap.failure.Says Error.IsNesting := by
  obtain ⟨⟨segments, found⟩, read, made⟩ := (bind_eq_ok ..).1 parsed
  cases made
  obtain ⟨lexed, -, fits⟩ := Template.spelled_of_parseWithSegments read
  refine ⟨⟨segments, lexed, Template.entered_of_parseWithSegments read⟩,
    template.deepest_blocks, fits, fun environment data session sameLimits => ?_⟩
  rw [← sameLimits] at fits
  exact ⟨Watched.forgets_renderTemplate environment data template ⟨session, []⟩,
    Watched.nested_renderTemplate fits data session⟩

/-- A template of one block. -/
theorem nesting_of_parse_conditional :
    ∃ template event,
      (create (.empty : Registry Unit) .standard).parse
            "\x7b\x7bif true\x7d\x7d\x7b\x7bendif\x7d\x7d" =
          .ok (template, event) ∧
        template.blockDepth = 1 ∧
        ∀ budget ∈
          (stateAfter
            (Watched.renderTemplate (create (.empty : Registry Unit) .standard).environment
              [] template ⟨.start [] (), []⟩)).seen,
          0 ≤ budget.nestingDepth ∧ budget.nestingDepth ≤ template.blockDepth := by
  have opening :
      Tag.splitClosing? false
          (Tag.splitRawMark "if true\x7d\x7d\x7b\x7bendif\x7d\x7d".toList).2 =
        some ("if true".toList, "\x7b\x7bendif\x7d\x7d".toList) := by
    decide
  have closing :
      Tag.splitClosing? false (Tag.splitRawMark "endif\x7d\x7d".toList).2 =
        some ("endif".toList, []) := by
    decide
  have cuts :
      Segment.Cuts .standard 0 "\x7b\x7bif true\x7d\x7d\x7b\x7bendif\x7d\x7d".toList
        [⟨.opening .ifBlock, "true", 0⟩, ⟨.closing .endIf, "", 11⟩] :=
    .tag opening (by decide) (.tag closing (by decide) (.done _))
  have assembled :
      Template.ofSegments
          { source := some "\x7b\x7bif true\x7d\x7d\x7b\x7bendif\x7d\x7d"
            known := (.empty : Registry Unit).has, limits := .standard }
          [⟨.opening .ifBlock, "true", 0⟩, ⟨.closing .endIf, "", 11⟩] =
        .ok [.conditional (.boolean 0 true) [] .done] := by
    with_unfolding_all rfl
  have parsed :
      (create (.empty : Registry Unit) .standard).parse
          "\x7b\x7bif true\x7d\x7d\x7b\x7bendif\x7d\x7d" =
        .ok ([.conditional (.boolean 0 true) [] .done], _) :=
    (bind_eq_ok ..).2 ⟨_, Template.parseWithSegments_of_cuts cuts assembled, rfl⟩
  obtain ⟨-, -, -, renders⟩ := nesting_of_parse parsed
  exact ⟨_, _, parsed, rfl, (renders _ [] (.start [] ()) rfl).2.1⟩

end Engine
end Templating
