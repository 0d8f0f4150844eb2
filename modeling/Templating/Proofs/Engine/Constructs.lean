import Templating.Engine
import Templating.Proofs.Template.Constructs
import Templating.Proofs.Template.Sources

/-!
# What is counted when a template is parsed

The event of a parsed template tells four numbers. All of them are told by the tree: the
number of its parts by its constructs and its expressions, and the number of segments that
it was read from by its constructs alone.
-/

namespace Templating
namespace Engine

/-- The parts of a template are its constructs, but for branches without a condition, and
the parts of its expressions. They are no fewer than the blocks around any point of it.
The segments that a template is parsed from are those of its constructs, with two tags for
a conditional or loop and one more for each further branch. -/
theorem counts_by_constructs :
    (∀ nodes : List Node,
        let constructs := Node.constructsAll nodes
        Node.countAll nodes =
            constructs.count .text + constructs.count .output +
              constructs.count .rawOutput + constructs.count .conditional +
              constructs.count .elifBranch + constructs.count .loop +
              ((Node.expressionsAll nodes).map Expr.count).sum ∧
          Node.blockDepthAll nodes ≤ Node.countAll nodes) ∧
      ∀ {σ : Type} (engine : Engine σ) (source : String) (template : Template)
          (event : Event),
        engine.parse source = .ok (template, event) →
          let constructs := Node.constructsAll template
          let segments :=
            constructs.count .text + constructs.count .output +
              constructs.count .rawOutput + 2 * constructs.count .conditional +
              constructs.count .elifBranch + constructs.count .elseBranch +
              2 * constructs.count .loop
          event =
              .parsed segments template.count template.blockDepth
                template.expressionDepth ∧
            event.details.lookup "segment_count" = some (.count segments) := by
  constructor
  · intro nodes constructs
    refine ⟨?_, Node.blockDepthAll_le_countAll nodes⟩
    rw [Node.countAll_eq_partsOf, partsOf, Construct.sum_weights]
    simp only [Construct.parts, Nat.one_mul, Nat.zero_mul, Nat.add_zero]
    rfl
  · intro σ engine source template event parsed constructs segments
    obtain ⟨⟨found, read⟩, wasRead, made⟩ := (bind_eq_ok ..).1 parsed
    cases made
    obtain ⟨-, spelled, -⟩ := Template.spelled_of_parseWithSegments wasRead
    have length : found.length = segments := by
      rw [spelled.length_eq, segmentsOf, Construct.sum_weights]
      simp only [Construct.segments, Nat.one_mul]
      rfl
    rw [parsedEvent, length]
    exact ⟨rfl, rfl⟩

/-- A conditional with a branch that has no condition. -/
theorem counts_by_constructs_else :
    ∃ template event,
      (create (.empty : Registry Unit) .standard).parse
            "\x7b\x7bif true\x7d\x7d\x7b\x7belse\x7d\x7d\x7b\x7bendif\x7d\x7d" =
          .ok (template, event) ∧
        Node.constructsAll template = [.conditional, .elseBranch] ∧
        Node.countAll template = 2 ∧
        event.details.lookup "segment_count" = some (.count 3) := by
  have opening :
      Tag.splitClosing? false
          (Tag.splitRawMark
            "if true\x7d\x7d\x7b\x7belse\x7d\x7d\x7b\x7bendif\x7d\x7d".toList).2 =
        some ("if true".toList,
          "\x7b\x7belse\x7d\x7d\x7b\x7bendif\x7d\x7d".toList) := by
    decide
  have between :
      Tag.splitClosing? false
          (Tag.splitRawMark "else\x7d\x7d\x7b\x7bendif\x7d\x7d".toList).2 =
        some ("else".toList, "\x7b\x7bendif\x7d\x7d".toList) := by
    decide
  have closing :
      Tag.splitClosing? false (Tag.splitRawMark "endif\x7d\x7d".toList).2 =
        some ("endif".toList, []) := by
    decide
  have cuts :
      Segment.Cuts .standard 0
        "\x7b\x7bif true\x7d\x7d\x7b\x7belse\x7d\x7d\x7b\x7bendif\x7d\x7d".toList
        [⟨.opening .ifBlock, "true", 0⟩, ⟨.opening .elseBranch, "", 11⟩,
          ⟨.closing .endIf, "", 19⟩] :=
    .tag opening (by decide) (.tag between (by decide) (.tag closing (by decide) (.done _)))
  have assembled :
      Template.ofSegments
          { source :=
              some "\x7b\x7bif true\x7d\x7d\x7b\x7belse\x7d\x7d\x7b\x7bendif\x7d\x7d"
            known := (.empty : Registry Unit).has, limits := .standard }
          [⟨.opening .ifBlock, "true", 0⟩, ⟨.opening .elseBranch, "", 11⟩,
            ⟨.closing .endIf, "", 19⟩] =
        .ok [.conditional (.boolean 0 true) [] (.otherwise [])] := by
    with_unfolding_all rfl
  have parsed :
      (create (.empty : Registry Unit) .standard).parse
          "\x7b\x7bif true\x7d\x7d\x7b\x7belse\x7d\x7d\x7b\x7bendif\x7d\x7d" =
        .ok ([.conditional (.boolean 0 true) [] (.otherwise [])], _) :=
    (bind_eq_ok ..).2 ⟨_, Template.parseWithSegments_of_cuts cuts assembled, rfl⟩
  obtain ⟨counts, events⟩ := counts_by_constructs
  exact ⟨_, _, parsed, rfl, (counts _).1, (events _ _ _ _ parsed).2⟩

end Engine
end Templating
