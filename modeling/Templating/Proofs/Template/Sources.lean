import Templating.Proofs.Template.Expressions
import Templating.Proofs.Template.Lexing
import Templating.Proofs.Template.Parsing

/-!
# What the text of a template makes of it

A text that writes no template is rejected, and every expression of the template
that a text writes is read from the text of a tag.
-/

namespace Templating
namespace Template

variable {context : AssemblyContext} {limits : Limits} {known : String → Bool}
variable {source : String}

/-- The segments of a text write the template that it is parsed to, and the template is
nested no deeper than allowed. -/
theorem spelled_of_parseWithSegments
    {segments : List Segment}
    {template : Template}
    (parsed : parseWithSegments limits known source = .ok (segments, template)) :
    Segment.ofTemplate limits source = .ok segments ∧
      Node.AllSpelled { source := some source, known, limits } template segments ∧
        template.blockDepth ≤ limits.nestingDepth := by
  obtain ⟨found, lexed, parsed⟩ := (bind_eq_ok ..).1 parsed
  obtain ⟨made, assembled, same⟩ := (bind_eq_ok ..).1 parsed
  cases same
  have known := (Segment.cuts_of_lexFrom lexed).isKnown
  obtain ⟨body, spelled, fits, rfl⟩ :=
    closes_of_assembleFrom known (Nat.zero_le _) assembled
  exact ⟨lexed, spelled, (Nat.zero_add _).symm.trans_le fits⟩

/-- Segments that write a template make it up, when its blocks are nested no deeper
than allowed. -/
theorem ofSegments_of_allSpelled
    {template : Template}
    {segments : List Segment}
    (spelled : Node.AllSpelled context template segments)
    (fits : template.blockDepth ≤ context.limits.nestingDepth) :
    ofSegments context segments = .ok template := by
  have room :
      0 + Assembly.empty.frames.length + Node.blockDepthAll template ≤
        context.limits.nestingDepth := by
    simpa [Assembly.empty, blockDepth] using fits
  have assembled := spelled.assembled .empty [] room
  rw [List.append_nil] at assembled
  simp only [ofSegments, parseFrom]
  rw [assembled]
  simp [assembleFrom, Assembly.finish, Assembly.extend, Assembly.empty]

/-- A text is parsed to what its segments make up. -/
theorem parseWithSegments_of_cuts
    {segments : List Segment}
    {template : Template}
    (cuts : Segment.Cuts limits 0 source.toList segments)
    (assembled :
      ofSegments { source := some source, known, limits } segments = .ok template) :
    parseWithSegments limits known source = .ok (segments, template) :=
  (bind_eq_ok ..).2
    ⟨segments, Segment.lexFrom_of_cuts cuts source,
      (bind_eq_ok ..).2 ⟨template, assembled, rfl⟩⟩

/-- Every expression of a parsed template is one that a text writes. -/
theorem reads_of_parseWithSegments
    {segments : List Segment}
    {template : Template}
    (parsed : parseWithSegments limits known source = .ok (segments, template)) :
    ∀ expr ∈ template.expressions,
      ∃ content, Expr.parse limits known content = .ok expr := by
  obtain ⟨-, spelled, -⟩ := spelled_of_parseWithSegments parsed
  have reads := spelled.reads_sources
  intro expr held
  obtain ⟨index, bound, rfl⟩ := List.getElem_of_mem held
  exact ⟨_, reads.get (reads.length_eq ▸ bound) bound⟩

/-- A text that writes no template is rejected. -/
theorem parseWithSegments_error
    {error : Error}
    (failed : parseWithSegments limits known source = .error error) :
    error.IsParse := by
  obtain lexFailed | ⟨segments, failed⟩ := bind_error failed
  · exact Segment.lexFrom_error lexFailed
  · obtain assemblyFailed | ⟨template, made⟩ := bind_error failed
    · exact assembleFrom_error assemblyFailed
    · cases made

end Template
end Templating
