import Templating.Proofs.Engine.Limits
import Templating.Proofs.Expr.Places
import Templating.Proofs.Tag.Beginnings

/-!
# Where a rejected template is wrong

An error of the parser points into the template, to a tag that is at fault, or into the
text of the expression that a tag holds. So its context shows a line of that text, with a
caret in the line or just behind it.
-/

namespace Templating

/-- A tag is at fault: it cannot be read, or its segment is refused. -/
inductive Tag.AtFault
    (limits : Limits)
    (position : Nat)
    (inside : List Char)
    (cause : ParseCause) :
    Prop
  | unreadable (unreadable : Unreadable limits inside cause)
  | refused
      {segment : Segment}
      (reads : Reads position inside segment)
      (refused : segment.Refused limits cause)

namespace Template

variable {limits : Limits} {known : String → Bool} {source : String} {error : Error}

/-- Every error of the parser points to a tag that is at fault, or into the text of the
expression that a tag holds. -/
theorem failure_of_parseWithSegments
    (failed : parseWithSegments limits known source = .error error) :
    ∃ position inside,
      Tag.Begins 0 source.toList position inside ∧
        ((∃ cause,
            error = .parse cause (some (position : Int)) (some source) ∧
              Tag.AtFault limits position inside cause) ∨
          ∃ segment text,
            Tag.Reads position inside segment ∧ segment.source? = some text ∧
              error.PointsInto text) := by
  obtain lexFailed | ⟨segments, lexed, failed⟩ := (bind_eq_error ..).1 failed
  · obtain ⟨position, inside, cause, begins, unreadable, same⟩ :=
      Segment.unreadable_of_lexFrom lexFailed
    exact ⟨position, inside, begins, .inl ⟨cause, same, .unreadable unreadable⟩⟩
  · obtain assemblyFailed | ⟨template, made⟩ := bind_error failed
    · obtain ⟨segment, member, rejected⟩ := ofSegments_rejected assemblyFailed
      obtain isText | ⟨position, inside, begins, reads⟩ :=
        (Segment.cuts_of_lexFrom lexed).reads segment member
      · exact absurd isText rejected.kind_ne_text
      · refine ⟨position, inside, begins, ?_⟩
        cases rejected with
        | segment refused =>
            rw [reads.position_eq]
            exact .inl ⟨_, rfl, .refused reads refused⟩
        | expression holds failed =>
            exact .inr ⟨segment, _, reads, holds, Expr.pointsInto_of_parse failed⟩
    · cases made

end Template

namespace Engine

variable {σ : Type} {engine : Engine σ} {source : String} {error : Error}

/-- Every error of the parser points into its own text. Either that is the template, and
at the offset a tag begins that is at fault; or it is the text of the expression that a tag
holds, a part of the template, and the offset is in it or at its end. So the context of the
error shows the line of its offset, with a caret in the line or just behind it. -/
theorem failure_points_into_source (failed : engine.parse source = .error error) :
    ∃ position inside,
      Tag.Begins 0 source.toList position inside ∧
        source.toList.drop position = '\x7b' :: '\x7b' :: inside ∧
        ((∃ cause,
            error = .parse cause (some (position : Int)) (some source) ∧
              Tag.AtFault engine.limits position inside cause) ∨
          ∃ segment text,
            Tag.Reads position inside segment ∧ segment.source? = some text ∧
              text.toList <:+: source.toList ∧ error.PointsInto text) ∧
        ∃ text place line, error.Shows text place line := by
  obtain rejected | ⟨pair, made⟩ := bind_error failed
  · obtain ⟨position, inside, begins, failure⟩ :=
      Template.failure_of_parseWithSegments rejected
    have place := begins.drop List.drop_zero
    refine ⟨position, inside, begins, place, ?_⟩
    obtain ⟨cause, rfl, atFault⟩ | ⟨segment, text, reads, holds, points⟩ := failure
    · have length := congrArg List.length place
      rw [List.length_drop, List.length_cons] at length
      have bound : position ≤ source.toList.length := by omega
      have points :
          Error.PointsInto (.parse cause (some (position : Int)) (some source)) source :=
        ⟨rfl, position, rfl, bound⟩
      exact ⟨.inl ⟨cause, rfl, atFault⟩, source, Error.shows_of_pointsInto points⟩
    · have behind : '\x7b' :: '\x7b' :: inside <:+ source.toList :=
        place ▸ List.drop_suffix position source.toList
      have within : inside <:+: source.toList :=
        ((List.suffix_append ['\x7b', '\x7b'] inside).trans behind).isInfix
      have part := (reads.source_infix holds).trans within
      exact ⟨.inr ⟨segment, text, reads, holds, part, points⟩, text,
        Error.shows_of_pointsInto points⟩
  · cases made

/-- A closing tag behind text, where no block is open. -/
theorem failure_points_into_source_closing :
    let source := "a\n\x7b\x7bendif\x7d\x7d"
    let error : Error :=
      .parse (.unexpectedClosing (some "endif") none) (some (2 : Int)) (some source)
    identifying.parse source = .error error ∧
      (∃ position inside,
        Tag.Begins 0 source.toList position inside ∧
          source.toList.drop position = '\x7b' :: '\x7b' :: inside) ∧
      ∃ text place line, error.Shows text place line := by
  intro source error
  have closed :
      Tag.splitClosing? false (Tag.splitRawMark "endif\x7d\x7d".toList).2 =
        some ("endif".toList, []) := by
    decide
  have cuts : Segment.Cuts identifying.limits 0 source.toList
      [⟨.text, "a\n", 0⟩, ⟨.closing .endIf, "", 2⟩] :=
    .text_of_split (by decide) (by decide) (.tag closed (by decide) (.done 11))
  have failed : identifying.parse source = .error error := by
    simp only [parse, Template.parseWithSegments, Segment.ofTemplate,
      Segment.lexFrom_of_cuts cuts]
    rfl
  obtain ⟨position, inside, begins, place, -, shows⟩ := failure_points_into_source failed
  exact ⟨failed, ⟨position, inside, begins, place⟩, shows⟩

end Engine
end Templating
