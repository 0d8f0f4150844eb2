import Templating.Proofs.Render.Emission
import Templating.Proofs.Render.Refinement
import Templating.Proofs.Text.Escaping

/-!
# Values cannot bring markup into the output

What a render gives is made of the texts of the template and of what values
display. Unless a tag asks for a value as it is, the value is escaped, so that all
the markup of the output comes from the texts of the template.
-/

namespace Templating
namespace Unbounded

/-- The literal text that a piece is. -/
def Piece.literal? : Piece → Option String
  | .literal content => some content
  | _ => none

/-- A piece that is no value written as it is. -/
def Piece.IsSafe : Piece → Prop
  | .raw _ _ _ => False
  | _ => True

/-- The text of several pieces. -/
def joined (emitted : List Piece) : String := String.join (emitted.map Piece.text)

theorem toList_joined_cons (piece : Piece) (rest : List Piece) :
    (joined (piece :: rest)).toList = piece.text.toList ++ (joined rest).toList := by
  simp [joined]

/-- The character behind the first ones of the output is one of a literal
piece. -/
def FromLiteral (emitted : List Piece) (before : List Char) : Prop :=
  ∃ earlier content later front character back,
    emitted = earlier ++ .literal content :: later ∧
      content.toList = front ++ character :: back ∧
      before = (joined earlier).toList ++ front

theorem FromLiteral.cons
    {emitted : List Piece}
    {before : List Char}
    (piece : Piece)
    (literal : FromLiteral emitted before) :
    FromLiteral (piece :: emitted) (piece.text.toList ++ before) := by
  obtain ⟨earlier, content, later, front, character, back, rfl, inside, rfl⟩ := literal
  refine ⟨piece :: earlier, content, later, front, character, back, rfl, inside, ?_⟩
  rw [toList_joined_cons, List.append_assoc]

/-- Without raw values, only literal pieces have angle brackets and quotes. -/
theorem count_joined
    {emitted : List Piece}
    (safe : ∀ piece ∈ emitted, piece.IsSafe)
    {delimiter : Char}
    (delimits : delimiter ∈ Text.delimiters) :
    (joined emitted).toList.count delimiter =
      (String.join (emitted.filterMap Piece.literal?)).toList.count delimiter := by
  induction emitted with
  | nil => rfl
  | cons piece rest inductionHypothesis =>
      have others := inductionHypothesis
        fun other inside => safe other (List.mem_cons_of_mem piece inside)
      have isSafe := safe piece List.mem_cons_self
      rw [toList_joined_cons, List.count_append, others]
      cases piece with
      | literal content => simp [Piece.text, Piece.literal?]
      | escaped expr value displayed =>
          rw [Piece.text, Text.count_escape delimits, Nat.zero_add]
          rfl
      | raw expr value displayed => cases isSafe

/-- Without raw values, an ampersand that no literal piece has begins an
entity. -/
theorem ampersand_of_joined
    {emitted : List Piece}
    (safe : ∀ piece ∈ emitted, piece.IsSafe)
    {before rest : List Char}
    (parts : (joined emitted).toList = before ++ '&' :: rest) :
    FromLiteral emitted before ∨
      ∃ entity ∈ Text.entities, entity <+: '&' :: rest := by
  induction emitted generalizing before with
  | nil => simp [joined] at parts
  | cons piece others inductionHypothesis =>
      have further {start : List Char}
          (parts : (joined others).toList = start ++ '&' :: rest) :
          FromLiteral (piece :: others) (piece.text.toList ++ start) ∨
            ∃ entity ∈ Text.entities, entity <+: '&' :: rest :=
        (inductionHypothesis
          (fun other inside => safe other (List.mem_cons_of_mem piece inside))
          parts).imp_left (·.cons piece)
      have isSafe := safe piece List.mem_cons_self
      rw [toList_joined_cons, List.append_eq_append_iff] at parts
      rcases parts with ⟨start, rfl, parts⟩ | ⟨start, inside, parts⟩
      · exact further parts
      · cases start with
        | nil =>
            have found :=
              further (show (joined others).toList = [] ++ '&' :: rest from parts.symm)
            rwa [inside, List.append_nil, List.append_nil] at found
        | cons character start =>
            cases parts
            cases piece with
            | literal content =>
                exact .inl ⟨[], content, others, before, '&', start, rfl, inside, rfl⟩
            | escaped expr value displayed =>
                obtain ⟨entity, isEntity, begins⟩ := Text.entity_of_ampersand inside
                exact .inr ⟨entity, isEntity, begins.trans (List.prefix_append _ _)⟩
            | raw expr value displayed => cases isSafe

variable {σ : Type}

/-- A template without raw output tags emits no value as it is. -/
theorem Piece.EmittedBy.isSafe
    {environment : Environment σ}
    {leaves : List Node}
    {piece : Piece}
    (noRaw : ∀ expr, .rawOutput expr ∉ leaves)
    (emitted : piece.EmittedBy environment leaves) :
    piece.IsSafe := by
  cases emitted with
  | literal leaf => trivial
  | escaped leaf evaluates displays => trivial
  | raw leaf evaluates displays => exact absurd leaf (noRaw _)

/-- The output of a render is made of the pieces of its run in order. Each of them
is the content of a text node, or what the value of an output tag displays,
escaped unless the tag is a raw one. What is escaped can be read back. A template
without raw output tags has angle brackets and quotes in its output only where its
texts have them, and every ampersand of its output that is not in one of its texts
begins an entity. -/
theorem renderTemplate_markup
    (environment : Environment σ)
    (data : Scope)
    (template : Template)
    (session : Session σ)
    {text : String}
    {final : Session σ}
    (rendered :
      Render.renderTemplate environment data template session = .ok text final) :
    let emitted :=
      pieces
        ((renderTemplate environment data template).run session.host).occurrences
    final.pieces.reverse = emitted.map Piece.text ∧
      text = joined emitted ∧
      (∀ piece ∈ emitted,
        piece.EmittedBy environment (Node.leavesAll template)) ∧
      (∀ displayed : String,
        (Text.escape displayed).toList = Text.escapeInTurn displayed.toList ∧
          Text.unescape (Text.escape displayed).toList = displayed.toList) ∧
      ((∀ expr, .rawOutput expr ∉ Node.leavesAll template) →
        (∀ delimiter ∈ Text.delimiters,
          text.toList.count delimiter =
            (String.join (emitted.filterMap Piece.literal?)).toList.count
              delimiter) ∧
          ∀ before rest,
            text.toList = before ++ '&' :: rest →
              FromLiteral emitted before ∨
                ∃ entity ∈ Text.entities, entity <+: '&' :: rest) := by
  intro emitted
  obtain ⟨ended, within, rfl, rfl⟩ :=
    reached_of_renderTemplate environment data template session rendered
  have fromLeaves :
      ∀ piece ∈ emitted, piece.EmittedBy environment (Node.leavesAll template) :=
    renderAll_emits environment template (.start data) session.host
  refine ⟨by simp [reached, emitted], rfl, fromLeaves, ?_, ?_⟩
  · exact fun displayed =>
      ⟨Text.escape_eq_escapeInTurn displayed, Text.unescape_escape displayed⟩
  · intro noRaw
    have safe : ∀ piece ∈ emitted, piece.IsSafe :=
      fun piece inside => (fromLeaves piece inside).isSafe noRaw
    exact ⟨fun delimiter delimits => count_joined safe delimits,
      fun before rest parts => ampersand_of_joined safe parts⟩

/-- The ampersand of a text stays, and the angle bracket of a value is written as
an entity. -/
theorem renderTemplate_markup_of_value :
    let environment : Environment Unit :=
      { limits := .standard, registry := .empty, source := "" }
    let template : Template := [.text "&", .output (.string 0 "<")]
    ∃ final,
      Render.renderTemplate environment [] template (.start [] ()) =
          .ok "&&lt;" final ∧
        final.pieces.reverse = ["&", "&lt;"] := by
  intro environment template
  refine ⟨_, rfl, ?_⟩
  have markup := renderTemplate_markup environment [] template (.start [] ()) rfl
  exact markup.1.trans rfl

end Unbounded
end Templating
