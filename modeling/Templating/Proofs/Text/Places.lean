import Mathlib.Data.List.Induction
import Templating.Error

/-!
# The line of an offset

The line feeds before an offset tell the line that it is on. That line is what stands
around the offset up to the nearest line feeds, or up to the ends of the text, and the
column of the offset is in the line or just behind it.
-/

namespace Templating
namespace Text

/-- The part of a line that stands at the end of a text. -/
def lastLine (text : List Char) : List Char :=
  (text.reverse.takeWhile (· ≠ '\n')).reverse

/-- The part of a line that stands at the front of a text. -/
def firstLine (text : List Char) : List Char := text.takeWhile (· ≠ '\n')

theorem lines_feed (text : List Char) : lines ('\n' :: text) = [] :: lines text := rfl

theorem lines_cons_of_ne
    {character : Char}
    {text first : List Char}
    {others : List (List Char)}
    (notFeed : character ≠ '\n')
    (behind : lines text = first :: others) :
    lines (character :: text) = (character :: first) :: others := by
  rw [lines] at behind ⊢
  rw [List.foldr_cons, behind, if_neg notFeed]

/-- The first line ends before the first line feed. -/
theorem lines_eq_cons (text : List Char) :
    ∃ others, lines text = firstLine text :: others := by
  induction text with
  | nil => exact ⟨[], rfl⟩
  | cons character rest inductionHypothesis =>
      by_cases isFeed : character = '\n'
      · subst isFeed
        exact ⟨lines rest, lines_feed rest⟩
      · obtain ⟨others, behind⟩ := inductionHypothesis
        refine ⟨others, (lines_cons_of_ne isFeed behind).trans ?_⟩
        simp [firstLine, isFeed]

/-- At a line feed the lines before it are separated from those behind it. -/
theorem lines_append_feed (before after : List Char) :
    lines (before ++ '\n' :: after) = lines before ++ lines after := by
  induction before with
  | nil => rfl
  | cons character rest inductionHypothesis =>
      by_cases isFeed : character = '\n'
      · subst isFeed
        rw [List.cons_append, lines_feed, lines_feed, inductionHypothesis,
          List.cons_append]
      · obtain ⟨others, behind⟩ := lines_eq_cons rest
        have whole : lines (rest ++ '\n' :: after) =
            firstLine rest :: (others ++ lines after) := by
          rw [inductionHypothesis, behind, List.cons_append]
        rw [List.cons_append, lines_cons_of_ne isFeed whole,
          lines_cons_of_ne isFeed behind, List.cons_append]

/-- There is one line more than there are line feeds. -/
theorem length_lines (text : List Char) : (lines text).length = text.count '\n' + 1 := by
  induction text with
  | nil => rfl
  | cons character rest inductionHypothesis =>
      by_cases isFeed : character = '\n'
      · subst isFeed
        rw [lines_feed, List.length_cons, inductionHypothesis, List.count_cons_self]
      · obtain ⟨others, behind⟩ := lines_eq_cons rest
        rw [behind, List.length_cons] at inductionHypothesis
        rw [lines_cons_of_ne isFeed behind, List.length_cons, inductionHypothesis,
          List.count_cons_of_ne isFeed]

/-- The line of an offset stands around it. -/
theorem line_of_append (before after : List Char) :
    (lines (before ++ after))[before.count '\n']? =
      some (lastLine before ++ firstLine after) := by
  induction before using List.reverseRecOn generalizing after with
  | nil =>
      obtain ⟨others, whole⟩ := lines_eq_cons after
      simp [whole, lastLine]
  | append_singleton earlier character inductionHypothesis =>
      rw [List.append_assoc, List.singleton_append, List.count_append]
      by_cases isFeed : character = '\n'
      · subst isFeed
        obtain ⟨others, whole⟩ := lines_eq_cons after
        rw [lines_append_feed, List.count_singleton_self, ← length_lines,
          List.getElem?_append_right (Nat.le_refl _), Nat.sub_self, whole]
        simp [lastLine]
      · have same := inductionHypothesis (character :: after)
        simpa [lastLine, firstLine, isFeed] using same

/-- The place of an offset in a text is on one of its lines, in it or just behind it. -/
theorem placeOf_append (before after : List Char) :
    placeOf (before ++ after) before.length =
      { line := before.count '\n' + 1, column := (lastLine before).length + 1 } := by
  have short := (List.takeWhile_prefix (· ≠ '\n') (l := before.reverse)).length_le
  have clipped : clip before.length (before ++ after).length = before.length := by
    rw [clip, if_neg (Int.not_lt.2 (Int.natCast_nonneg _)), Int.toNat_natCast,
      List.length_append]
    exact Nat.min_eq_left (Nat.le_add_right ..)
  simp only [placeOf, Text.before, clipped, List.take_left, lastLineStart, lastLine,
    List.length_reverse, Place.mk.injEq, true_and] at short ⊢
  omega

end Text

namespace Error

/-- An error points into a text: at one of its characters or just behind the last one. -/
def PointsInto (error : Error) (source : String) : Prop :=
  error.source = some source ∧
    ∃ position : Nat,
      error.position = some (position : Int) ∧ position ≤ source.toList.length

/-- The context of an error shows a line of a text, with a caret below the column of its
place. The caret is below the line or just behind it. -/
structure Shows
    (error : Error)
    (source : String)
    (place : Text.Place)
    (line : List Char) :
    Prop where
  inSource : error.source = some source
  isPlace : error.place? = some place
  line_pos : 1 ≤ place.line
  isLine : (Text.lines source.toList)[place.line - 1]? = some line
  column_pos : 1 ≤ place.column
  column_le : place.column ≤ line.length + 1
  context :
    ∃ header,
      error.message.toList <+: header.toList ∧
        error.context =
          header ++ "\n  " ++ String.ofList line ++ "\n  " ++
            Text.indentation (place.column - 1) ++ "^"

/-- An error that points into a text shows the line of its offset. -/
theorem shows_of_pointsInto
    {error : Error}
    {source : String}
    (points : error.PointsInto source) :
    ∃ place line, error.Shows source place line := by
  obtain ⟨inSource, position, atPosition, inside⟩ := points
  let before := source.toList.take position
  let after := source.toList.drop position
  have split : before ++ after = source.toList := List.take_append_drop ..
  have length : before.length = position := List.length_take_of_le inside
  have line := Text.line_of_append before after
  have place := Text.placeOf_append before after
  rw [split] at line
  rw [split, length] at place
  have isPlace : error.place? = some (Text.placeOf source.toList position) := by
    simp only [place?, inSource, atPosition]
  rw [place] at isPlace
  refine ⟨_, _, inSource, isPlace, Nat.le_add_left .., line, by dsimp only; omega, ?_, ?_⟩
  · simp only [List.length_append]
    omega
  · simp only [context, inSource, isPlace, sourceLine, Nat.add_sub_cancel, line,
      Option.getD_some]
    refine ⟨_, ?_, rfl⟩
    split
    · exact List.prefix_rfl
    · simp only [String.append_assoc, String.toList_append]
      exact List.prefix_append ..

end Error
end Templating
