import Templating.Proofs.Printing.Segments
import Templating.Proofs.Tag.Quoting

/-!
# How far a tag and a literal text reach

A tag reaches from its opening braces up to the first closing braces that are in no
string, and a literal text up to the opening braces of the next tag. A tag that has no
closing braces, or too long a text between its braces, is no segment.
-/

namespace Templating
namespace Tag

/-- At the front of a text stands a tag, up to the first closing braces that are in no
string. A mark directly behind the opening braces is the mark of raw output. -/
structure Spans (raw : Bool) (body rest text : List Char) : Prop where
  written : text = (Piece.tag raw body).printed ++ rest
  unmarked : raw = false → body.head? ≠ some '!'
  ends : EndsBehind body (body ++ '\x7d' :: '\x7d' :: rest)

/-- At the front of a text stands a tag that is no segment: it has no closing braces, or
too long a text between them. -/
inductive Faulty (limits : Limits) (text : List Char) : ParseCause → Prop
  | unclosed
      {raw : Bool}
      {inside : List Char}
      (written : text = '\x7b' :: '\x7b' :: ((if raw then ['!'] else []) ++ inside))
      (unmarked : raw = false → inside.head? ≠ some '!')
      (noBraces : ∀ front, ¬ClosesBehind front inside) :
      Faulty limits text .unclosedTag
  | tooLong
      {raw : Bool}
      {body rest : List Char}
      (spans : Spans raw body rest text)
      (long : limits.expressionLength < (Text.trim Text.isMargin body).length) :
      Faulty limits text (.expressionTooLong limits.expressionLength)

/-- The tag that the scanner splits off. -/
theorem spans_of_splitClosing?
    {inside body rest : List Char}
    (closed : splitClosing? false (splitRawMark inside).2 = some (body, rest)) :
    Spans (splitRawMark inside).1 body rest ('\x7b' :: '\x7b' :: inside) := by
  obtain ⟨marked, unmarked⟩ := splitRawMark_spec inside
  obtain ⟨whole, ends⟩ := splitClosing?_eq_some_iff.1 closed
  rw [whole] at ends unmarked
  refine ⟨?_, fun noMark first => unmarked noMark ?_, ends⟩
  · rw [whole] at marked
    simpa [Piece.printed] using marked
  · obtain ⟨others, rfl⟩ := List.head?_eq_some_iff.1 first
    rfl

namespace Spans

variable {raw : Bool} {body rest text : List Char}

/-- The scanner splits the tag off. -/
theorem exists_split (spans : Spans raw body rest text) :
    ∃ inside marked,
      text = '\x7b' :: '\x7b' :: inside ∧ splitRawMark inside = (raw, marked) ∧
        splitClosing? false marked = some (body, rest) := by
  refine ⟨_, _, ?_, splitRawMark_tag rest spans.unmarked,
    splitClosing?_eq_some_iff.2 ⟨rfl, spans.ends⟩⟩
  rw [spans.written, printed_append]

end Spans

/-- In the text in front of a tag no tag begins, nor where the two meet. -/
theorem splitOpening_literal (text : List Char) :
    ¬['\x7b', '\x7b'] <:+: (splitOpening text).1 ∧
      ¬BracesMeet (splitOpening text).1 (splitOpening text).2 := by
  fun_induction splitOpening text with
  | case1 => decide
  | case2 rest => simp [BracesMeet]
  | case3 character rest literal front tag split inductionHypothesis =>
      have whole := splitOpening_append rest
      rw [split] at inductionHypothesis whole
      obtain ⟨untagged, apart⟩ := inductionHypothesis
      constructor
      · rw [List.infix_cons_iff, not_or]
        refine ⟨?_, untagged⟩
        rintro ⟨more, same⟩
        obtain ⟨rfl, rfl⟩ := List.cons.inj same
        exact literal (more ++ tag) rfl (by simp [← whole])
      · rintro ⟨last, first⟩
        cases front with
        | nil =>
            cases last
            obtain ⟨inside, rfl⟩ := List.head?_eq_some_iff.1 first
            exact literal inside rfl whole.symm
        | cons next more => exact apart ⟨by simpa using last, first⟩

end Tag
end Templating
