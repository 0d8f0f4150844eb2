import Templating.Text.Character

/-!
# Lines and columns

An offset into a text has a line and a column, both counted from one. Lines end
at line feeds. An offset may lie outside of the text: a negative one counts from
the end, and the part of the text before it is cut at the text's ends, while the
column is measured from the offset as it was given.
-/

namespace Templating
namespace Text

/-- A line and a column, both counted from one. -/
structure Place where
  /-- The number of the line. -/
  line : Nat
  /-- The column, which is below one only for offsets outside of the text. -/
  column : Int
  deriving DecidableEq

/-- The lines of a text, without their line feeds; there is always one. -/
def lines (text : List Char) : List (List Char) :=
  text.foldr
    (fun character rest =>
      if character = '\n' then [] :: rest
      else
        match rest with
        | [] => [[character]]
        | first :: others => (character :: first) :: others)
    [[]]

@[simp] theorem lines_nil : lines [] = [[]] := rfl

/-- The number of characters before an offset, which counts from the end when it
is negative and never leaves the text. -/
def clip (offset : Int) (length : Nat) : Nat :=
  if offset < 0 then (offset + length).toNat else min offset.toNat length

/-- The part of a text before an offset. -/
def before (text : List Char) (offset : Int) : List Char :=
  text.take (clip offset text.length)

/-- The number of characters up to the last line feed, that one included. -/
def lastLineStart (text : List Char) : Nat :=
  text.length - (text.reverse.takeWhile (· ≠ '\n')).length

/-- The place of an offset in a text. -/
def placeOf (text : List Char) (offset : Int) : Place :=
  { line := (before text offset).count '\n' + 1
    column := offset - lastLineStart (before text offset) + 1 }

/-- The given number of spaces, none when it is negative. -/
def indentation (width : Int) : String :=
  String.ofList (List.replicate width.toNat ' ')

end Text
end Templating
