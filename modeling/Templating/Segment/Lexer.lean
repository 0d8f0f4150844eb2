import Templating.Limits.Check
import Templating.Segment.Basic
import Templating.Tag

/-!
# The segments of a template

A template is read from left to right: text up to the next opening braces is one
segment, and a tag from its opening to its closing braces is another. The text
between the braces, cut at both ends, decides what kind of tag it is. A tag
without closing braces, or with too long a text, is an error at its opening.
-/

namespace Templating

/-- What the text of a tag says: the kind of segment and what it holds besides
the keyword. -/
def Tag.classify (raw : Bool) (body : List Char) : SegmentKind × List Char :=
  let cut := Text.trim Text.isMargin
  match argument? "if" body with
  | some condition => (.opening .ifBlock, cut condition)
  | none =>
    match argument? "elif" body with
    | some condition => (.opening .elifBranch, cut condition)
    | none =>
      if body = "else".toList then (.opening .elseBranch, [])
      else if body = "endif".toList then (.closing .endIf, [])
      else
        match argument? "each" body with
        | some loop => (.opening .eachBlock, cut loop)
        | none =>
          if body = "endeach".toList then (.closing .endEach, [])
          else if raw then (.rawOutput, body)
          else (.output, body)

/-- Take the mark of a raw output tag off the text after the opening braces. -/
def Tag.splitRawMark : List Char → Bool × List Char
  | '!' :: rest => (true, rest)
  | rest => (false, rest)

theorem Tag.length_splitRawMark_le (text : List Char) :
    (splitRawMark text).2.length ≤ text.length := by
  unfold splitRawMark
  split <;> simp

/-- The number of characters of a tag with its braces and its mark. -/
def Tag.size (raw : Bool) (body : List Char) : Nat :=
  body.length + if raw then 5 else 4

namespace Segment

/-- The segment of a tag. -/
def ofTag (raw : Bool) (body : List Char) (position : Nat) : Segment :=
  let (kind, content) := Tag.classify raw body
  { kind, content := String.ofList content, position }

/-- The segment of literal text. -/
def ofText (content : List Char) (position : Nat) : Segment :=
  { kind := .text, content := String.ofList content, position }

/-- The segments of the rest of a template, which begins at an offset. -/
def lexFrom
    (limits : Limits)
    (template : String)
    (position : Nat)
    (text : List Char) :
    Except Error (List Segment) :=
  match text with
  | [] => .ok []
  | '\x7b' :: '\x7b' :: inside =>
    match _closed : Tag.splitClosing? false (Tag.splitRawMark inside).2 with
    | none => .error (.parse .unclosedTag (some position) (some template))
    | some (body, rest) => do
      let trimmed := Text.trim Text.isMargin body
      limits.checkLength trimmed.length (some position) (some template)
      let size := Tag.size (Tag.splitRawMark inside).1 body
      let segments ← lexFrom limits template (position + size) rest
      return ofTag (Tag.splitRawMark inside).1 trimmed position :: segments
  | character :: others => do
    let content := character :: (Tag.splitOpening others).1
    let segments ←
      lexFrom limits template
        (position + content.length) (Tag.splitOpening others).2
    return ofText content position :: segments
termination_by text.length
decreasing_by
  · have shorter := Tag.length_lt_of_splitClosing? _closed
    have unmarked := Tag.length_splitRawMark_le inside
    simp only [List.length_cons]
    omega
  · have shorter := Tag.length_splitOpening_le others
    simp only [List.length_cons]
    omega

/-- The segments of a template. -/
def ofTemplate (limits : Limits) (template : String) :
    Except Error (List Segment) :=
  lexFrom limits template 0 template.toList

end Segment

/-- A template without opening braces has no tags. -/
def hasTags (template : String) : Bool :=
  !(Tag.splitOpening template.toList).2.isEmpty

end Templating
