import Templating.Proofs.Printing.Derivations
import Templating.Proofs.Printing.Template
import Templating.Proofs.Segment.Joining
import Templating.Proofs.Template.Binding

/-!
# The segments of canonical texts

Each piece of the canonical text of a template is cut off as one segment: a tag ends
where its own braces close it, and literal text where the next tag begins. The keyword
in front of an expression in parentheses decides what kind of tag it is.
-/

namespace Templating

namespace Tag

/-- A tag begins, or nothing is left. -/
def Opens (rest : List Char) : Prop :=
  rest = [] ∨ ∃ inside, rest = '\x7b' :: '\x7b' :: inside

/-- Literal text reaches up to the next tag. -/
theorem splitOpening_append_of_opens
    {content rest : List Char}
    (untagged : ¬ ['\x7b', '\x7b'] <:+: content)
    (closed : content.getLast? ≠ some '\x7b')
    (opens : Opens rest) :
    splitOpening (content ++ rest) = (content, rest) := by
  have apart : ¬BracesMeet content rest := fun meet => closed meet.1
  rw [splitOpening_join apart, if_pos ((splitOpening_eq_nil _).2 untagged)]
  rcases opens with rfl | ⟨inside, rfl⟩ <;> simp [splitOpening]

theorem printed_append (raw : Bool) (body rest : List Char) :
    (Piece.tag raw body).printed ++ rest =
      '\x7b' :: '\x7b' ::
        ((if raw then ['!'] else []) ++ (body ++ '\x7d' :: '\x7d' :: rest)) := by
  simp [Piece.printed]

/-- A tag is written in as many characters as its size says. -/
theorem length_printed (raw : Bool) (body : List Char) :
    (Piece.tag raw body).printed.length = size raw body := by
  cases raw <;> simp [Piece.printed, size]

/-- A keyword in front of a blank and of what does not begin with one. -/
theorem argument?_append
    (keyword : String)
    {argument : List Char}
    (visible : ∀ character ∈ argument.head?, Text.isBlank character = false)
    (nonempty : argument ≠ []) :
    argument? keyword (keyword.toList ++ ' ' :: argument) = some argument := by
  have isKeyword :
      afterWord? keyword.toList (keyword.toList ++ ' ' :: argument) =
        some (' ' :: argument) :=
    afterWord?_eq_some.2 rfl
  obtain ⟨blanks, rest⟩ := @Text.takeWhile_append_of_head Text.isBlank [' '] argument
    (by simp [Text.isBlank]) visible
  rw [List.singleton_append] at blanks rest
  rw [argument?, isKeyword, Option.bind_some, afterBlanks?]
  simp [blanks, rest, nonempty]

/-- Parentheses are no margins, so nothing is cut from what stands in them. -/
theorem trim_parenthesized
    {drops : Char → Bool}
    {front back : List Char}
    (kept : drops '(' = false ∧ drops ')' = false)
    (frontDropped : ∀ character ∈ front, drops character = true)
    (backDropped : ∀ character ∈ back, drops character = true)
    (text : List Char) :
    Text.trim drops (front ++ Text.parenthesized text ++ back) =
      Text.parenthesized text := by
  refine Text.trim_between frontDropped backDropped (List.cons_ne_nil _ _) ?_ ?_
  · rintro _ ⟨⟩
    exact kept.1
  · intro character last
    rw [Text.parenthesized, ← List.cons_append, List.getLast?_append] at last
    cases last
    exact kept.2

theorem trim_parenthesized_self
    {drops : Char → Bool}
    (kept : drops '(' = false ∧ drops ')' = false)
    (text : List Char) :
    Text.trim drops (Text.parenthesized text) = Text.parenthesized text := by
  have whole := @trim_parenthesized drops [] [] kept (by simp) (by simp) text
  rwa [List.nil_append, List.append_nil] at whole

theorem argument?_parenthesized (keyword : String) (text : List Char) :
    argument? keyword (keyword.toList ++ ' ' :: Text.parenthesized text) =
      some (Text.parenthesized text) :=
  argument?_append keyword (by rintro _ ⟨⟩; decide) (List.cons_ne_nil _ _)

/-- Nothing is cut from a keyword with an expression in parentheses. -/
theorem trim_append_parenthesized
    {front : List Char}
    (nonempty : front ≠ [])
    (first : ∀ character ∈ front.head?, Text.isMargin character = false)
    (text : List Char) :
    Text.trim Text.isMargin (front ++ Text.parenthesized text) =
      front ++ Text.parenthesized text := by
  have whole :=
    @Text.trim_between Text.isMargin [] (front ++ Text.parenthesized text) []
      (by simp) (by simp) (by simp [nonempty])
      (by rwa [List.head?_append_of_ne_nil front nonempty])
      (by
        intro character last
        rw [Text.parenthesized, ← List.cons_append, ← List.append_assoc,
          List.getLast?_append] at last
        cases last
        decide)
  rwa [List.nil_append, List.append_nil] at whole

theorem classify_parenthesized (raw : Bool) (text : List Char) :
    classify raw (Text.parenthesized text) =
      (if raw then .rawOutput else .output, Text.parenthesized text) := by
  cases raw <;> rfl

theorem classify_if (text : List Char) :
    classify false ("if".toList ++ ' ' :: Text.parenthesized text) =
      (.opening .ifBlock, Text.parenthesized text) := by
  rw [classify, argument?_parenthesized]
  simp only [@trim_parenthesized_self Text.isMargin (by decide) text]

theorem classify_elif (text : List Char) :
    classify false ("elif".toList ++ ' ' :: Text.parenthesized text) =
      (.opening .elifBranch, Text.parenthesized text) := by
  have noIf :
      argument? "if" ("elif".toList ++ ' ' :: Text.parenthesized text) = none := rfl
  rw [classify, noIf, argument?_parenthesized]
  simp only [@trim_parenthesized_self Text.isMargin (by decide) text]

theorem classify_each {loop : List Char}
    (nonempty : loop ≠ [])
    (first : ∀ character ∈ loop.head?, Text.isBlank character = false) :
    classify false ("each".toList ++ ' ' :: loop) =
      (.opening .eachBlock, Text.trim Text.isMargin loop) := by
  have noIf : argument? "if" ("each".toList ++ ' ' :: loop) = none := rfl
  have noElif : argument? "elif" ("each".toList ++ ' ' :: loop) = none := rfl
  rw [classify, noIf, noElif, argument?_append "each" first nonempty]
  rfl

end Tag

namespace Segment

variable {limits : Limits} {position : Nat} {rest : List Char}

/-- In front of a rest, a text is cut into segments. -/
def Yields
    (limits : Limits)
    (position : Nat)
    (text : List Char)
    (segments : List Segment)
    (rest : List Char) :
    Prop :=
  ∀ others,
    Cuts limits (position + text.length) rest others →
      Cuts limits position (text ++ rest) (segments ++ others)

namespace Yields

theorem nil : Yields limits position [] [] rest :=
  fun _ cuts => cuts

theorem append
    {text more : List Char}
    {segments others : List Segment}
    (first : Yields limits position text segments (more ++ rest))
    (second : Yields limits (position + text.length) more others rest) :
    Yields limits position (text ++ more) (segments ++ others) rest := by
  intro behind cuts
  rw [List.length_append, ← Nat.add_assoc] at cuts
  rw [List.append_assoc, List.append_assoc]
  exact first _ (second _ cuts)

/-- A tag ends at its own closing braces. -/
theorem tag
    {raw : Bool}
    {body : List Char}
    (passes : Tag.Passes body)
    (unmarked : body.head? ≠ some '!')
    (fits : (Piece.tag raw body).Fits limits) :
    Yields limits position (Piece.tag raw body).printed
      [ofTag raw (Text.trim Text.isMargin body) position] rest := by
  intro others cuts
  have mark := Tag.splitRawMark_tag rest fun _ : raw = false => unmarked
  have closed := passes.splitClosing?_eq_some rest
  rw [Tag.length_printed] at cuts
  rw [Tag.printed_append]
  exact .tag_of_split mark closed fits cuts

/-- Literal text ends where the next tag begins. -/
theorem text
    {content : List Char}
    (literal : Text.IsLiteral content)
    (opens : Tag.Opens rest) :
    Yields limits position (Piece.text content).printed [ofText content position]
      rest :=
  fun _ cuts =>
    .text_of_split
      (Tag.splitOpening_append_of_opens literal.untagged literal.closed opens)
      literal.nonempty cuts

/-- A tag whose text begins and ends with no margin. -/
theorem ofClassify
    {body content : List Char}
    {kind : SegmentKind}
    (passes : Tag.Passes body)
    (unmarked : body.head? ≠ some '!')
    (kept : Text.trim Text.isMargin body = body)
    (classified : Tag.classify false body = (kind, content))
    (fits : (Piece.tag false body).Fits limits) :
    Yields limits position (Piece.tag false body).printed
      [⟨kind, String.ofList content, position⟩] rest := by
  have whole := @tag limits position rest _ _ passes unmarked fits
  rwa [kept, ofTag, classified] at whole

end Yields
end Segment
end Templating
