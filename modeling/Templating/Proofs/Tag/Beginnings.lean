import Templating.Proofs.Template.Literals

/-!
# Where tags begin

From left to right a text is literal up to the first two opening braces, where a tag
begins; behind the closing braces of that tag it goes on in the same way. Every segment of
a template that is no text is the tag that begins at its offset, and a text that is not
cut into segments has a tag that is not closed or too long.
-/

namespace Templating
namespace Tag

/-- In a text from an offset on, a tag begins at another offset, with this text behind its
opening braces. -/
inductive Begins : Nat → List Char → Nat → List Char → Prop
  | here (position : Nat) (inside : List Char) :
      Begins position ('\x7b' :: '\x7b' :: inside) position inside
  | behindTag
      {start position : Nat}
      {first body rest inside : List Char}
      (closed : splitClosing? false (splitRawMark first).2 = some (body, rest))
      (begins :
        Begins (start + size (splitRawMark first).1 body) rest position inside) :
      Begins start ('\x7b' :: '\x7b' :: first) position inside
  | behindText
      {start position : Nat}
      {character : Char}
      {others inside : List Char}
      (literal : ∀ first, character :: others ≠ '\x7b' :: '\x7b' :: first)
      (begins : Begins (start + 1) others position inside) :
      Begins start (character :: others) position inside

/-- At the offset where a tag begins stand two opening braces. -/
theorem Begins.drop
    {start position : Nat}
    {text inside : List Char}
    (begins : Begins start text position inside)
    {template : List Char}
    (place : template.drop start = text) :
    template.drop position = '\x7b' :: '\x7b' :: inside := by
  induction begins with
  | here position inside => exact place
  | @behindTag start position first body rest inside closed begins inductionHypothesis =>
      obtain ⟨front, whole, length⟩ := exists_append_of_splitClosing? closed
      apply inductionHypothesis
      rw [← List.drop_drop, place, whole, ← length, List.drop_left]
  | behindText literal begins inductionHypothesis =>
      apply inductionHypothesis
      rw [← List.drop_drop, place, List.drop_one, List.tail_cons]

/-- The tags of a text are those behind its literal front. -/
theorem Begins.behind_splitOpening
    {start position : Nat}
    {text inside : List Char}
    (begins :
      Begins (start + (splitOpening text).1.length) (splitOpening text).2 position
        inside) :
    Begins start text position inside := by
  induction text generalizing start with
  | nil => exact begins
  | cons character others inductionHypothesis =>
      by_cases tag : ∃ first, character :: others = '\x7b' :: '\x7b' :: first
      · obtain ⟨first, rfl, rfl⟩ := tag
        exact begins
      · -- The first character is literal, so it stands in front of the same tags.
        have literal : ∀ first, character :: others ≠ '\x7b' :: '\x7b' :: first :=
          fun first same => tag ⟨first, same⟩
        rw [splitOpening_cons literal, List.length_cons, Nat.add_comm _ 1,
          ← Nat.add_assoc] at begins
        exact .behindText literal (inductionHypothesis begins)

/-- The tags behind the first literal text are tags of the whole text. -/
theorem Begins.behind_literal
    {start position : Nat}
    {character : Char}
    {others inside : List Char}
    (literal : ∀ first, character :: others ≠ '\x7b' :: '\x7b' :: first)
    (begins :
      Begins (start + (character :: (splitOpening others).1).length)
        (splitOpening others).2 position inside) :
    Begins start (character :: others) position inside := by
  apply Begins.behind_splitOpening
  rw [splitOpening_cons literal]
  exact begins

/-- What is wrong with a tag on its own: it has no closing braces, or too long a text. -/
inductive Unreadable (limits : Limits) (inside : List Char) : ParseCause → Prop
  | unclosed (noClosing : splitClosing? false (splitRawMark inside).2 = none) :
      Unreadable limits inside .unclosedTag
  | tooLong
      {body rest : List Char}
      (closed : splitClosing? false (splitRawMark inside).2 = some (body, rest))
      (long : limits.expressionLength < (Text.trim Text.isMargin body).length) :
      Unreadable limits inside (.expressionTooLong limits.expressionLength)

/-- The segment of a tag that begins at an offset. -/
inductive Reads (position : Nat) (inside : List Char) : Segment → Prop
  | ofTag
      {body rest : List Char}
      (closed : splitClosing? false (splitRawMark inside).2 = some (body, rest)) :
      Reads position inside
        (.ofTag (splitRawMark inside).1 (Text.trim Text.isMargin body) position)

theorem Reads.position_eq
    {position : Nat}
    {inside : List Char}
    {segment : Segment}
    (reads : Reads position inside segment) :
    segment.position = position := by
  cases reads with
  | ofTag closed => rfl

/-- The text that a tag holds is part of the text behind its opening braces. -/
theorem Reads.source_infix
    {position : Nat}
    {inside : List Char}
    {segment : Segment}
    {source : String}
    (reads : Reads position inside segment)
    (holds : segment.source? = some source) :
    source.toList <:+: inside := by
  cases reads with
  | @ofTag body rest closed =>
      obtain ⟨margin, front, back, trimmed, -⟩ :=
        Text.CutFrom.trim Text.isMargin (by decide) body
      obtain ⟨_, before, after, cut, -⟩ := Segment.cutFrom_of_source? holds
      have marked : (splitRawMark inside).2 <:+ inside := by
        unfold splitRawMark
        split
        · exact List.suffix_cons ..
        · exact List.suffix_rfl
      have inBody : source.toList <:+: body := by
        rw [trimmed, cut]
        exact ⟨front ++ before, after ++ back, by simp⟩
      have inMarked : body <:+: (splitRawMark inside).2 := by
        rw [← splitClosing?_append closed]
        exact (List.prefix_append ..).isInfix
      exact inBody.trans (inMarked.trans marked.isInfix)

end Tag

namespace Segment

variable {limits : Limits}

/-- Every segment of a text is literal text, or the tag that begins at its offset. -/
theorem Cuts.reads
    {start : Nat}
    {text : List Char}
    {segments : List Segment}
    (cuts : Cuts limits start text segments) :
    ∀ segment ∈ segments,
      segment.kind = .text ∨
        ∃ position inside,
          Tag.Begins start text position inside ∧ Tag.Reads position inside segment := by
  induction cuts with
  | done position => simp
  | @tag position inside body rest segments closed short cuts inductionHypothesis =>
      refine List.forall_mem_cons.2 ⟨.inr ⟨_, _, .here _ _, .ofTag closed⟩, ?_⟩
      intro segment member
      refine (inductionHypothesis segment member).imp_right ?_
      rintro ⟨position, inside, begins, reads⟩
      exact ⟨position, inside, .behindTag closed begins, reads⟩
  | @text position character others segments literal cuts inductionHypothesis =>
      refine List.forall_mem_cons.2 ⟨.inl rfl, fun segment member => ?_⟩
      refine (inductionHypothesis segment member).imp_right ?_
      rintro ⟨position, inside, begins, reads⟩
      exact ⟨position, inside, .behind_literal literal begins, reads⟩

/-- A text that is not cut into segments has a tag that cannot be read. -/
theorem unreadable_of_lexFrom
    {template : String}
    {start : Nat}
    {text : List Char}
    {error : Error}
    (failed : lexFrom limits template start text = .error error) :
    ∃ position inside cause,
      Tag.Begins start text position inside ∧ Tag.Unreadable limits inside cause ∧
        error = .parse cause (some (position : Int)) (some template) := by
  fun_induction lexFrom limits template start text with
  | case1 => cases failed
  | case2 position inside noClosing =>
      cases failed
      exact ⟨_, _, _, .here _ _, .unclosed noClosing, rfl⟩
  | case3 position inside body rest closed trimmed inductionHypothesis =>
      obtain tooLong | ⟨_, failed⟩ := bind_error failed
      · unfold Limits.checkLength at tooLong
        split at tooLong
        · cases tooLong
        · next long =>
            cases tooLong
            exact ⟨_, _, _, .here _ _, .tooLong closed (Nat.lt_of_not_le long), rfl⟩
      · obtain restFailed | ⟨others, made⟩ := bind_error failed
        · obtain ⟨position, inside, cause, begins, unreadable, same⟩ :=
            inductionHypothesis restFailed
          exact ⟨position, inside, cause, .behindTag closed begins, unreadable, same⟩
        · cases made
  | case4 position character others literal content inductionHypothesis =>
      obtain restFailed | ⟨others, made⟩ := bind_error failed
      · obtain ⟨position, inside, cause, begins, unreadable, same⟩ :=
          inductionHypothesis restFailed
        refine ⟨position, inside, cause, .behind_literal ?_ begins, unreadable, same⟩
        rintro first ⟨⟩
        exact literal first rfl rfl
      · cases made

end Segment
end Templating
