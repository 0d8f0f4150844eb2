import Templating.Proofs.Template.Lexing

/-!
# The segments of joined texts

A segment is cut off without a look behind its end, so the segments of a text are found
again when another text stands behind it, and those of the other text follow. Only at the
seam they can differ: text on both sides becomes one text, and two opening braces that
meet there begin a tag.
-/

namespace Templating
namespace Tag

variable {text other : List Char}

/-- Between two texts an opening brace stands on either side. -/
def BracesMeet (text other : List Char) : Prop :=
  text.getLast? = some '\x7b' ∧ other.head? = some '\x7b'

instance : Decidable (BracesMeet text other) := by
  unfold BracesMeet
  infer_instance

theorem BracesMeet.append_left (meet : BracesMeet text other) (front : List Char) :
    BracesMeet (front ++ text) other :=
  ⟨by rw [List.getLast?_append, meet.1, Option.some_or], meet.2⟩

/-- Where no tag begins, none begins when another text follows. -/
theorem ne_opening_append
    {character : Char}
    {others : List Char}
    (literal : ∀ inside, character :: others ≠ '\x7b' :: '\x7b' :: inside)
    (apart : ¬BracesMeet (character :: others) other)
    (inside : List Char) :
    character :: (others ++ other) ≠ '\x7b' :: '\x7b' :: inside := by
  intro same
  obtain ⟨rfl, behind⟩ := List.cons.inj same
  cases others with
  | nil =>
      rw [List.nil_append] at behind
      exact apart ⟨rfl, by rw [behind]; rfl⟩
  | cons next more =>
      obtain ⟨rfl, -⟩ := List.cons.inj behind
      exact literal more rfl

/-- The first tag of a text is also the first one when another text follows, and without
one in the text it is the first one of the other text. -/
theorem splitOpening_join (apart : ¬BracesMeet text other) :
    splitOpening (text ++ other) =
      if (splitOpening text).2 = [] then
        (text ++ (splitOpening other).1, (splitOpening other).2)
      else ((splitOpening text).1, (splitOpening text).2 ++ other) := by
  fun_induction splitOpening text with
  | case1 => simp
  | case2 rest => simp [splitOpening]
  | case3 character rest literal front tag split inductionHypothesis =>
      have noTag : ∀ inside, character :: rest ≠ '\x7b' :: '\x7b' :: inside := by
        rintro inside ⟨⟩
        exact literal inside rfl rfl
      have tailApart := mt (BracesMeet.append_left · [character]) apart
      rw [List.cons_append, splitOpening_cons (ne_opening_append noTag apart),
        inductionHypothesis tailApart, split]
      by_cases closed : tag = [] <;> simp [closed]

/-- A tag ends where it ended when another text follows. -/
theorem splitClosing?_join
    {inString : Bool}
    {body rest : List Char}
    (found : splitClosing? inString text = some (body, rest))
    (other : List Char) :
    splitClosing? inString (text ++ other) = some (body, rest ++ other) := by
  fun_induction splitClosing? inString text generalizing body with
  | case1 => cases found
  | case2 rest =>
      cases found
      rfl
  | case3 character text noBraces inductionHypothesis =>
      obtain ⟨⟨inner, after⟩, closed, same⟩ := Option.map_eq_some_iff.1 found
      cases same
      rw [List.cons_append, splitClosing?, inductionHypothesis closed]
      · rfl
      · intro others first behind
        cases text with
        | nil => cases closed
        | cons next more =>
            obtain ⟨rfl, -⟩ := List.cons.inj behind
            exact noBraces more first rfl
  | case4 character text inductionHypothesis =>
      obtain ⟨⟨inner, after⟩, closed, same⟩ := Option.map_eq_some_iff.1 found
      cases same
      rw [List.cons_append, List.cons_append, splitClosing?, inductionHypothesis closed]
      rfl
  | case5 character text noEscape inductionHypothesis =>
      obtain ⟨⟨inner, after⟩, closed, same⟩ := Option.map_eq_some_iff.1 found
      cases same
      rw [List.cons_append, splitClosing?, inductionHypothesis closed]
      · rfl
      · intro next others first behind
        cases text with
        | nil => cases closed
        | cons next more => exact noEscape next more first rfl

theorem splitRawMark_join (nonempty : text ≠ []) (other : List Char) :
    splitRawMark (text ++ other) =
      ((splitRawMark text).1, (splitRawMark text).2 ++ other) := by
  obtain ⟨character, rest, rfl⟩ := List.exists_cons_of_ne_nil nonempty
  unfold splitRawMark
  split
  · next same =>
      obtain ⟨rfl, rfl⟩ := List.cons.inj same
      rfl
  · next unmarked =>
      split
      · next same =>
          obtain ⟨rfl, -⟩ := List.cons.inj same
          exact absurd rfl (unmarked _)
      · rfl

end Tag

namespace Segment

/-- The same segment further behind. -/
def shift (offset : Nat) (segment : Segment) : Segment :=
  { segment with position := segment.position + offset }

theorem map_shift_zero (segments : List Segment) : segments.map (shift 0) = segments :=
  List.map_id'' (fun segment => by simp [shift]) segments

/-- Segments behind others. Text at the end of the first and at the front of the second
becomes one text. -/
def join : List Segment → List Segment → List Segment
  | [], others => others
  | [⟨.text, content, position⟩], ⟨.text, further, _⟩ :: rest =>
      ⟨.text, content ++ further, position⟩ :: rest
  | segment :: rest, others => segment :: join rest others

/-- Two segments that are not both text stay apart. -/
theorem join_cons
    {segment : Segment}
    {rest others : List Segment}
    (apart :
      segment.kind ≠ .text ∨ rest ≠ [] ∨ ∀ next ∈ others.head?, next.kind ≠ .text) :
    join (segment :: rest) others = segment :: join rest others := by
  rw [join]
  rintro content position further other more rfl rfl rfl
  simp at apart

/-- What stands in front of the last tag stays as it is. -/
theorem join_append
    {last : Segment}
    (isTag : last.kind ≠ .text)
    (front rest others : List Segment) :
    join (front ++ last :: rest) others = front ++ last :: join rest others := by
  induction front with
  | nil => exact join_cons (.inl isTag)
  | cons segment front inductionHypothesis =>
      have isFurther : front ++ last :: rest ≠ [] := by simp
      rw [List.cons_append, join_cons (.inr (.inl isFurther)), inductionHypothesis,
        List.cons_append]

variable {limits : Limits} {position offset : Nat} {text other : List Char}
  {segments others : List Segment}

/-- A text that stands further behind is cut in the same way. -/
theorem Cuts.shift (cuts : Cuts limits position text segments) (offset : Nat) :
    Cuts limits (position + offset) text (segments.map (Segment.shift offset)) := by
  induction cuts with
  | done position => exact .done _
  | tag closed short cuts inductionHypothesis =>
      rw [Nat.add_right_comm] at inductionHypothesis
      exact .tag closed short inductionHypothesis
  | text literal cuts inductionHypothesis =>
      rw [Nat.add_right_comm] at inductionHypothesis
      exact .text literal inductionHypothesis

theorem kind_ofTag (raw : Bool) (body : List Char) (position : Nat) :
    (ofTag raw body position).kind ≠ .text := by
  simp only [ofTag, Tag.classify]
  repeat' split
  all_goals simp

theorem Cuts.eq_nil (cuts : Cuts limits position [] segments) : segments = [] := by
  cases cuts
  rfl

theorem Cuts.ne_nil (cuts : Cuts limits position text segments) (nonempty : text ≠ []) :
    segments ≠ [] := by
  cases cuts with
  | done position => exact absurd rfl nonempty
  | tag closed short cuts => exact List.cons_ne_nil _ _
  | text literal cuts => exact List.cons_ne_nil _ _

/-- Text without a tag, in front of another text, is one segment with the text that the
other one begins with. -/
theorem Cuts.join_text
    (nonempty : text ≠ [])
    (untagged : (Tag.splitOpening text).2 = [])
    (further : Cuts limits (position + text.length) other others)
    (apart : ¬Tag.BracesMeet text other) :
    Cuts limits position (text ++ other)
      (Segment.join [ofText text position] others) := by
  have split := Tag.splitOpening_join apart
  rw [if_pos untagged] at split
  cases further with
  | done start =>
      have nothing : Tag.splitOpening [] = ([], []) := rfl
      rw [nothing, List.append_nil] at split
      rw [List.append_nil]
      exact .text_of_split split nonempty (.done _)
  | tag closed short cuts =>
      have tag := Cuts.tag closed short cuts
      rw [Tag.splitOpening, List.append_nil] at split
      rw [join_cons (.inr (.inr ?_))]
      · exact .text_of_split split nonempty tag
      · rintro next ⟨⟩
        exact kind_ofTag _ _ _
  | @text start next more segments literal cuts =>
      rw [Tag.splitOpening_cons literal] at split
      rw [Nat.add_assoc, ← List.length_append] at cuts
      have whole :=
        Cuts.text_of_split split (List.append_ne_nil_of_left_ne_nil nonempty _) cuts
      rwa [ofText, String.ofList_append] at whole

/-- The segments of a text and those of the text behind it are those of the whole. -/
theorem Cuts.join
    (cuts : Cuts limits position text segments)
    (further : Cuts limits (position + text.length) other others)
    (apart : ¬Tag.BracesMeet text other) :
    Cuts limits position (text ++ other) (Segment.join segments others) := by
  induction cuts with
  | done position => exact further
  | @tag position inside body rest segments closed short cuts inductionHypothesis =>
      obtain ⟨front, tag, size⟩ := Tag.exists_append_of_splitClosing? closed
      have nonempty : inside ≠ [] := by
        rintro rfl
        cases closed
      rw [tag, List.length_append, size, ← Nat.add_assoc] at further
      rw [tag] at apart
      rw [join_cons (.inl (kind_ofTag _ _ _))]
      exact .tag_of_split (Tag.splitRawMark_join nonempty other)
        (Tag.splitClosing?_join closed other) short
        (inductionHypothesis further (mt (.append_left · front) apart))
  | @text position character rest segments literal cuts inductionHypothesis =>
      obtain ⟨front, behind, pair⟩ :
          ∃ front behind, Tag.splitOpening rest = (front, behind) := ⟨_, _, rfl⟩
      have split := Tag.splitOpening_cons literal
      have whole := Tag.splitOpening_append (character :: rest)
      have joined := Tag.splitOpening_join apart
      simp only [pair] at split cuts inductionHypothesis ⊢
      simp only [split] at whole joined
      by_cases untagged : behind = []
      · -- The text reaches up to the seam, and perhaps over it.
        subst untagged
        rw [List.append_nil] at whole
        rw [cuts.eq_nil, whole]
        exact .join_text (List.cons_ne_nil _ _) (by rw [split]) further apart
      · -- It ends at a tag in front of the seam.
        rw [if_neg untagged] at joined
        rw [join_cons (.inr (.inl (cuts.ne_nil untagged)))]
        rw [← whole, List.length_append, ← Nat.add_assoc] at further
        rw [← whole] at apart
        exact .text_of_split joined (List.cons_ne_nil _ _)
          (inductionHypothesis further (mt (.append_left · _) apart))

end Segment
end Templating
