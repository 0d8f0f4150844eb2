import Templating.Proofs.Outcome
import Templating.Segment.Lexer

/-!
# How a text is cut into segments

A text is cut in three ways: it is at its end, it begins with a tag, or it begins
with literal text. They are stated here once, as a relation, and whatever is shown
about the segments of a text is shown by these cases.
-/

namespace Templating

/-- A tag is as long as its size says. -/
theorem Tag.exists_append_of_splitClosing?
    {inside body rest : List Char}
    (closed : splitClosing? false (splitRawMark inside).2 = some (body, rest)) :
    ∃ front,
      '\x7b' :: '\x7b' :: inside = front ++ rest ∧
        front.length = size (splitRawMark inside).1 body := by
  have whole := splitClosing?_append closed
  revert whole
  unfold splitRawMark size
  split
  · intro whole
    refine ⟨'\x7b' :: '\x7b' :: '!' :: (body ++ ['\x7d', '\x7d']), ?_, by simp⟩
    simpa using whole.symm
  · intro whole
    refine ⟨'\x7b' :: '\x7b' :: (body ++ ['\x7d', '\x7d']), ?_, by simp⟩
    simpa using whole.symm

/-- Where no tag begins, a character is split off. -/
theorem Tag.splitOpening_cons
    {character : Char}
    {others : List Char}
    (literal : ∀ inside, character :: others ≠ '\x7b' :: '\x7b' :: inside) :
    splitOpening (character :: others) =
      (character :: (splitOpening others).1, (splitOpening others).2) := by
  rw [splitOpening]
  intro inside first behind
  exact literal inside (by rw [first, behind])

/-- No tag begins in a text exactly when there are no two opening braces in it. -/
theorem Tag.splitOpening_eq_nil (text : List Char) :
    (splitOpening text).2 = [] ↔ ¬ ['\x7b', '\x7b'] <:+: text := by
  fun_induction splitOpening text with
  | case1 => simp
  | case2 rest =>
      have braces : ['\x7b', '\x7b'] <:+: '\x7b' :: '\x7b' :: rest := ⟨[], rest, rfl⟩
      simp [braces]
  | case3 character rest literal front tag split inductionHypothesis =>
      have notHere : ¬ ['\x7b', '\x7b'] <+: character :: rest := by
        rintro ⟨inside, same⟩
        obtain ⟨rfl, rfl⟩ := List.cons.inj same
        exact literal inside rfl rfl
      rw [split] at inductionHypothesis
      simp only [List.infix_cons_iff, notHere, false_or]
      exact inductionHypothesis

/-- Behind the text in front of it, nothing is left or a tag begins. -/
theorem Tag.splitOpening_opens (text : List Char) :
    (splitOpening text).2 = [] ∨
      ∃ inside, (splitOpening text).2 = '\x7b' :: '\x7b' :: inside := by
  fun_induction splitOpening text with
  | case1 => exact .inl rfl
  | case2 rest => exact .inr ⟨rest, rfl⟩
  | case3 character rest literal front tag split inductionHypothesis =>
      rw [split] at inductionHypothesis
      exact inductionHypothesis

/-- A mark is taken off, and no other character. -/
theorem Tag.splitRawMark_of_unmarked
    {raw : Bool}
    {inside : List Char}
    (unmarked : raw = false → inside.head? ≠ some '!') :
    splitRawMark ((if raw then ['!'] else []) ++ inside) = (raw, inside) := by
  cases raw with
  | true => rfl
  | false =>
      simp only [Bool.false_eq_true, if_false, List.nil_append]
      unfold splitRawMark
      split
      · exact absurd rfl (unmarked rfl)
      · rfl

/-- The mark of a tag does not depend on what is behind the body of the tag. -/
theorem Tag.splitRawMark_tag
    {raw : Bool}
    {body : List Char}
    (rest : List Char)
    (unmarked : raw = false → body.head? ≠ some '!') :
    splitRawMark ((if raw then ['!'] else []) ++ (body ++ '\x7d' :: '\x7d' :: rest)) =
      (raw, body ++ '\x7d' :: '\x7d' :: rest) := by
  refine splitRawMark_of_unmarked fun noMark => ?_
  cases body with
  | nil => simp
  | cons first others => exact unmarked noMark

theorem Tag.splitRawMark_spec (inside : List Char) :
    inside = (if (splitRawMark inside).1 then ['!'] else []) ++ (splitRawMark inside).2 ∧
      ((splitRawMark inside).1 = false → (splitRawMark inside).2.head? ≠ some '!') := by
  unfold splitRawMark
  split
  · simp
  · next unmarked =>
      refine ⟨rfl, fun _ first => ?_⟩
      obtain ⟨rest, rfl⟩ := List.head?_eq_some_iff.1 first
      exact unmarked rest rfl

namespace Segment

variable {limits : Limits}

/-- A text from an offset on is cut into segments. -/
inductive Cuts (limits : Limits) : Nat → List Char → List Segment → Prop
  | done (position : Nat) : Cuts limits position [] []
  | tag
      {position : Nat}
      {inside body rest : List Char}
      {segments : List Segment}
      (closed :
        Tag.splitClosing? false (Tag.splitRawMark inside).2 = some (body, rest))
      (short : (Text.trim Text.isMargin body).length ≤ limits.expressionLength)
      (cuts :
        Cuts limits (position + Tag.size (Tag.splitRawMark inside).1 body) rest
          segments) :
      Cuts limits position ('\x7b' :: '\x7b' :: inside)
        (ofTag (Tag.splitRawMark inside).1 (Text.trim Text.isMargin body) position ::
          segments)
  | text
      {position : Nat}
      {character : Char}
      {others : List Char}
      {segments : List Segment}
      (literal : ∀ inside, character :: others ≠ '\x7b' :: '\x7b' :: inside)
      (cuts :
        Cuts limits (position + (character :: (Tag.splitOpening others).1).length)
          (Tag.splitOpening others).2 segments) :
      Cuts limits position (character :: others)
        (ofText (character :: (Tag.splitOpening others).1) position :: segments)

/-- A tag reaches as far as it is split off. -/
theorem Cuts.tag_of_split
    {position : Nat}
    {raw : Bool}
    {inside marked body rest : List Char}
    {segments : List Segment}
    (mark : Tag.splitRawMark inside = (raw, marked))
    (closed : Tag.splitClosing? false marked = some (body, rest))
    (short : (Text.trim Text.isMargin body).length ≤ limits.expressionLength)
    (cuts : Cuts limits (position + Tag.size raw body) rest segments) :
    Cuts limits position ('\x7b' :: '\x7b' :: inside)
      (ofTag raw (Text.trim Text.isMargin body) position :: segments) := by
  obtain ⟨rfl, rfl⟩ := Prod.mk.inj mark.symm
  exact .tag closed short cuts

/-- Literal text reaches as far as it is split off. -/
theorem Cuts.text_of_split
    {position : Nat}
    {text content rest : List Char}
    {segments : List Segment}
    (split : Tag.splitOpening text = (content, rest))
    (nonempty : content ≠ [])
    (cuts : Cuts limits (position + content.length) rest segments) :
    Cuts limits position text (ofText content position :: segments) := by
  cases text with
  | nil =>
      cases split
      exact absurd rfl nonempty
  | cons character others =>
      have literal : ∀ inside, character :: others ≠ '\x7b' :: '\x7b' :: inside := by
        intro inside same
        rw [same, Tag.splitOpening] at split
        exact nonempty (Prod.mk.inj split).1.symm
      rw [Tag.splitOpening_cons literal] at split
      obtain ⟨rfl, rfl⟩ := Prod.mk.inj split
      exact .text literal cuts

theorem cuts_of_lexFrom
    {template : String}
    {position : Nat}
    {text : List Char}
    {segments : List Segment}
    (lexed : lexFrom limits template position text = .ok segments) :
    Cuts limits position text segments := by
  fun_induction lexFrom limits template position text generalizing segments with
  | case1 =>
      cases lexed
      exact .done _
  | case2 => cases lexed
  | case3 position inside body rest closed trimmed =>
      rename_i inductionHypothesis
      obtain ⟨_, short, lexed⟩ := (bind_eq_ok ..).1 lexed
      obtain ⟨others, lexedOthers, made⟩ := (bind_eq_ok ..).1 lexed
      cases made
      exact .tag closed ((Limits.checkLength_eq_ok ..).1 short)
        (inductionHypothesis lexedOthers)
  | case4 position character others literal content =>
      rename_i inductionHypothesis
      obtain ⟨rest, lexedRest, made⟩ := (bind_eq_ok ..).1 lexed
      cases made
      refine .text (fun inside same => ?_) (inductionHypothesis lexedRest)
      obtain ⟨rfl, rfl⟩ := List.cons.inj same
      exact literal inside rfl rfl

theorem lexFrom_of_cuts
    {position : Nat}
    {text : List Char}
    {segments : List Segment}
    (cuts : Cuts limits position text segments)
    (template : String) :
    lexFrom limits template position text = .ok segments := by
  induction cuts with
  | done position => rw [lexFrom]
  | tag closed short cuts inductionHypothesis =>
      rw [lexFrom]
      split
      · next unclosed =>
          rw [closed] at unclosed
          cases unclosed
      · next found =>
          rw [closed] at found
          cases found
          refine (bind_eq_ok ..).2 ⟨(), (Limits.checkLength_eq_ok ..).2 short, ?_⟩
          exact (bind_eq_ok ..).2 ⟨_, inductionHypothesis, rfl⟩
  | @text position character others segments literal cuts inductionHypothesis =>
      rw [lexFrom]
      · exact (bind_eq_ok ..).2 ⟨_, inductionHypothesis, rfl⟩
      · intro inside first rest
        exact literal inside (by rw [first, rest])

/-- A text that is not cut into segments is rejected. -/
theorem lexFrom_error
    {template : String}
    {position : Nat}
    {text : List Char}
    {error : Error}
    (failed : lexFrom limits template position text = .error error) :
    error.IsParse := by
  fun_induction lexFrom limits template position text with
  | case1 => cases failed
  | case2 =>
      cases failed
      trivial
  | case3 position inside body rest closed trimmed inductionHypothesis =>
      obtain tooLong | ⟨_, failed⟩ := bind_error failed
      · unfold Limits.checkLength at tooLong
        split at tooLong
        · cases tooLong
        · cases tooLong
          trivial
      · obtain restFailed | ⟨others, made⟩ := bind_error failed
        · exact inductionHypothesis restFailed
        · cases made
  | case4 position first rest _ content inductionHypothesis =>
      obtain restFailed | ⟨others, made⟩ := bind_error failed
      · exact inductionHypothesis restFailed
      · cases made

/-- The keyword of a tag is one of the language. -/
theorem isKnown_ofTag (raw : Bool) (body : List Char) (position : Nat) :
    (ofTag raw body position).IsKnown := by
  simp only [ofTag, Tag.classify]
  repeat' split
  all_goals trivial

theorem Cuts.isKnown
    {position : Nat}
    {text : List Char}
    {segments : List Segment}
    (cuts : Cuts limits position text segments) :
    ∀ segment ∈ segments, segment.IsKnown := by
  induction cuts with
  | done position => simp
  | tag closed short cuts inductionHypothesis =>
      exact List.forall_mem_cons.2 ⟨isKnown_ofTag _ _ _, inductionHypothesis⟩
  | text literal cuts inductionHypothesis =>
      exact List.forall_mem_cons.2 ⟨trivial, inductionHypothesis⟩

/-- The segments of a text begin at or behind its offset, each behind the one in front
of it. -/
theorem Cuts.ordered
    {position : Nat}
    {text : List Char}
    {segments : List Segment}
    (cuts : Cuts limits position text segments) :
    (∀ segment ∈ segments, (position : Int) ≤ segment.position) ∧
      segments.Pairwise fun segment other => segment.position < other.position := by
  induction cuts with
  | done position => simp
  | @tag position inside body rest segments closed short cuts inductionHypothesis =>
      obtain ⟨behind, ordered⟩ := inductionHypothesis
      have further : ∀ segment ∈ segments, (position : Int) < segment.position := by
        intro segment member
        have bound := behind segment member
        simp only [Tag.size] at bound
        split at bound <;> omega
      refine ⟨List.forall_mem_cons.2 ⟨Int.le_refl _, fun segment member => ?_⟩,
        List.pairwise_cons.2 ⟨further, ordered⟩⟩
      exact Int.le_of_lt (further segment member)
  | @text position character others segments literal cuts inductionHypothesis =>
      obtain ⟨behind, ordered⟩ := inductionHypothesis
      have further : ∀ segment ∈ segments, (position : Int) < segment.position := by
        intro segment member
        have bound := behind segment member
        rw [List.length_cons] at bound
        omega
      refine ⟨List.forall_mem_cons.2 ⟨Int.le_refl _, fun segment member => ?_⟩,
        List.pairwise_cons.2 ⟨further, ordered⟩⟩
      exact Int.le_of_lt (further segment member)

end Segment
end Templating
