import Templating.Proofs.Tag.Classification
import Templating.Proofs.Tag.Extent

/-!
# The slices of a template

The segments of a template cover it slice by slice, from its front to its end: literal
text up to the next opening braces, and a tag up to the first closing braces that are in
no string of it. When a template is not cut into segments, slices reach up to a tag that
is not closed or too long.
-/

namespace Templating
namespace Segment

variable {limits : Limits} {template : String} {start stop : Nat}
  {text slice behind rest : List Char} {segment : Segment} {segments : List Segment}

/-- What a segment is made of: its slice of a template, in front of the text behind it. -/
inductive Covers (limits : Limits) (segment : Segment) : (slice behind : List Char) → Prop
  | text
      {slice behind : List Char}
      (isText : segment.kind = .text)
      (content : segment.content.toList = slice)
      (nonempty : slice ≠ [])
      (untagged : ¬['\x7b', '\x7b'] <:+: slice)
      (apart : ¬Tag.BracesMeet slice behind)
      (opens : Tag.Opens behind) :
      Covers limits segment slice behind
  | tag
      {raw : Bool}
      {body slice behind : List Char}
      (spans : Tag.Spans raw body behind (slice ++ behind))
      (short : (Text.trim Text.isMargin body).length ≤ limits.expressionLength)
      (means :
        Tag.Means raw (Text.trim Text.isMargin body) segment.kind segment.content.toList) :
      Covers limits segment slice behind

/-- From an offset on, a text is covered by segments, one slice behind the other, up to
another offset, and there a rest begins. -/
inductive Tiles (limits : Limits) :
    (start : Nat) → List Char → List Segment → (stop : Nat) → List Char → Prop
  | done (position : Nat) (rest : List Char) : Tiles limits position rest [] position rest
  | cover
      {start stop : Nat}
      {slice behind rest : List Char}
      {segment : Segment}
      {segments : List Segment}
      (starts : segment.position = start)
      (covers : segment.Covers limits slice behind)
      (tiles : Tiles limits (start + slice.length) behind segments stop rest) :
      Tiles limits start (slice ++ behind) (segment :: segments) stop rest

/-- The segment of a tag holds what the text of the tag means. -/
theorem eq_ofTag_of_means
    {raw : Bool}
    {body : List Char}
    (starts : segment.position = start)
    (means : Tag.Means raw body segment.kind segment.content.toList) :
    segment = ofTag raw body start := by
  obtain ⟨kind, content, position⟩ := segment
  have classified := Tag.classify_of_means means
  dsimp only at starts classified
  simp only [ofTag, classified, starts, String.ofList_toList]

theorem lexFrom_tag
    {raw : Bool}
    {body : List Char}
    (spans : Tag.Spans raw body rest text)
    (short : (Text.trim Text.isMargin body).length ≤ limits.expressionLength) :
    lexFrom limits template start text = do
      let others ← lexFrom limits template (start + Tag.size raw body) rest
      return ofTag raw (Text.trim Text.isMargin body) start :: others := by
  obtain ⟨inside, marked, rfl, mark, closed⟩ := spans.exists_split
  have split : Tag.splitClosing? false (Tag.splitRawMark inside).2 = some (body, rest) := by
    rw [mark]
    exact closed
  rw [lexFrom]
  split
  · next unclosed => cases split.symm.trans unclosed
  · next found =>
      cases split.symm.trans found
      simp only [(Limits.checkLength_eq_ok ..).2 short, mark]
      rfl

theorem lexFrom_text
    (nonempty : slice ≠ [])
    (split : Tag.splitOpening (slice ++ behind) = (slice, behind)) :
    lexFrom limits template start (slice ++ behind) = do
      let others ← lexFrom limits template (start + slice.length) behind
      return ofText slice start :: others := by
  obtain ⟨character, others, rfl⟩ := List.exists_cons_of_ne_nil nonempty
  have literal :
      ∀ inside, character :: (others ++ behind) ≠ '\x7b' :: '\x7b' :: inside := by
    intro inside same
    rw [List.cons_append, same, Tag.splitOpening] at split
    cases split
  rw [List.cons_append, Tag.splitOpening_cons literal] at split
  obtain ⟨front, back⟩ := Prod.mk.inj split
  rw [List.cons_append, lexFrom, front, back]
  rintro inside rfl same
  exact literal inside (by rw [same])

/-- A tag that is no segment is an error at its offset. -/
theorem lexFrom_of_faulty
    {cause : ParseCause}
    (faulty : Tag.Faulty limits text cause)
    (template : String)
    (start : Nat) :
    lexFrom limits template start text =
      .error (.parse cause (some (start : Int)) (some template)) := by
  cases faulty with
  | @unclosed raw inside written unmarked noBraces =>
      subst written
      have unclosed := Tag.splitClosing?_eq_none_iff.2 noBraces
      rw [lexFrom]
      split
      · rfl
      · next found =>
          rw [Tag.splitRawMark_of_unmarked unmarked] at found
          cases unclosed.symm.trans found
  | tooLong spans long =>
      obtain ⟨inside, marked, rfl, mark, closed⟩ := spans.exists_split
      rw [lexFrom]
      split
      · next unclosed =>
          rw [mark] at unclosed
          cases closed.symm.trans unclosed
      · next found =>
          rw [mark] at found
          cases closed.symm.trans found
          simp only [Limits.checkLength, if_neg (Nat.not_le_of_lt long)]
          rfl

/-- A slice is cut off in front of the segments of the text behind it. -/
theorem Covers.lexFrom_append
    (covers : segment.Covers limits slice behind)
    (starts : segment.position = start)
    (template : String) :
    lexFrom limits template start (slice ++ behind) = do
      let others ← lexFrom limits template (start + slice.length) behind
      return segment :: others := by
  cases covers with
  | text isText content nonempty untagged apart opens =>
      have split : Tag.splitOpening (slice ++ behind) = (slice, behind) := by
        rw [Tag.splitOpening_join apart, if_pos ((Tag.splitOpening_eq_nil _).2 untagged)]
        rcases opens with rfl | ⟨inside, rfl⟩ <;> simp [Tag.splitOpening]
      have same : segment = ofText slice start := by
        obtain ⟨kind, text, position⟩ := segment
        dsimp only at isText content starts
        rw [ofText, ← content, String.ofList_toList, isText, starts]
      rw [same]
      exact lexFrom_text nonempty split
  | tag spans short means =>
      have isSlice := List.append_cancel_right spans.written
      rw [eq_ofTag_of_means starts means, lexFrom_tag spans short, isSlice,
        Tag.length_printed]

/-- Slices are cut off one behind the other. -/
theorem Tiles.lexFrom_eq
    (tiles : Tiles limits start text segments stop rest)
    (template : String) :
    lexFrom limits template start text = do
      let others ← lexFrom limits template stop rest
      return segments ++ others := by
  induction tiles with
  | done position rest => cases lexFrom limits template position rest <;> rfl
  | @cover start stop slice behind rest segment segments starts covers tiles
      inductionHypothesis =>
      rw [covers.lexFrom_append starts, inductionHypothesis]
      cases lexFrom limits template stop rest <;> rfl

/-- The segment of a tag covers the tag. -/
theorem covers_ofTag
    {raw : Bool}
    {body : List Char}
    (spans : Tag.Spans raw body behind text)
    (short : (Text.trim Text.isMargin body).length ≤ limits.expressionLength)
    (position : Nat) :
    (ofTag raw (Text.trim Text.isMargin body) position).Covers limits
      (Piece.tag raw body).printed behind := by
  refine .tag (spans.written ▸ spans) short ?_
  simpa [ofTag] using Tag.means_classify raw (Text.trim Text.isMargin body)

/-- Literal text is covered up to the first opening braces. -/
theorem covers_ofText
    (nonempty : (Tag.splitOpening text).1 ≠ [])
    (position : Nat) :
    (ofText (Tag.splitOpening text).1 position).Covers limits (Tag.splitOpening text).1
      (Tag.splitOpening text).2 := by
  obtain ⟨untagged, apart⟩ := Tag.splitOpening_literal text
  exact .text rfl String.toList_ofList nonempty untagged apart (Tag.splitOpening_opens text)

/-- What becomes of a text from an offset on: it is covered to its end, or up to a tag that
is no segment. -/
inductive Tiled (limits : Limits) (template : String) (start : Nat) (text : List Char) :
    Prop
  | whole
      {segments : List Segment}
      {stop : Nat}
      (lexed : lexFrom limits template start text = .ok segments)
      (tiles : Tiles limits start text segments stop [])
  | upTo
      {segments : List Segment}
      {stop : Nat}
      {rest : List Char}
      {cause : ParseCause}
      (failed :
        lexFrom limits template start text =
          .error (.parse cause (some (stop : Int)) (some template)))
      (tiles : Tiles limits start text segments stop rest)
      (faulty : Tag.Faulty limits rest cause)

/-- A slice in front of a text becomes a slice of the whole. -/
theorem Covers.tiled
    (covers : segment.Covers limits slice behind)
    (starts : segment.position = start)
    (others : Tiled limits template (start + slice.length) behind) :
    Tiled limits template start (slice ++ behind) := by
  have step := covers.lexFrom_append starts template
  cases others with
  | whole lexed tiles =>
      rw [lexed] at step
      exact .whole step (.cover starts covers tiles)
  | upTo failed tiles faulty =>
      rw [failed] at step
      exact .upTo step (.cover starts covers tiles) faulty

theorem tiled (limits : Limits) (template : String) (start : Nat) (text : List Char) :
    Tiled limits template start text := by
  fun_induction lexFrom limits template start text with
  | case1 position =>
      exact .whole (by rw [lexFrom]) (.done position [])
  | case2 position inside unclosed =>
      obtain ⟨marked, unmarked⟩ := Tag.splitRawMark_spec inside
      have faulty : Tag.Faulty limits ('\x7b' :: '\x7b' :: inside) .unclosedTag :=
        .unclosed (by rw [← marked]) unmarked (Tag.splitClosing?_eq_none_iff.1 unclosed)
      exact .upTo (lexFrom_of_faulty faulty template position) (.done position _) faulty
  | case3 position inside body rest closed trimmed inductionHypothesis =>
      have spans := Tag.spans_of_splitClosing? closed
      by_cases short : trimmed.length ≤ limits.expressionLength
      · have covers := covers_ofTag spans short position
        rw [spans.written]
        refine covers.tiled rfl ?_
        rw [Tag.length_printed]
        exact inductionHypothesis
      · -- The length is checked before the rest is read, so nothing behind the tag counts.
        have faulty := Tag.Faulty.tooLong spans (Nat.lt_of_not_le short)
        exact .upTo (lexFrom_of_faulty faulty template position) (.done position _) faulty
  | case4 position character others literal content inductionHypothesis =>
      have split : Tag.splitOpening (character :: others) =
          (content, (Tag.splitOpening others).2) := by
        refine Tag.splitOpening_cons fun inside same => ?_
        obtain ⟨rfl, rfl⟩ := List.cons.inj same
        exact literal inside rfl rfl
      have nonempty : (Tag.splitOpening (character :: others)).1 ≠ [] := by
        rw [split]
        exact List.cons_ne_nil _ _
      have covers := @covers_ofText limits _ nonempty position
      have whole := Tag.splitOpening_append (character :: others)
      rw [split] at covers whole
      rw [← whole]
      exact covers.tiled rfl inductionHypothesis

/-- What is covered is as long as the offsets are apart. -/
theorem Tiles.stop_eq (tiles : Tiles limits start text segments stop rest) :
    start + text.length = stop + rest.length := by
  induction tiles with
  | done position rest => rfl
  | cover starts covers tiles inductionHypothesis =>
      rw [List.length_append, ← Nat.add_assoc, inductionHypothesis]

theorem Covers.slice_ne_nil (covers : segment.Covers limits slice behind) : slice ≠ [] := by
  cases covers with
  | text isText content nonempty untagged apart opens => exact nonempty
  | tag spans short means =>
      rw [List.append_cancel_right spans.written]
      exact List.cons_ne_nil _ _

/-- Segments that cover a text stand in the order of their offsets. -/
theorem Tiles.ordered (tiles : Tiles limits start text segments stop rest) :
    (∀ segment ∈ segments, (start : Int) ≤ segment.position) ∧
      segments.Pairwise fun segment other => segment.position < other.position := by
  induction tiles with
  | done position rest => simp
  | @cover start stop slice behind rest segment segments starts covers tiles
      inductionHypothesis =>
      obtain ⟨behind, ordered⟩ := inductionHypothesis
      have long := List.length_pos_iff.2 covers.slice_ne_nil
      refine ⟨List.forall_mem_cons.2 ⟨by omega, fun other member => ?_⟩,
        List.pairwise_cons.2 ⟨fun other member => ?_, ordered⟩⟩
      · have further := behind other member
        omega
      · have further := behind other member
        omega

/-- Behind literal text a tag begins, or nothing is left, so no other text follows. -/
theorem Covers.not_text_behind
    {other : Segment}
    {more further : List Char}
    (covers : segment.Covers limits slice (more ++ further))
    (coversBehind : other.Covers limits more further)
    (isText : segment.kind = .text) :
    other.kind ≠ .text := by
  cases coversBehind with
  | tag spans short means => exact means.kind_ne_text
  | text isOther content nonempty untagged apart opens =>
      cases covers with
      | tag spans short means => exact absurd isText means.kind_ne_text
      | text _ _ _ _ _ opens =>
          exfalso
          obtain nothing | ⟨inside, begins⟩ := opens
          · exact nonempty (List.append_eq_nil_iff.1 nothing).1
          · match more with
            | [] => exact nonempty rfl
            | [first] =>
                obtain ⟨rfl, rfl⟩ := List.cons.inj begins
                exact apart ⟨rfl, rfl⟩
            | first :: second :: more =>
                obtain ⟨rfl, others⟩ := List.cons.inj begins
                obtain ⟨rfl, -⟩ := List.cons.inj others
                exact untagged ⟨[], more, rfl⟩

theorem Tiles.apart (tiles : Tiles limits start text segments stop rest) :
    segments.IsChain fun segment other => segment.kind = .text → other.kind ≠ .text := by
  induction tiles with
  | done position rest => exact .nil
  | cover starts covers tiles inductionHypothesis =>
      cases tiles with
      | done position rest => exact .singleton _
      | cover startsBehind coversBehind tiles =>
          exact .cons_cons (covers.not_text_behind coversBehind) inductionHypothesis

/-- A template is cut into segments. They cover it from its front to its end, in the order
of their offsets, and no two texts stand next to each other. -/
structure Tiling (limits : Limits) (template : String) (segments : List Segment) :
    Prop where
  tiles :
    Tiles limits 0 template.toList segments template.toList.length []
  starts : template ≠ "" → segments.head?.map Segment.position = some 0
  ordered : segments.Pairwise fun segment other => segment.position < other.position
  apart : segments.IsChain fun segment other => segment.kind = .text → other.kind ≠ .text

theorem Tiles.tiling
    (tiles : Tiles limits 0 template.toList segments stop []) :
    Tiling limits template segments := by
  have reaches := tiles.stop_eq
  rw [Nat.zero_add, List.length_nil, Nat.add_zero] at reaches
  refine ⟨reaches ▸ tiles, fun nonempty => ?_, tiles.ordered.2, tiles.apart⟩
  generalize isText : template.toList = text at tiles
  cases tiles with
  | done => exact absurd (String.toList_eq_nil_iff.1 isText) nonempty
  | cover starts covers tiles => exact congrArg some starts

/-- The segments of a template are the ones that cover it, slice by slice. It is rejected
exactly when such slices reach up to a tag that has no closing braces or too long a text,
and the error stands at the offset of that tag. -/
theorem ofTemplate_tiles (limits : Limits) (template : String) :
    (∀ segments,
      ofTemplate limits template = .ok segments ↔ Tiling limits template segments) ∧
      ∀ error,
        ofTemplate limits template = .error error ↔
          ∃ segments stop rest cause,
            Tiles limits 0 template.toList segments stop rest ∧
              Tag.Faulty limits rest cause ∧
                error = .parse cause (some (stop : Int)) (some template) := by
  have outcome : Tiled limits template 0 template.toList := tiled ..
  refine ⟨fun segments => ⟨fun lexed => ?_, fun tiling => ?_⟩,
    fun error => ⟨fun failed => ?_, ?_⟩⟩
  · cases outcome with
    | upTo failed tiles faulty => cases lexed.symm.trans failed
    | whole found tiles =>
        cases lexed.symm.trans found
        exact tiles.tiling
  · have whole := tiling.tiles.lexFrom_eq template
    rw [lexFrom] at whole
    simpa [ofTemplate] using whole
  · cases outcome with
    | whole found tiles => cases failed.symm.trans found
    | upTo found tiles faulty =>
        cases failed.symm.trans found
        exact ⟨_, _, _, _, tiles, faulty, rfl⟩
  · rintro ⟨segments, stop, rest, cause, tiles, faulty, rfl⟩
    have whole := tiles.lexFrom_eq template
    rwa [lexFrom_of_faulty faulty] at whole

end Segment
end Templating
