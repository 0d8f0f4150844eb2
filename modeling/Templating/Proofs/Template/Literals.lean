import Templating.Proofs.Tag.Closing
import Templating.Proofs.Template.Binding
import Templating.Proofs.Template.Expressions
import Templating.Proofs.Template.Lexing
import Templating.Proofs.Token.Strings

/-!
# String literals of a template

The scanner that looks for the end of a tag and the scanner for the tokens of its
expression read the same strings. What stands between the text of the tag and the text
of the expression, a keyword, a variable or blanks, has no quote. So the strings among
the tokens are those that were skipped on the way to the end of the tag.
-/

namespace Templating

open Text (CutFrom Stretch Strings)

namespace Tag

/-- The argument of a keyword is cut from a text. -/
theorem cutFrom_of_argument?
    {keyword : String}
    {text rest : List Char}
    (noQuote : '\x22' ∉ keyword.toList)
    (found : argument? keyword text = some rest) :
    ∃ front, CutFrom text front rest := by
  obtain ⟨behind, isWord, isArgument⟩ := Option.bind_eq_some_iff.1 found
  obtain ⟨blanks, rfl, ⟨-, blank⟩, -⟩ := afterBlanks?_eq_some isArgument
  rw [afterWord?_eq_some.1 isWord, ← List.append_assoc]
  exact ⟨_, .append (List.not_mem_append noQuote
    (Text.no_quote_of_class (by decide) blank)) rest⟩

/-- What a loop runs over is cut from the text of its tag. -/
theorem cutFrom_of_binding?
    {text variableName iterable : List Char}
    (found : binding? text = some (variableName, iterable)) :
    ∃ front, CutFrom text front iterable := by
  obtain ⟨before, behind, expression, rfl, ⟨-, word⟩, ⟨-, blank⟩, ⟨-, blankBehind⟩, -,
    rfl⟩ := (binding?_eq_some ..).1 found
  have noQuote : '\x22' ∉ variableName ++ before ++ "in".toList ++ behind := by
    simp only [List.mem_append, not_or]
    exact ⟨⟨⟨Text.no_quote_of_class (by decide) word,
      Text.no_quote_of_class (by decide) blank⟩, by decide⟩,
      Text.no_quote_of_class (by decide) blankBehind⟩
  obtain ⟨front, cut⟩ := CutFrom.trim Text.isSeparator (by decide) expression
  exact ⟨_, (CutFrom.append noQuote expression).trans cut⟩

/-- What a tag holds besides its keyword is cut from its text. -/
theorem cutFrom_of_classify (raw : Bool) (body : List Char) :
    ∃ front, CutFrom body front (classify raw body).2 := by
  have cutArgument : ∀ {keyword : String} {rest : List Char},
      '\x22' ∉ keyword.toList → argument? keyword body = some rest →
        ∃ front, CutFrom body front (Text.trim Text.isMargin rest) := by
    intro keyword rest noQuote found
    obtain ⟨front, cut⟩ := cutFrom_of_argument? noQuote found
    obtain ⟨further, trimmed⟩ := CutFrom.trim Text.isMargin (by decide) rest
    exact ⟨_, cut.trans trimmed⟩
  have cutWord : ∀ {word : String},
      '\x22' ∉ word.toList → body = word.toList → ∃ front, CutFrom body front [] := by
    rintro word noQuote rfl
    exact ⟨0, [], word.toList, rfl, rfl, List.not_mem_nil, noQuote⟩
  unfold classify
  dsimp only
  split
  · next condition isIf => exact cutArgument (by decide) isIf
  split
  · next condition isElif => exact cutArgument (by decide) isElif
  split
  · next isElse => exact cutWord (by decide) isElse
  split
  · next isEndif => exact cutWord (by decide) isEndif
  split
  · next loop isEach => exact cutArgument (by decide) isEach
  split
  · next isEndeach => exact cutWord (by decide) isEndeach
  split <;> exact ⟨0, .refl body⟩

end Tag

namespace Segment

/-- The expression of a tag is cut from the text of the tag. -/
theorem cutFrom_of_source?
    {raw : Bool}
    {body : List Char}
    {position : Nat}
    {source : String}
    (holds : (ofTag raw body position).source? = some source) :
    ∃ front, CutFrom body front source.toList := by
  obtain ⟨front, cut⟩ := Tag.cutFrom_of_classify raw body
  rw [source?, ofTag] at holds
  dsimp only at holds
  split at holds
  all_goals first
    | cases holds
      rw [String.toList_ofList]
      exact ⟨front, cut⟩
    | skip
  · obtain ⟨⟨variableName, iterable⟩, found, rfl⟩ := Option.map_eq_some_iff.1 holds
    rw [String.toList_ofList] at found ⊢
    obtain ⟨further, bound⟩ := Tag.cutFrom_of_binding? found
    exact ⟨_, cut.trans bound⟩
  · cases holds

end Segment

/-- At an offset of a template stands a tag. Its text begins at another offset, behind
the braces and the mark of a raw output tag. -/
def Tag.StandsAt
    (template : List Char)
    (position start : Nat)
    (body rest : List Char) :
    Prop :=
  ∃ inside raw,
    template.drop position = '\x7b' :: '\x7b' :: inside ∧
      Tag.splitRawMark inside = (raw, body ++ '\x7d' :: '\x7d' :: rest) ∧
      start = position + if raw then 3 else 2

/-- On an expression that is taken from the text of a tag, the scanner for tokens
agrees with the scanner for the end of the tag. -/
structure Tag.Agree
    (limits : Limits)
    (source : String)
    (start : Nat)
    (body rest : List Char)
    (skipped : List Stretch) :
    Prop where
  /-- These strings are skipped on the way to the end of the tag. -/
  closes : Tag.Closes start (body ++ '\x7d' :: '\x7d' :: rest) skipped body rest
  /-- They stand in the text of the tag, so their braces do not end it. -/
  inside :
    ∀ string ∈ skipped, ∃ before after,
      body = before ++ string.text ++ after ∧ string.position = start + before.length
  /-- Closing braces in front of those that end the tag stand inside one of them. -/
  braces :
    ∀ before after,
      body ++ ['\x7d', '\x7d'] = before ++ '\x7d' :: '\x7d' :: after → after ≠ [] →
        ∃ string ∈ skipped,
          string.position < start + before.length ∧
            start + before.length + 2 < string.ending
  /-- They are the strings among the tokens, if the scanner for tokens does not stop at
  a character that begins no lexeme. -/
  tokens :
    ∃ front,
      CutFrom body front source.toList ∧
        ((∃ tokens,
          Token.scan limits source = .ok tokens ∧
            Token.strings (start + front) source.toList tokens = skipped) ∨
          ∃ character place,
            Token.scan limits source =
              .error
                { cause := .token (.unexpectedCharacter character)
                  position := some place
                  source := some source })

namespace Segment

variable {limits : Limits}

/-- The scanners agree on the expression of a tag. -/
theorem agree_of_source?
    {raw : Bool}
    {position start : Nat}
    {body rest : List Char}
    {source : String}
    (closed :
      Tag.splitClosing? false (body ++ '\x7d' :: '\x7d' :: rest) = some (body, rest))
    (short : (Text.trim Text.isMargin body).length ≤ limits.expressionLength)
    (holds :
      (ofTag raw (Text.trim Text.isMargin body) position).source? = some source) :
    ∃ skipped, Tag.Agree limits source start body rest skipped := by
  obtain ⟨skipped, closes⟩ := Tag.closes_of_splitClosing? closed start
  obtain ⟨margin, trimmed⟩ := CutFrom.trim Text.isMargin (by decide) body
  obtain ⟨front, cut⟩ := cutFrom_of_source? holds
  have fromBody := trimmed.trans cut
  refine ⟨skipped, closes, closes.strings.exists_append, fun before after =>
    closes.braces_in_string, _, fromBody, ?_⟩
  have fits : limits.checkLength source.toList.length (some 0) (some source) = .ok () :=
    (Limits.checkLength_eq_ok ..).2 (le_trans (by exact_mod_cast cut.length_le) short)
  have scanned : Token.scan limits source = Token.scanFrom source 0 source.toList := by
    rw [Token.scan, fits]
    rfl
  rw [scanned]
  have place : source.toList.drop 0 = source.toList := rfl
  exact Token.findsStrings_of_strings place (fromBody.strings closes.strings)

theorem Cuts.agree
    {template text : List Char}
    {position : Nat}
    {segments : List Segment}
    (cuts : Cuts limits position text segments)
    (place : template.drop position = text) :
    ∀ segment ∈ segments, ∀ source,
      segment.source? = some source →
        ∃ (position start : Nat) (body rest : List Char) (skipped : List Stretch),
          segment.position = position ∧
            Tag.StandsAt template position start body rest ∧
              Tag.Agree limits source start body rest skipped := by
  induction cuts with
  | done position => simp
  | @tag position inside body rest segments closed short cuts inductionHypothesis =>
      obtain ⟨front, tag, size⟩ := Tag.exists_append_of_splitClosing? closed
      have whole := Tag.splitClosing?_append closed
      rw [← whole] at closed
      refine List.forall_mem_cons.2 ⟨fun source holds => ?_, inductionHypothesis ?_⟩
      · obtain ⟨skipped, agree⟩ := agree_of_source? closed short holds
        exact ⟨position, _, body, rest, skipped, rfl,
          ⟨inside, _, place, Prod.ext rfl whole.symm, rfl⟩, agree⟩
      · rw [← List.drop_drop, place, ← size, tag, List.drop_left]
  | @text position character others segments literal cuts inductionHypothesis =>
      refine List.forall_mem_cons.2 ⟨fun source holds => ?_, inductionHypothesis ?_⟩
      · cases holds
      · have whole :
            character :: others =
              (character :: (Tag.splitOpening others).1) ++
                (Tag.splitOpening others).2 := by
          rw [List.cons_append, Tag.splitOpening_append]
        rw [← List.drop_drop, place, whole, List.drop_left]

/-- In every template that is cut into segments, the scanner for tokens and the scanner
for the end of a tag agree on the strings of each expression that is taken from a tag.
The expression is never too long and none of its strings is left open. -/
theorem agree_of_ofTemplate
    {template : String}
    {segments : List Segment}
    (lexed : ofTemplate limits template = .ok segments)
    (segment : Segment)
    (member : segment ∈ segments)
    (source : String)
    (holds : segment.source? = some source) :
    ∃ (position start : Nat) (body rest : List Char) (skipped : List Stretch),
      segment.position = position ∧
        Tag.StandsAt template.toList position start body rest ∧
          Tag.Agree limits source start body rest skipped :=
  (cuts_of_lexFrom lexed).agree rfl segment member source holds

/-- A loop whose string holds closing braces and a quote. -/
theorem agree_of_ofTemplate_loop :
    ofTemplate .standard "\x7b\x7beach x in f(\x22\x7d\x7d\x5c\x22\x22) \x7d\x7d" =
        .ok [⟨.opening .eachBlock, "x in f(\x22\x7d\x7d\x5c\x22\x22)", 0⟩] ∧
      source? ⟨.opening .eachBlock, "x in f(\x22\x7d\x7d\x5c\x22\x22)", 0⟩ =
        some "f(\x22\x7d\x7d\x5c\x22\x22)" ∧
      ∃ (position start : Nat) (body rest : List Char) (skipped : List Stretch),
        (0 : Int) = position ∧
          Tag.StandsAt
            "\x7b\x7beach x in f(\x22\x7d\x7d\x5c\x22\x22) \x7d\x7d".toList
            position start body rest ∧
          Tag.Agree .standard "f(\x22\x7d\x7d\x5c\x22\x22)" start body rest
            skipped := by
  have closed :
      Tag.splitClosing? false
          (Tag.splitRawMark "each x in f(\x22\x7d\x7d\x5c\x22\x22) \x7d\x7d".toList).2 =
        some ("each x in f(\x22\x7d\x7d\x5c\x22\x22) ".toList, []) := by
    decide
  have cuts :
      Cuts .standard 0
        "\x7b\x7beach x in f(\x22\x7d\x7d\x5c\x22\x22) \x7d\x7d".toList
        [⟨.opening .eachBlock, "x in f(\x22\x7d\x7d\x5c\x22\x22)", 0⟩] :=
    .tag closed (by decide) (.done _)
  have holds :
      source? ⟨.opening .eachBlock, "x in f(\x22\x7d\x7d\x5c\x22\x22)", 0⟩ =
        some "f(\x22\x7d\x7d\x5c\x22\x22)" := by
    decide
  exact ⟨lexFrom_of_cuts cuts _, holds,
    agree_of_ofTemplate (lexFrom_of_cuts cuts _) _ List.mem_cons_self _ holds⟩

end Segment
end Templating
