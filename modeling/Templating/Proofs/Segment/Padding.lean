import Templating.Proofs.Printing.Segments
import Templating.Proofs.Tag.Classification
import Templating.Proofs.Tag.Closing

/-!
# Blanks around the text of a tag

The text of a tag is cut at both ends before it is classified, so blanks around it do not
matter. The form feed is the exception: it separates the words of a tag and the tokens of
an expression, but it is not cut. In front of a keyword it makes an expression of a block
tag.
-/

namespace Templating
namespace Tag

/-- A text that is read up to its closing braces can stand in any tag. -/
theorem Closes.passes
    {position : Nat}
    {text body rest : List Char}
    {skipped : List Text.Stretch}
    (closes : Closes position text skipped body rest) :
    Passes body := by
  induction closes with
  | braces position rest => exact .nil
  | @plain position character text body rest skipped notQuote noBraces closes
      inductionHypothesis =>
      intro behind
      rw [List.cons_append, splitClosing?, decide_eq_false notQuote, inductionHypothesis,
        Option.map_map]
      · rfl
      · -- A brace behind this one would be the second of two, with the first in the body.
        rintro others rfl begins
        have isText := closes.text_eq
        cases body with
        | nil => exact noBraces _ (congrArg _ isText)
        | cons next body =>
            obtain ⟨rfl, -⟩ := List.cons.inj begins
            exact noBraces _ (congrArg _ isText)
  | string closed closes inductionHypothesis =>
      intro behind
      rw [List.cons_append, List.append_assoc, splitClosing?, decide_eq_true rfl,
        closed.splitClosing?_append, inductionHypothesis, Option.map_map, Option.map_map]
      · simp [Function.comp_def]
      · simp

theorem Passes.ofBlanks
    {blanks : List Char}
    (blank : ∀ character ∈ blanks, Text.isBlank character = true) :
    Passes blanks :=
  .ofPlain (fun inside => absurd (blank _ inside) (by decide))
    (fun inside => absurd (blank _ inside) (by decide))

theorem passes_iff {body : List Char} :
    Passes body ↔ splitClosing? false (body ++ ['\x7d', '\x7d']) = some (body, []) := by
  refine ⟨fun passes => passes.splitClosing?_eq_some [], fun found => ?_⟩
  obtain ⟨skipped, closes⟩ := closes_of_splitClosing? found 0
  exact closes.passes

/-- The template that consists of one tag. -/
def alone (body : List Char) : String :=
  String.ofList (Piece.tag false body).printed

/-- A text that begins with a blank makes no block tag. -/
theorem not_isBlock_of_isBlank
    {text : List Char}
    {first : Char}
    (begins : text.head? = some first)
    (blank : Text.isBlank first = true) :
    ¬IsBlock text := by
  rintro (⟨entry, member, argument, holds⟩ | ⟨entry, member, rfl⟩)
  · obtain ⟨blanks, rfl, -⟩ := holds.split
    simp only [argumentKeywords, List.mem_cons, List.not_mem_nil, or_false] at member
    rcases member with rfl | rfl | rfl <;>
      · obtain rfl := Option.some.inj begins
        exact absurd blank (by decide)
  · simp only [loneKeywords, List.mem_cons, List.not_mem_nil, or_false] at member
    rcases member with rfl | rfl | rfl <;>
      · obtain rfl := Option.some.inj begins
        exact absurd blank (by decide)

end Tag

namespace Segment

variable {limits : Limits} {body front back : List Char} {segment : Segment}

/-- A template that consists of one tag has one segment exactly when its text can stand in
a tag and is not too long. -/
theorem ofTemplate_alone_iff (unmarked : body.head? ≠ some '!') :
    ofTemplate limits (Tag.alone body) = .ok [segment] ↔
      Tag.Passes body ∧
        (Text.trim Text.isMargin body).length ≤ limits.expressionLength ∧
          segment = ofTag false (Text.trim Text.isMargin body) 0 := by
  have written := Tag.printed_append false body []
  rw [List.append_nil] at written
  constructor
  · intro lexed
    have cuts := cuts_of_lexFrom lexed
    rw [Tag.alone, String.toList_ofList, written] at cuts
    have mark := Tag.splitRawMark_tag [] fun _ : false = false => unmarked
    cases cuts with
    | text literal cuts => exact absurd rfl (literal _)
    | tag closed short cuts =>
        rw [mark] at closed ⊢
        cases cuts with
        | done position =>
            have isBody := List.append_cancel_right (Tag.splitClosing?_append closed)
            subst isBody
            exact ⟨Tag.passes_iff.2 closed, short, rfl⟩
  · rintro ⟨passes, short, rfl⟩
    have yields : Yields limits 0 (Piece.tag false body).printed _ [] :=
      .tag passes unmarked short
    have cuts := yields [] (.done _)
    rw [List.append_nil] at cuts
    have lexed := lexFrom_of_cuts cuts (Tag.alone body)
    rwa [← String.toList_ofList (l := (Piece.tag false body).printed)] at lexed

/-- A form feed in front of the text of a tag is left in it. -/
theorem head?_trim_formFeed
    (blank : ∀ character ∈ front, Text.isBlank character = true)
    (formFeed : '\x0c' ∈ front)
    (text : List Char) :
    (Text.trim Text.isMargin (front ++ text)).head? = some '\x0c' := by
  rw [Text.head?_trim]
  induction front with
  | nil => cases formFeed
  | cons first others inductionHypothesis =>
      obtain ⟨firstBlank, othersBlank⟩ := List.forall_mem_cons.1 blank
      by_cases isFormFeed : first = '\x0c'
      · subst isFormFeed
        rfl
      · have margin := Text.isMargin_of_isBlank firstBlank isFormFeed
        have further := (List.mem_cons.1 formFeed).resolve_left (Ne.symm isFormFeed)
        rw [List.cons_append, List.dropWhile_cons_of_pos margin]
        exact inductionHypothesis othersBlank further

/-- Blanks are no mark of raw output. -/
theorem unmarked_padded
    (unmarked : body.head? ≠ some '!')
    (frontBlank : ∀ character ∈ front, Text.isBlank character = true)
    (backBlank : ∀ character ∈ back, Text.isBlank character = true) :
    (front ++ body ++ back).head? ≠ some '!' := by
  intro marked
  rcases front with _ | ⟨first, front⟩
  · rcases body with _ | ⟨first, body⟩
    · have blank := backBlank '!' (List.mem_of_mem_head? marked)
      cases blank
    · exact unmarked marked
  · have blank := frontBlank '!' (List.mem_of_mem_head? marked)
    cases blank

/-- Blanks around the text of a tag are cut, but for form feeds and what they enclose. -/
theorem trim_padded
    (frontBlank : ∀ character ∈ front, Text.isBlank character = true)
    (backBlank : ∀ character ∈ back, Text.isBlank character = true)
    (noFront : '\x0c' ∉ front)
    (noBack : '\x0c' ∉ back)
    (text : List Char) :
    Text.trim Text.isMargin (front ++ text ++ back) = Text.trim Text.isMargin text := by
  have margin {blanks : List Char}
      (blank : ∀ character ∈ blanks, Text.isBlank character = true)
      (noFormFeed : '\x0c' ∉ blanks) :
      ∀ character ∈ blanks, Text.isMargin character = true := by
    refine fun character inside => Text.isMargin_of_isBlank (blank character inside) ?_
    rintro rfl
    exact noFormFeed inside
  rw [Text.trim_append_of_drops_back (margin backBlank noBack),
    Text.trim_append_of_drops (margin frontBlank noFront)]

theorem classify_eq_of_ofTag_eq
    {raw : Bool}
    {text other : List Char}
    {position : Nat}
    (same : ofTag raw text position = ofTag raw other position) :
    Tag.classify raw text = Tag.classify raw other := by
  obtain ⟨sameKind, sameContent, -⟩ := Segment.mk.inj same
  exact Prod.ext sameKind (String.ofList_injective sameContent)

/-- With a form feed in front, a text makes another tag than on its own. -/
theorem ofTag_formFeed_ne
    (blank : ∀ character ∈ front, Text.isBlank character = true)
    (formFeed : '\x0c' ∈ front)
    (text back : List Char)
    (position : Nat) :
    ofTag false (Text.trim Text.isMargin (front ++ text ++ back)) position ≠
      ofTag false (Text.trim Text.isMargin text) position := by
  intro same
  have begins := head?_trim_formFeed blank formFeed (text ++ back)
  rw [← List.append_assoc] at begins
  have noBlock := Tag.not_isBlock_of_isBlank begins rfl
  have padded :
      Tag.classify false (Text.trim Text.isMargin (front ++ text ++ back)) =
        (.output, Text.trim Text.isMargin (front ++ text ++ back)) :=
    Tag.classify_of_means (.expression noBlock)
  -- Both are then output tags, which hold their whole texts, form feeds and all.
  have means := Tag.means_classify false (Text.trim Text.isMargin text)
  rw [← classify_eq_of_ofTag_eq same, padded] at means
  have counts := congrArg (List.count '\x0c') means.eq_of_output
  rw [Text.count_trim (by decide), Text.count_trim (by decide), List.count_append,
    List.count_append] at counts
  have some := List.count_pos_iff.2 formFeed
  omega

/-- Blanks around the text of a tag do not matter, as long as no form feed is among them.
A form feed in front of the text changes what the tag is. -/
theorem ofTemplate_padded
    (unmarked : body.head? ≠ some '!')
    (lexed : ofTemplate limits (Tag.alone body) = .ok [segment])
    (frontBlank : ∀ character ∈ front, Text.isBlank character = true)
    (backBlank : ∀ character ∈ back, Text.isBlank character = true) :
    ('\x0c' ∉ front → '\x0c' ∉ back →
      ofTemplate limits (Tag.alone (front ++ body ++ back)) = .ok [segment]) ∧
    ('\x0c' ∈ front →
      ofTemplate limits (Tag.alone (front ++ body ++ back)) ≠ .ok [segment]) := by
  obtain ⟨passes, short, rfl⟩ := (ofTemplate_alone_iff unmarked).1 lexed
  have paddedUnmarked := unmarked_padded unmarked frontBlank backBlank
  refine ⟨fun noFront noBack => ?_, fun formFeed paddedLexed => ?_⟩
  · have sameText := trim_padded frontBlank backBlank noFront noBack body
    refine (ofTemplate_alone_iff paddedUnmarked).2 ⟨?_, ?_, ?_⟩
    · exact ((Tag.Passes.ofBlanks frontBlank).append passes).append (.ofBlanks backBlank)
    · rwa [sameText]
    · rw [sameText]
  · obtain ⟨-, -, same⟩ := (ofTemplate_alone_iff paddedUnmarked).1 paddedLexed
    exact ofTag_formFeed_ne frontBlank formFeed body back 0 same.symm

theorem passes_else : Tag.Passes "else".toList :=
  .ofWord (List.all_eq_true.1 (by decide))

/-- A lone keyword with blanks around it. -/
theorem ofTemplate_padded_else :
    ofTemplate .standard (Tag.alone " \telse\n".toList) =
      .ok [⟨.opening .elseBranch, "", 0⟩] := by
  have lexed :
      ofTemplate .standard (Tag.alone "else".toList) =
        .ok [⟨.opening .elseBranch, "", 0⟩] :=
    (ofTemplate_alone_iff (by decide)).2 ⟨passes_else, by decide, by decide⟩
  have padded :=
    @ofTemplate_padded .standard "else".toList " \t".toList "\n".toList _ (by decide) lexed
      (List.all_eq_true.1 (by decide)) (List.all_eq_true.1 (by decide))
  exact padded.1 (by decide) (by decide)

/-- A form feed is a blank, and in front of a lone keyword it makes an output tag. -/
theorem ofTemplate_formFeed_else :
    Text.isBlank '\x0c' = true ∧
      ofTemplate .standard (Tag.alone "else".toList) =
        .ok [⟨.opening .elseBranch, "", 0⟩] ∧
      ofTemplate .standard (Tag.alone ('\x0c' :: "else".toList)) =
        .ok [⟨.output, "\x0celse", 0⟩] := by
  refine ⟨by decide, ?_, ?_⟩
  · exact (ofTemplate_alone_iff (by decide)).2 ⟨passes_else, by decide, by decide⟩
  · exact (ofTemplate_alone_iff (by decide)).2
      ⟨.ofPlain (by decide) (by decide), by decide, by decide⟩

end Segment
end Templating
