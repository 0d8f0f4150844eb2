import Templating.Proofs.Template.Binding
import Templating.Segment.Lexer

/-!
# What kind of tag a text makes

A tag is a block tag when its text is a keyword that stands alone, or a keyword with blanks
and an argument behind it. The blanks reach as far as they can without taking the whole
argument. Every other text is an expression.
-/

namespace Templating
namespace Tag

/-- A text is a keyword, blanks and an argument. No more blanks can be taken from the
front of the argument and leave something of it. -/
structure HasArgument (keyword : String) (text argument : List Char) : Prop where
  split :
    ∃ blanks,
      text = keyword.toList ++ blanks ++ argument ∧
        blanks ≠ [] ∧ ∀ character ∈ blanks, Text.isBlank character = true
  nonempty : argument ≠ []
  furthest :
    ∀ more rest,
      argument = more ++ rest → (∀ character ∈ more, Text.isBlank character = true) →
        rest ≠ [] → more = []

/-- The keywords that have an argument. -/
def argumentKeywords : List (String × SegmentKind) :=
  [("if", .opening .ifBlock), ("elif", .opening .elifBranch),
    ("each", .opening .eachBlock)]

/-- The keywords that stand alone. -/
def loneKeywords : List (String × SegmentKind) :=
  [("else", .opening .elseBranch), ("endif", .closing .endIf),
    ("endeach", .closing .endEach)]

/-- A text makes a block tag. -/
def IsBlock (text : List Char) : Prop :=
  (∃ entry ∈ argumentKeywords, ∃ argument, HasArgument entry.1 text argument) ∨
    ∃ entry ∈ loneKeywords, text = entry.1.toList

/-- What a text means, with the mark of raw output or without it: the kind of its segment
and what the segment holds besides the keyword. -/
inductive Means (raw : Bool) (text : List Char) : SegmentKind → List Char → Prop
  | argument
      {keyword : String}
      {kind : SegmentKind}
      {argument : List Char}
      (isKeyword : (keyword, kind) ∈ argumentKeywords)
      (holds : HasArgument keyword text argument) :
      Means raw text kind (Text.trim Text.isMargin argument)
  | alone
      {keyword : String}
      {kind : SegmentKind}
      (isKeyword : (keyword, kind) ∈ loneKeywords)
      (same : text = keyword.toList) :
      Means raw text kind []
  | expression (noBlock : ¬IsBlock text) :
      Means raw text (if raw then .rawOutput else .output) text

/-- The keywords are those of block tags. -/
theorem kind_of_keyword
    {keyword : String}
    {kind : SegmentKind}
    (isKeyword : (keyword, kind) ∈ argumentKeywords ∨ (keyword, kind) ∈ loneKeywords) :
    (∃ opening, kind = .opening opening) ∨ ∃ closing, kind = .closing closing := by
  simp only [argumentKeywords, loneKeywords, List.mem_cons, Prod.mk.injEq,
    List.not_mem_nil, or_false] at isKeyword
  rcases isKeyword with (⟨-, rfl⟩ | ⟨-, rfl⟩ | ⟨-, rfl⟩) | ⟨-, rfl⟩ | ⟨-, rfl⟩ | ⟨-, rfl⟩
  all_goals simp

/-- A tag is a block tag, or an output tag that holds its whole text. -/
theorem Means.cases_kind
    {raw : Bool}
    {text content : List Char}
    {kind : SegmentKind}
    (means : Means raw text kind content) :
    ((∃ opening, kind = .opening opening) ∨ ∃ closing, kind = .closing closing) ∨
      kind = (if raw then .rawOutput else .output) ∧ content = text := by
  cases means with
  | argument isKeyword holds => exact .inl (kind_of_keyword (.inl isKeyword))
  | alone isKeyword same => exact .inl (kind_of_keyword (.inr isKeyword))
  | expression noBlock => exact .inr ⟨rfl, rfl⟩

theorem Means.kind_ne_text
    {raw : Bool}
    {text content : List Char}
    {kind : SegmentKind}
    (means : Means raw text kind content) :
    kind ≠ .text := by
  obtain (⟨opening, rfl⟩ | ⟨closing, rfl⟩) | ⟨rfl, -⟩ := means.cases_kind
  · exact nofun
  · exact nofun
  · cases raw <;> exact nofun

theorem Means.eq_of_output
    {text content : List Char}
    (means : Means false text .output content) :
    content = text := by
  obtain (⟨opening, isBlock⟩ | ⟨closing, isBlock⟩) | ⟨-, same⟩ := means.cases_kind
  · cases isBlock
  · cases isBlock
  · exact same

/-- Where no more blanks can be taken, what is left begins with none, or it is a blank. -/
theorem HasArgument.begins
    {keyword : String}
    {text argument : List Char}
    (holds : HasArgument keyword text argument) :
    (∀ character ∈ argument.head?, Text.isBlank character = false) ∨
      ∃ last, argument = [last] ∧ Text.isBlank last = true := by
  obtain ⟨first, others, rfl⟩ := List.exists_cons_of_ne_nil holds.nonempty
  by_cases blank : Text.isBlank first = true
  · right
    refine ⟨first, ?_, blank⟩
    by_contra more
    have someOthers : others ≠ [] := fun nothing => more (by rw [nothing])
    cases holds.furthest [first] others rfl (by simpa using blank) someOthers
  · left
    rintro _ ⟨⟩
    exact eq_false_of_ne_true blank

/-- Blanks are taken as far as they go, but for the last one when nothing is behind it. -/
theorem afterBlanks?_of_begins
    {blanks argument : List Char}
    (someBlanks : blanks ≠ [])
    (blank : ∀ character ∈ blanks, Text.isBlank character = true)
    (nonempty : argument ≠ [])
    (begins :
      (∀ character ∈ argument.head?, Text.isBlank character = false) ∨
        ∃ last, argument = [last] ∧ Text.isBlank last = true) :
    afterBlanks? (blanks ++ argument) = some argument := by
  rcases begins with visible | ⟨last, rfl, isBlank⟩
  · obtain ⟨taken, rest⟩ := Text.takeWhile_append_of_head blank visible
    rw [afterBlanks?, taken, rest]
    simp [someBlanks, nonempty]
  · have all : ∀ character ∈ blanks ++ [last], Text.isBlank character = true :=
      List.forall_mem_append.2 ⟨blank, by simpa using isBlank⟩
    have two : 2 ≤ (blanks ++ [last]).length := by
      have one := List.length_pos_iff.2 someBlanks
      rw [List.length_append, List.length_singleton]
      omega
    rw [afterBlanks?, List.takeWhile_eq_self_iff.2 all, List.dropWhile_eq_nil_iff.2 all,
      if_neg (by simp), if_pos rfl, if_pos two, List.getLast?_concat]
    rfl

/-- What is behind the blanks cannot give any of them up. -/
theorem furthest_of_afterBlanks?
    {text argument more rest : List Char}
    (found : afterBlanks? text = some argument)
    (split : argument = more ++ rest)
    (blank : ∀ character ∈ more, Text.isBlank character = true)
    (nonempty : rest ≠ []) :
    more = [] := by
  simp only [afterBlanks?] at found
  split at found
  · cases found
  split at found
  · split at found
    · obtain ⟨last, -, rfl⟩ := Option.map_eq_some_iff.1 found
      obtain ⟨isMore, -⟩ | ⟨-, nothing⟩ := List.append_eq_singleton_iff.1 split.symm
      · exact isMore
      · exact absurd nothing nonempty
    · cases found
  · cases found
    cases more with
    | nil => rfl
    | cons first more =>
        have visible := List.head?_dropWhile_not Text.isBlank text
        rw [split, List.cons_append, List.head?_cons] at visible
        simp [blank first List.mem_cons_self] at visible

theorem argument?_eq_some_iff {keyword : String} {text argument : List Char} :
    argument? keyword text = some argument ↔ HasArgument keyword text argument := by
  rw [argument?, Option.bind_eq_some_iff]
  constructor
  · rintro ⟨behind, isWord, isArgument⟩
    obtain ⟨blanks, rfl, blank, nonempty⟩ := afterBlanks?_eq_some isArgument
    refine ⟨⟨blanks, ?_, blank⟩, nonempty, fun more rest =>
      furthest_of_afterBlanks? isArgument⟩
    rw [afterWord?_eq_some.1 isWord, List.append_assoc]
  · intro holds
    obtain ⟨blanks, whole, someBlanks, blank⟩ := holds.split
    refine ⟨blanks ++ argument, afterWord?_eq_some.2 ?_, ?_⟩
    · rw [whole, List.append_assoc]
    · exact afterBlanks?_of_begins someBlanks blank holds.nonempty holds.begins

theorem argument?_eq_none_iff {keyword : String} {text : List Char} :
    argument? keyword text = none ↔ ¬∃ argument, HasArgument keyword text argument := by
  simp only [Option.eq_none_iff_forall_ne_some, ne_eq, argument?_eq_some_iff, not_exists]

theorem means_classify (raw : Bool) (text : List Char) :
    Means raw text (classify raw text).1 (classify raw text).2 := by
  unfold classify
  dsimp only
  split
  · next condition isIf =>
      exact .argument (by simp [argumentKeywords]) (argument?_eq_some_iff.1 isIf)
  split
  · next condition isElif =>
      exact .argument (by simp [argumentKeywords]) (argument?_eq_some_iff.1 isElif)
  split
  · next isElse => exact .alone (by simp [loneKeywords]) isElse
  split
  · next isEndIf => exact .alone (by simp [loneKeywords]) isEndIf
  split
  · next loop isEach =>
      exact .argument (by simp [argumentKeywords]) (argument?_eq_some_iff.1 isEach)
  split
  · next isEndEach => exact .alone (by simp [loneKeywords]) isEndEach
  · next noIf _ noElif noElse noEndIf _ noEach noEndEach =>
      have noBlock : ¬IsBlock text := by
        rw [argument?_eq_none_iff] at noIf noElif noEach
        simp only [IsBlock, argumentKeywords, loneKeywords, List.exists_mem_cons_iff,
          List.not_mem_nil, false_and, exists_false, or_false]
        tauto
      have means : Means raw text _ text := .expression noBlock
      cases raw <;> exact means

/-- A text is classified as what it means. -/
theorem classify_of_means
    {raw : Bool}
    {text content : List Char}
    {kind : SegmentKind}
    (means : Means raw text kind content) :
    classify raw text = (kind, content) := by
  cases means with
  | @argument keyword kind argument isKeyword holds =>
      have found := argument?_eq_some_iff.2 holds
      obtain ⟨blanks, rfl, -⟩ := holds.split
      simp only [argumentKeywords, List.mem_cons, Prod.mk.injEq, List.not_mem_nil,
        or_false] at isKeyword
      rcases isKeyword with ⟨rfl, rfl⟩ | ⟨rfl, rfl⟩ | ⟨rfl, rfl⟩
      · rw [classify, found]
      · have noIf : argument? "if" ("elif".toList ++ blanks ++ argument) = none := rfl
        rw [classify, noIf, found]
      · have noIf : argument? "if" ("each".toList ++ blanks ++ argument) = none := rfl
        have noElif : argument? "elif" ("each".toList ++ blanks ++ argument) = none := rfl
        rw [classify, noIf, noElif, found]
        rfl
  | alone isKeyword same =>
      subst same
      simp only [loneKeywords, List.mem_cons, Prod.mk.injEq, List.not_mem_nil,
        or_false] at isKeyword
      rcases isKeyword with ⟨rfl, rfl⟩ | ⟨rfl, rfl⟩ | ⟨rfl, rfl⟩ <;> rfl
  | expression noBlock =>
      simp only [IsBlock, argumentKeywords, loneKeywords, List.exists_mem_cons_iff,
        List.not_mem_nil, false_and, exists_false, or_false, not_or,
        ← argument?_eq_none_iff] at noBlock
      obtain ⟨⟨noIf, noElif, noEach⟩, noElse, noEndIf, noEndEach⟩ := noBlock
      simp only [classify, noIf, noElif, noEach, noElse, noEndIf, noEndEach, if_false]
      cases raw <;> rfl

end Tag
end Templating
