import Templating.Proofs.Template.Calling
import Templating.Proofs.Printing.Enclosed

/-!
# Loops that show their variable

A loop tag takes any word for the variable, but a tag in the body reads the word back as
the variable only if it is a name of the expression language and no keyword of a block.
-/

namespace Templating

/-- The words that the tag of a loop takes for its variable, and that a tag in the body
reads as this variable. The name `loop` stands for the state of the loop. -/
def isLoopVariable (name : String) : Bool :=
  isFunctionName name && !(["loop", "else", "endif", "endeach"].contains name)

namespace Tag

variable {raw : Bool} {body last : List Char}

/-- A tag that closes a block has no brace in its text. -/
theorem brace_notMem_of_closing
    {closing : Closing}
    (isClosing : (classify raw (Text.trim Text.isMargin body)).1 = .closing closing) :
    '\x7b' ∉ body := by
  have means := means_classify raw (Text.trim Text.isMargin body)
  rw [← List.count_eq_zero, ← Text.count_trim (by decide : Text.isMargin '\x7b' = false),
    List.count_eq_zero]
  generalize Text.trim Text.isMargin body = text at means isClosing
  generalize (classify raw text).1 = kind at means isClosing
  generalize (classify raw text).2 = content at means
  cases means with
  | argument isKeyword holds =>
      rw [isClosing] at isKeyword
      simp [argumentKeywords] at isKeyword
  | alone isKeyword same =>
      simp only [loneKeywords, List.mem_cons, Prod.mk.injEq, List.not_mem_nil, or_false]
        at isKeyword
      rcases isKeyword with ⟨rfl, -⟩ | ⟨rfl, -⟩ | ⟨rfl, -⟩ <;> rw [same] <;> decide
  | expression noBlock => cases raw <;> cases isClosing

end Tag

namespace Segment

variable {limits : Limits} {body last rest : List Char} {first second : Segment}
variable {position : Nat} {closing : Closing}

/-- A text that is one tag, which closes a block, has no brace behind the first two. -/
theorem Cuts.brace_notMem
    (cuts : Cuts limits position rest [second])
    (isClosing : second.kind = .closing closing) :
    ∃ inside, rest = '\x7b' :: '\x7b' :: inside ∧ '\x7b' ∉ inside := by
  cases cuts with
  | text literal cuts => cases isClosing
  | @tag _ inside found behind _ closed short cuts =>
      cases cuts with
      | done position =>
          refine ⟨inside, rfl, ?_⟩
          have noBrace := Tag.brace_notMem_of_closing isClosing
          have marked := (Tag.splitRawMark_spec inside).1
          rw [← Tag.splitClosing?_append closed] at marked
          rw [marked]
          split <;> simpa using noBrace

/-- A text that begins with a tag is cut behind the closing braces of the tag. -/
theorem Cuts.tag_first
    {segments : List Segment}
    (unmarked : body.head? ≠ some '!')
    (cuts : Cuts limits position ((Piece.tag false body).printed ++ rest) segments) :
    ∃ found behind others,
      Tag.splitClosing? false (body ++ '\x7d' :: '\x7d' :: rest) = some (found, behind) ∧
        (Text.trim Text.isMargin found).length ≤ limits.expressionLength ∧
        Cuts limits (position + Tag.size false found) behind others ∧
        segments = ofTag false (Text.trim Text.isMargin found) position :: others := by
  have mark := Tag.splitRawMark_tag rest fun _ : false = false => unmarked
  rw [Tag.printed_append] at cuts
  cases cuts with
  | text literal cuts => exact absurd rfl (literal _)
  | tag closed short cuts =>
      rw [mark] at closed cuts ⊢
      exact ⟨_, _, _, closed, short, cuts, rfl⟩

/-- Two tags, of which the second one closes a block, are cut where they are written. -/
theorem tags_of_cuts
    (unmarked : body.head? ≠ some '!')
    (lastUnmarked : last.head? ≠ some '!')
    (noBrace : '\x7b' ∉ last)
    (cuts :
      Cuts limits 0
        ((Piece.tag false body).printed ++ (Piece.tag false last).printed)
        [first, second])
    (isClosing : second.kind = .closing closing) :
    Tag.Passes body ∧ (Piece.tag false body).Fits limits ∧
      (Piece.tag false last).Fits limits ∧
        first = ofTag false (Text.trim Text.isMargin body) 0 := by
  obtain ⟨found, behind, others, closed, short, cutsLast, same⟩ := cuts.tag_first unmarked
  obtain ⟨rfl, rfl⟩ := List.cons.inj same
  obtain ⟨inside, rfl, absent⟩ := cutsLast.brace_notMem isClosing
  have whole :
      (found ++ ['\x7d', '\x7d', '\x7b']) ++ '\x7b' :: inside =
        (body ++ ['\x7d', '\x7d', '\x7b']) ++ '\x7b' :: (last ++ ['\x7d', '\x7d']) := by
    simpa [Piece.printed] using Tag.splitClosing?_append closed
  obtain ⟨front, rfl⟩ := Text.split_at_last absent (by simpa using noBrace) whole
  obtain rfl := List.append_cancel_right front
  have lastCuts :
      Cuts limits (0 + Tag.size false found) ((Piece.tag false last).printed ++ [])
        [second] := by
    simpa [Piece.printed] using cutsLast
  obtain ⟨foundLast, nothing, none, closedLast, shortLast, ends, sameLast⟩ :=
    lastCuts.tag_first lastUnmarked
  obtain ⟨-, rfl⟩ := List.cons.inj sameLast
  cases ends
  obtain rfl := List.append_cancel_right (Tag.splitClosing?_append closedLast)
  obtain ⟨skipped, closes⟩ := Tag.closes_of_splitClosing? closed 0
  exact ⟨closes.passes, short, shortLast, rfl⟩

end Segment

namespace Tag

variable {name iterable : String}

/-- The text of a loop tag. -/
def loop (name iterable : String) : List Char :=
  "each ".toList ++ name.toList ++ (" in ".toList ++ iterable.toList)

/-- Only what is behind the word `in` is cut from a loop tag. -/
theorem trim_loop
    (nonempty : name.toList ≠ [])
    (isWord : ∀ character ∈ name.toList, Text.isWord character = true)
    (iterable : String) :
    Text.trim Text.isMargin (loop name iterable) =
      "each".toList ++ ' ' ::
        (name.toList ++ (" in ".toList ++ iterable.toList).rdropWhile Text.isMargin) := by
  rw [loop, Text.trim_append (by simp) (by rintro _ ⟨⟩; decide)
    (fun character last => ?_), List.append_assoc]
  · rfl
  · rw [List.getLast?_append_of_ne_nil _ nonempty] at last
    exact Text.not_isMargin_of_isWord (isWord character (List.mem_of_getLast? last))

/-- A loop tag holds its variable and, behind it, no further word character. -/
theorem classify_loop
    (nonempty : name.toList ≠ [])
    (isWord : ∀ character ∈ name.toList, Text.isWord character = true)
    (iterable : String) :
    ∃ behind,
      (∀ character ∈ behind.head?, Text.isWord character = false) ∧
        classify false (Text.trim Text.isMargin (loop name iterable)) =
          (.opening .eachBlock, name.toList ++ behind) := by
  let behind := (" in ".toList ++ iterable.toList).rdropWhile Text.isMargin
  have visible :
      ∀ character ∈ (name.toList ++ behind).head?, Text.isBlank character = false := by
    rw [List.head?_append_of_ne_nil _ nonempty]
    exact fun character first =>
      Text.not_isBlank_of_isWord (isWord character (List.mem_of_mem_head? first))
  have cut :
      Text.trim Text.isMargin (name.toList ++ behind) =
        name.toList ++ behind.rdropWhile Text.isMargin :=
    Text.trim_append nonempty
      (fun character first =>
        Text.not_isMargin_of_isWord (isWord character (List.mem_of_mem_head? first)))
      (fun character last =>
        Text.not_isMargin_of_isWord (isWord character (List.mem_of_getLast? last)))
      behind
  refine ⟨behind.rdropWhile Text.isMargin, fun character first => ?_, ?_⟩
  · have front : behind.rdropWhile Text.isMargin <+: " in ".toList ++ iterable.toList :=
      (List.rdropWhile_prefix Text.isMargin _).trans
        (List.rdropWhile_prefix Text.isMargin _)
    obtain ⟨others, begins⟩ := List.head?_eq_some_iff.1 first
    rw [begins] at front
    obtain ⟨rfl, -⟩ := List.cons_prefix_cons.1 front
    decide
  · rw [trim_loop nonempty isWord, classify_each (by simp [nonempty]) visible, cut]

/-- The variable of a loop tag is all the word characters that it begins with. -/
theorem Binds.variable_eq
    {behind variableName source : List Char}
    {name : List Char}
    (binds : Binds (name ++ behind) variableName source)
    (isWord : ∀ character ∈ name, Text.isWord character = true)
    (ends : ∀ character ∈ behind.head?, Text.isWord character = false) :
    variableName = name := by
  have found := binding?_of_binds binds
  simp only [binding?, (Text.takeWhile_append_of_head isWord ends).1] at found
  split at found
  · cases found
  · split at found
    · cases found
    · obtain ⟨expression, -, pair⟩ := Option.map_eq_some_iff.1 found
      exact (Prod.mk.inj pair).1.symm

end Tag

namespace Template

variable {limits : Limits} {known : String → Bool} {name iterable variableName : String}
variable {expr : Expr} {segments : List Segment}

/-- The text of a loop with a text in its body. -/
def loopText (name iterable inside : String) : String :=
  "\x7b\x7beach " ++ name ++ " in " ++ iterable ++ "\x7d\x7d" ++ inside ++
    "\x7b\x7bendeach\x7d\x7d"

theorem toList_loopText (name iterable inside : String) :
    (loopText name iterable inside).toList =
      (Piece.tag false (Tag.loop name iterable)).printed ++
        (inside.toList ++ (Piece.tag false "endeach".toList).printed) := by
  simp [loopText, Tag.loop, Piece.printed]

/-- The tag of a loop is cut as it is written: it names a variable and, behind it, what
the loop runs over. -/
structure Loops
    (limits : Limits)
    (known : String → Bool)
    (name iterable : String)
    (expr : Expr) :
    Prop where
  passes : Tag.Passes (Tag.loop name iterable)
  fits : (Piece.tag false (Tag.loop name iterable)).Fits limits
  closes : (Piece.tag false "endeach".toList).Fits limits
  reads :
    ∃ content source,
      Segment.ofTag false (Text.trim Text.isMargin (Tag.loop name iterable)) 0 =
          ⟨.opening .eachBlock, content, 0⟩ ∧
        Tag.Binds content.toList name.toList source ∧
          Expr.parse limits known (String.ofList source) = .ok expr

/-- The variable of a loop is no longer than a tag may be. -/
theorem Loops.short
    (loops : Loops limits known name iterable expr)
    (nonempty : name.toList ≠ [])
    (isWord : ∀ character ∈ name.toList, Text.isWord character = true) :
    name.toList.length ≤ limits.expressionLength := by
  have fits := loops.fits
  rw [Piece.Fits, Tag.trim_loop nonempty isWord] at fits
  simp only [List.length_append, List.length_cons] at fits
  omega

/-- When a loop without a body is all that a text is parsed to, its tag is cut as it is
written. -/
theorem loops_of_parse
    (nonempty : name.toList ≠ [])
    (isWord : ∀ character ∈ name.toList, Text.isWord character = true)
    (parsed :
      parseWithSegments limits known (loopText name iterable "") =
        .ok (segments, [.loop variableName expr []])) :
    variableName = name ∧ Loops limits known name iterable expr := by
  obtain ⟨lexed, spelled, -⟩ := spelled_of_parseWithSegments parsed
  have cuts := Segment.cuts_of_lexFrom lexed
  rw [toList_loopText] at cuts
  cases spelled with
  | cons spelled othersSpelled =>
      cases othersSpelled
      cases spelled with
      | loop position closingPosition binds reads bodySpelled =>
          cases bodySpelled
          obtain ⟨passes, fits, closes, first⟩ :=
            Segment.tags_of_cuts (by simp [Tag.loop]) (by decide) (by decide) cuts rfl
          obtain ⟨behind, ends, classified⟩ := Tag.classify_loop nonempty isWord iterable
          have tag := first
          rw [Segment.ofTag, classified] at tag
          cases tag
          rw [String.toList_ofList] at binds
          obtain rfl := binds.variable_eq isWord ends
          exact ⟨String.ofList_toList, passes, fits, closes, _, _, first.symm,
            by rwa [String.toList_ofList], reads⟩

/-- A tag in the body of the loop that shows the variable. -/
def shown (name : String) : String := "\x7b\x7b! " ++ name ++ " \x7d\x7d"

theorem toList_shown (name : String) :
    (shown name).toList = (Piece.tag true (' ' :: (name.toList ++ [' ']))).printed := by
  simp [shown, Piece.printed]

theorem isLoopVariable_iff :
    isLoopVariable name = true ↔
      isFunctionName name = true ∧ name ≠ "loop" ∧
        name ∉ ["else", "endif", "endeach"] := by
  simp [isLoopVariable]

/-- The tag that shows a word is cut as one segment. -/
theorem yields_shown
    (nonempty : name.toList ≠ [])
    (isWord : ∀ character ∈ name.toList, Text.isWord character = true)
    (short : name.toList.length ≤ limits.expressionLength)
    (position : Nat)
    (rest : List Char) :
    Segment.Yields limits position (shown name).toList
      [Segment.ofTag true name.toList position] rest := by
  have kept : Text.trim Text.isMargin (' ' :: (name.toList ++ [' '])) = name.toList :=
    @Text.trim_between Text.isMargin [' '] name.toList [' '] (by simp [Text.isMargin])
      (by simp [Text.isMargin]) nonempty
      (fun character first =>
        Text.not_isMargin_of_isWord (isWord character (List.mem_of_mem_head? first)))
      (fun character last =>
        Text.not_isMargin_of_isWord (isWord character (List.mem_of_getLast? last)))
  have blank : Tag.Passes [' '] := .single (by decide) (by decide)
  have fits : (Piece.tag true (' ' :: (name.toList ++ [' ']))).Fits limits := by
    rwa [Piece.Fits, kept]
  have yields :=
    @Segment.Yields.tag limits position rest true _
      (blank.append ((Tag.Passes.ofWord isWord).append blank)) (by simp) fits
  rwa [List.singleton_append, kept, ← toList_shown] at yields

/-- No block begins or ends where the variable of a loop is shown. -/
theorem ofTag_of_isLoopVariable
    (usable : isLoopVariable name = true)
    (position : Nat) :
    Segment.ofTag true name.toList position = ⟨.rawOutput, name, position⟩ := by
  obtain ⟨isName, -, notReserved⟩ := isLoopVariable_iff.1 usable
  have isWord := isWord_of_isFunctionName isName
  have noBlock : ¬Tag.IsBlock name.toList := by
    refine Tag.not_isBlock_of_visible
      (fun character inside => Text.not_isBlank_of_isWord (isWord character inside))
      fun entry isLone same => notReserved ?_
    rw [String.toList_inj.1 same]
    simp only [Tag.loneKeywords, List.mem_cons, List.not_mem_nil, or_false] at isLone
    rcases isLone with rfl | rfl | rfl <;> decide
  rw [Segment.ofTag, Tag.classify_of_means (.expression noBlock)]
  simp

/-- A loop is cut around what is in its body. -/
theorem cuts_loop
    {inside : String}
    {inner : List Segment}
    (loops : Loops limits known name iterable expr)
    (yields :
      Segment.Yields limits (Piece.tag false (Tag.loop name iterable)).printed.length
        inside.toList inner (Piece.tag false "endeach".toList).printed) :
    ∃ closing : Nat,
      Segment.Cuts limits 0 (loopText name iterable inside).toList
        (Segment.ofTag false (Text.trim Text.isMargin (Tag.loop name iterable)) 0 ::
          (inner ++ [⟨.closing .endEach, String.ofList [], closing⟩])) := by
  let opening := (Piece.tag false (Tag.loop name iterable)).printed
  let closing := 0 + opening.length + inside.toList.length
  have closed :
      Segment.Yields limits closing (Piece.tag false "endeach".toList).printed
        [⟨.closing .endEach, String.ofList [], closing⟩] [] :=
    .keyword (by decide) loops.closes
  rw [← List.append_nil (Piece.tag false "endeach".toList).printed,
    ← Nat.zero_add (Piece.tag false (Tag.loop name iterable)).printed.length] at yields
  have whole :=
    (Segment.Yields.tag loops.passes (by simp [Tag.loop]) loops.fits).append
      (yields.append closed)
  refine ⟨closing, ?_⟩
  rw [toList_loopText]
  simpa using whole [] (.done _)

/-- A loop is parsed around what is in its body. -/
theorem parse_loop
    {inside : String}
    {inner : List Segment}
    {body : List Node}
    (loops : Loops limits known name iterable expr)
    (yields :
      Segment.Yields limits (Piece.tag false (Tag.loop name iterable)).printed.length
        inside.toList inner (Piece.tag false "endeach".toList).printed)
    (bodySpelled :
      Node.AllSpelled ⟨some (loopText name iterable inside), known, limits⟩ body inner)
    (shallow : 1 + Node.blockDepthAll body ≤ limits.nestingDepth) :
    ∃ segments,
      parseWithSegments limits known (loopText name iterable inside) =
        .ok (segments, [.loop name expr body]) := by
  obtain ⟨content, source, opens, binds, reads⟩ := loops.reads
  obtain ⟨closing, cuts⟩ := cuts_loop loops yields
  rw [opens] at cuts
  have spelled :
      Node.AllSpelled ⟨some (loopText name iterable inside), known, limits⟩
        [.loop (String.ofList name.toList) expr body]
        (⟨.opening .eachBlock, content, 0⟩ ::
          (inner ++ [⟨.closing .endEach, String.ofList [], closing⟩]) ++ []) :=
    .cons (.loop 0 closing binds reads bodySpelled) .nil
  rw [String.ofList_toList, List.append_nil] at spelled
  exact ⟨_, parseWithSegments_of_cuts cuts (ofSegments_of_allSpelled spelled
    (by simpa [blockDepth, Node.blockDepthAll, Node.blockDepth] using shallow))⟩

/-- The loop that shows its variable is parsed to the loop with the reference to the
variable in its body. -/
theorem parse_shown
    (usable : isLoopVariable name = true)
    (loops : Loops limits known name iterable expr) :
    ∃ segments,
      parseWithSegments limits known (loopText name iterable (shown name)) =
        .ok (segments, [.loop name expr [.rawOutput (.reference 0 name)]]) := by
  have isName := (isLoopVariable_iff.1 usable).1
  have isWord := isWord_of_isFunctionName isName
  have nonempty := ne_nil_of_isFunctionName isName
  have short := loops.short nonempty isWord
  refine parse_loop loops (yields_shown nonempty isWord short _ _) ?_
    limits.nestingDepth_pos
  rw [ofTag_of_isLoopVariable usable]
  exact .cons (.rawOutput _ (Expr.parse_reference isName short)) .nil

/-- A keyword that stands alone is no expression in the body of a loop. -/
theorem notMem_of_parse_shown
    (nonempty : name.toList ≠ [])
    (isWord : ∀ character ∈ name.toList, Text.isWord character = true)
    (loops : Loops limits known name iterable expr)
    (parsed :
      parseWithSegments limits known (loopText name iterable (shown name)) =
        .ok (segments, [.loop variableName expr [.rawOutput (.reference 0 name)]])) :
    name ∉ ["else", "endif", "endeach"] := by
  intro reserved
  obtain ⟨closing, cuts⟩ :=
    cuts_loop loops (yields_shown nonempty isWord (loops.short nonempty isWord) _ _)
  obtain ⟨lexed, spelled, -⟩ := spelled_of_parseWithSegments parsed
  cases lexed.symm.trans (Segment.lexFrom_of_cuts cuts _)
  have noSource (position : Nat) :
      Segment.sources [Segment.ofTag true name.toList position] = [] := by
    simp only [List.mem_cons, List.not_mem_nil, or_false] at reserved
    rcases reserved with rfl | rfl | rfl <;> rfl
  -- The segments hold the expression of the loop only, and the loop has another one.
  have read := spelled.reads_sources.length_eq
  rw [← List.cons_append, Segment.sources_closed, ← List.singleton_append,
    Segment.sources_append, noSource, List.append_nil] at read
  have single := List.length_filterMap_le Segment.source?
    [Segment.ofTag false (Text.trim Text.isMargin (Tag.loop name iterable)) 0]
  rw [← Segment.sources, read] at single
  simp [Node.expressionsAll, Node.expressions] at single

/-- The words that are usable are those, other than `loop`, that a tag in the body reads
as the variable. -/
theorem isLoopVariable_iff_parse_shown
    (nonempty : name.toList ≠ [])
    (isWord : ∀ character ∈ name.toList, Text.isWord character = true)
    (loops : Loops limits known name iterable expr) :
    isLoopVariable name = true ↔
      name ≠ "loop" ∧
        ∃ segments,
          parseWithSegments limits known (loopText name iterable (shown name)) =
            .ok (segments, [.loop name expr [.rawOutput (.reference 0 name)]]) := by
  constructor
  · intro usable
    exact ⟨(isLoopVariable_iff.1 usable).2.1, parse_shown usable loops⟩
  · rintro ⟨notLoop, segments, parsed⟩
    obtain ⟨content, reads⟩ :=
      reads_of_parseWithSegments parsed (.reference 0 name)
        (by simp [expressions, Node.expressionsAll, Node.expressions])
    have isName := Expr.isFunctionName_of_parse reads name (List.mem_singleton_self name)
    exact isLoopVariable_iff.2
      ⟨isName, notLoop, notMem_of_parse_shown nonempty isWord loops parsed⟩

end Template
end Templating
