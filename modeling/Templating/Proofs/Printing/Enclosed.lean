import Templating.Proofs.Printing.Segments
import Templating.Template.Assembly

/-!
# Tags of expressions

The tags of the canonical text of a template, each cut off as its own segment. In an
output, a branch and a loop the expression stands in parentheses, so that it is read
back whatever its text begins with.
-/

namespace Templating

variable {context : AssemblyContext} {position : Nat} {rest : List Char}

/-- A tag without an expression. -/
theorem Segment.Yields.keyword
    {limits : Limits}
    {keyword : String}
    {kind : SegmentKind}
    (isKeyword :
      (keyword, kind) ∈
        [("else", .opening .elseBranch), ("endif", .closing .endIf),
          ("endeach", .closing .endEach)])
    (fits : (Piece.tag false keyword.toList).Fits limits) :
    Yields limits position (Piece.tag false keyword.toList).printed
      [⟨kind, String.ofList [], position⟩] rest := by
  have spelled :
      keyword.toList.all Text.isWord = true ∧
        keyword.toList.head? ≠ some '!' ∧
        Text.trim Text.isMargin keyword.toList = keyword.toList ∧
        Tag.classify false keyword.toList = (kind, []) := by
    simp only [List.mem_cons, Prod.mk.injEq, List.not_mem_nil, or_false] at isKeyword
    rcases isKeyword with ⟨rfl, rfl⟩ | ⟨rfl, rfl⟩ | ⟨rfl, rfl⟩ <;> decide
  obtain ⟨isWord, unmarked, kept, classified⟩ := spelled
  exact ofClassify (.ofWord (List.all_eq_true.1 isWord)) unmarked kept classified fits

namespace Expr

variable {expr : Expr}

theorem Writable.passes_enclosed
    {known : String → Bool}
    (writable : expr.Writable known) :
    Tag.Passes expr.enclosed :=
  writable.passes.parenthesized

/-- A text is cut off as one segment, whose expression is read back up to offsets. -/
def ReadFrom
    (context : AssemblyContext)
    (position : Nat)
    (text rest : List Char)
    (kind : SegmentKind)
    (content : List Char)
    (expr : Expr) :
    Prop :=
  Segment.Yields context.limits position text
      [⟨kind, String.ofList content, position⟩] rest ∧
    ∃ parsed,
      parse context.limits context.known (String.ofList expr.enclosed) = .ok parsed ∧
        parsed.unplaced = expr.unplaced

/-- In the tag of an output the expression has a blank on either side. -/
theorem Writable.readFrom_output
    {raw : Bool}
    (writable : expr.Writable context.known)
    (fits : (Piece.tag raw (' ' :: (expr.enclosed ++ [' ']))).Fits context.limits)
    (shallow : expr.printedNesting + 1 ≤ context.limits.expressionDepth) :
    expr.ReadFrom context position
      (Piece.tag raw (' ' :: (expr.enclosed ++ [' ']))).printed rest
      (if raw then .rawOutput else .output) expr.enclosed := by
  have blank : Tag.Passes [' '] := .single (by decide) (by decide)
  have passes : Tag.Passes (' ' :: (expr.enclosed ++ [' '])) :=
    blank.append (writable.passes_enclosed.append blank)
  have cut :
      Text.trim Text.isMargin (' ' :: (expr.enclosed ++ [' '])) = expr.enclosed :=
    @Tag.trim_parenthesized Text.isMargin [' '] [' '] (by decide)
      (by simp [Text.isMargin]) (by simp [Text.isMargin]) expr.printed
  have yields :=
    @Segment.Yields.tag context.limits position rest raw _ passes (by simp) fits
  rw [cut, Segment.ofTag, enclosed, Tag.classify_parenthesized] at yields
  refine ⟨yields, writable.parse_parenthesized ?_ shallow⟩
  rwa [Piece.Fits, cut] at fits

/-- In the tag of a block the expression stands behind what the tag begins with. -/
theorem Writable.readFrom_append
    {front content : List Char}
    {kind : SegmentKind}
    (writable : expr.Writable context.known)
    (nonempty : front ≠ [])
    (first : ∀ character ∈ front.head?, Text.isWord character = true)
    (passes : Tag.Passes front)
    (classified : Tag.classify false (front ++ expr.enclosed) = (kind, content))
    (fits : (Piece.tag false (front ++ expr.enclosed)).Fits context.limits)
    (shallow : expr.printedNesting + 1 ≤ context.limits.expressionDepth) :
    expr.ReadFrom context position (Piece.tag false (front ++ expr.enclosed)).printed
      rest kind content := by
  have begins :
      ∀ character ∈ (front ++ expr.enclosed).head?, Text.isWord character = true := by
    rwa [List.head?_append_of_ne_nil front nonempty]
  have unmarked : (front ++ expr.enclosed).head? ≠ some '!' := fun inside =>
    absurd (begins _ inside) (by decide)
  have kept :
      Text.trim Text.isMargin (front ++ expr.enclosed) = front ++ expr.enclosed :=
    Tag.trim_append_parenthesized nonempty
      (fun character inside => Text.not_isMargin_of_isWord (first character inside))
      expr.printed
  refine ⟨.ofClassify (passes.append writable.passes_enclosed) unmarked kept classified
    fits, writable.parse_parenthesized ?_ shallow⟩
  rw [Piece.Fits, kept, List.length_append] at fits
  exact (Nat.le_add_left _ _).trans fits

theorem Writable.readFrom_branch
    {keyword : String}
    {opening : Opening}
    (writable : expr.Writable context.known)
    (isKeyword : (keyword, opening) ∈ [("if", Opening.ifBlock), ("elif", .elifBranch)])
    (fits :
      (Piece.tag false (keyword.toList ++ ' ' :: expr.enclosed)).Fits context.limits)
    (shallow : expr.printedNesting + 1 ≤ context.limits.expressionDepth) :
    expr.ReadFrom context position
      (Piece.tag false (keyword.toList ++ ' ' :: expr.enclosed)).printed rest
      (.opening opening) expr.enclosed := by
  simp only [List.mem_cons, Prod.mk.injEq, List.not_mem_nil, or_false] at isKeyword
  rcases isKeyword with ⟨rfl, rfl⟩ | ⟨rfl, rfl⟩
  · exact @readFrom_append _ _ _ _ "if ".toList _ _ writable (by decide)
      (by rintro _ ⟨⟩; decide) (.ofPlain (by decide) (by decide))
      (Tag.classify_if expr.printed) fits shallow
  · exact @readFrom_append _ _ _ _ "elif ".toList _ _ writable (by decide)
      (by rintro _ ⟨⟩; decide) (.ofPlain (by decide) (by decide))
      (Tag.classify_elif expr.printed) fits shallow

/-- In the tag of a loop the expression stands behind the variable. -/
theorem Writable.readFrom_loop
    {variableName : String}
    (writable : expr.Writable context.known)
    (nonempty : variableName.toList ≠ [])
    (isWord : ∀ character ∈ variableName.toList, Text.isWord character = true)
    (fits :
      (Piece.tag false ("each".toList ++ ' ' :: expr.bound variableName)).Fits
        context.limits)
    (shallow : expr.printedNesting + 1 ≤ context.limits.expressionDepth) :
    expr.ReadFrom context position
      (Piece.tag false ("each".toList ++ ' ' :: expr.bound variableName)).printed rest
      (.opening .eachBlock) (expr.bound variableName) := by
  have first : ∀ character ∈ (variableName.toList ++ " in ".toList).head?,
      Text.isWord character = true := by
    rw [List.head?_append_of_ne_nil _ nonempty]
    exact fun character begins => isWord character (List.mem_of_mem_head? begins)
  have nonemptyFront : variableName.toList ++ " in ".toList ≠ [] := by simp
  have kept :
      Text.trim Text.isMargin (expr.bound variableName) = expr.bound variableName :=
    Tag.trim_append_parenthesized nonemptyFront
      (fun character begins => Text.not_isMargin_of_isWord (first character begins))
      expr.printed
  have classified :
      Tag.classify false ("each".toList ++ ' ' :: expr.bound variableName) =
        (.opening .eachBlock, expr.bound variableName) := by
    have visible : ∀ character ∈ (expr.bound variableName).head?,
        Text.isBlank character = false := by
      rw [bound, List.head?_append_of_ne_nil _ nonemptyFront]
      exact fun character begins => Text.not_isBlank_of_isWord (first character begins)
    rw [Tag.classify_each (by simp [bound, nonempty]) visible, kept]
  have passes : Tag.Passes ("each ".toList ++ (variableName.toList ++ " in ".toList)) :=
    (Tag.Passes.ofPlain (by decide) (by decide)).append
      ((Tag.Passes.ofWord isWord).append (.ofPlain (by decide) (by decide)))
  exact @readFrom_append _ _ _ _
    ("each ".toList ++ (variableName.toList ++ " in ".toList)) _ _ writable (by simp)
    (by rintro _ ⟨⟩; decide) passes classified fits shallow

/-- A loop tag names the variable and what the loop runs over. -/
theorem binds_bound
    (expr : Expr)
    {variableName : String}
    (nonempty : variableName.toList ≠ [])
    (isWord : ∀ character ∈ variableName.toList, Text.isWord character = true) :
    Tag.Binds (String.ofList (expr.bound variableName)).toList variableName.toList
      expr.enclosed := by
  have kept : Text.trim Text.isSeparator expr.enclosed = expr.enclosed :=
    Tag.trim_parenthesized_self (by decide) expr.printed
  refine ⟨[' '], [' '], expr.enclosed, ?_, ⟨nonempty, isWord⟩,
    ⟨by simp, by simp [Text.isBlank]⟩, ⟨by simp, by simp [Text.isBlank]⟩,
    List.cons_ne_nil _ _, kept.symm⟩
  simp [bound]

end Expr

end Templating
