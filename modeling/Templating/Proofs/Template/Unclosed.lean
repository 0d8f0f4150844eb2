import Templating.Proofs.Expr.Places
import Templating.Proofs.Template.Rejections

/-!
# Unfinished templates

Segments are put together from left to right. The first one that cannot be added is
reported, whatever is behind it. When all of them can be added and blocks are still open,
the template is only unfinished: the closing tags of these blocks make it complete, and
the innermost of them is reported.
-/

namespace Templating

/-- An error says that a block is open in the end. -/
def Error.IsUnclosed (error : Error) : Prop :=
  ∃ closing, error.cause = .parse (.unclosedBlock closing)

namespace Segment

/-- A segment opens a block, and a tag with this keyword closes it. -/
inductive ClosedBy (segment : Segment) : String → Prop
  | conditional (isIf : segment.kind = .opening .ifBlock) : ClosedBy segment "endif"
  | loop (isEach : segment.kind = .opening .eachBlock) : ClosedBy segment "endeach"

/-- A segment closes a block. -/
def IsClosing (segment : Segment) : Prop :=
  segment.kind = .closing .endIf ∨ segment.kind = .closing .endEach

/-- The tags of the open blocks behind a segment, the innermost first. -/
def openBehind (tags : List Segment) (segment : Segment) : List Segment :=
  match segment.kind with
  | .opening .ifBlock | .opening .eachBlock => segment :: tags
  | .closing _ => tags.tail
  | _ => tags

/-- The tags of the blocks that are open at the end of a list of segments. -/
def openTags (segments : List Segment) : List Segment :=
  segments.foldl openBehind []

end Segment

/-- A tag opened a block. -/
structure Frame.IsOf (frame : Frame) (tag : Segment) : Prop where
  opening : tag.kind = .opening frame.block.opening
  position : tag.position = frame.position

theorem Frame.IsOf.closedBy
    {frame : Frame}
    {tag : Segment}
    (isOf : frame.IsOf tag) :
    tag.ClosedBy frame.block.closingKeyword := by
  obtain ⟨block, position, before⟩ := frame
  cases block with
  | loop variableName iterable => exact .loop isOf.opening
  | branch condition earlier => exact .conditional isOf.opening
  | otherwise last earlier => exact .conditional isOf.opening

theorem Error.IsOfExpression.not_isUnclosed
    {error : Error}
    (ofExpression : error.IsOfExpression) :
    ¬error.IsUnclosed := by
  rintro ⟨closing, isUnclosed⟩
  rw [IsOfExpression, isUnclosed] at ofExpression
  exact ofExpression

theorem Segment.NotAdded.not_isUnclosed
    {context : AssemblyContext}
    {segment : Segment}
    {error : Error}
    (notAdded : segment.NotAdded context error) :
    ¬error.IsUnclosed := by
  cases notAdded with
  | segment refused early =>
      rintro ⟨closing, isUnclosed⟩
      cases isUnclosed
      exact early closing rfl
  | expression holds failed => exact (Expr.isOfExpression_of_parse failed).not_isUnclosed

namespace Assembly

variable {context : AssemblyContext} {base : Nat} {assembly last : Assembly}
  {segments : List Segment}

/-- Segments are added one by one. -/
inductive AddsAll (context : AssemblyContext) (base : Nat) :
    Assembly → List Segment → Assembly → Prop
  | nil (assembly : Assembly) : AddsAll context base assembly [] assembly
  | cons
      {assembly next last : Assembly}
      {segment : Segment}
      {others : List Segment}
      (adds : assembly.Adds context base segment next)
      (addsOthers : AddsAll context base next others last) :
      AddsAll context base assembly (segment :: others) last

/-- The open blocks behind a segment are those of the open tags. -/
theorem Adds.isOf
    {segment : Segment}
    {next : Assembly}
    {tags : List Segment}
    (adds : assembly.Adds context base segment next)
    (isOf : List.Forall₂ Frame.IsOf assembly.frames tags) :
    List.Forall₂ Frame.IsOf next.frames (Segment.openBehind tags segment) := by
  cases adds with
  | text content position => exact isOf
  | output position reads => exact isOf
  | rawOutput position reads => exact isOf
  | ifBlock position fits reads => exact .cons ⟨rfl, rfl⟩ isOf
  | eachBlock position fits binds reads => exact .cons ⟨rfl, rfl⟩ isOf
  | elifBranch position isBranch reads =>
      rw [isBranch] at isOf
      cases isOf with
      | cons here outside => exact .cons ⟨here.opening, here.position⟩ outside
  | elseBranch content position isBranch =>
      rw [isBranch] at isOf
      cases isOf with
      | cons here outside => exact .cons ⟨here.opening, here.position⟩ outside
  | closing content position isOpen =>
      rw [isOpen] at isOf
      cases isOf with
      | cons here outside => exact outside

theorem AddsAll.isOf
    {tags : List Segment}
    (addsAll : AddsAll context base assembly segments last)
    (isOf : List.Forall₂ Frame.IsOf assembly.frames tags) :
    List.Forall₂ Frame.IsOf last.frames (segments.foldl Segment.openBehind tags) := by
  induction addsAll generalizing tags with
  | nil assembly => exact isOf
  | cons adds addsOthers inductionHypothesis => exact inductionHypothesis (adds.isOf isOf)

/-- Segments that can be added are what putting together goes on behind. -/
theorem AddsAll.assembleFrom_append
    (addsAll : AddsAll context base assembly segments last)
    (further : List Segment) :
    Template.assembleFrom context base assembly (segments ++ further) =
      Template.assembleFrom context base last further := by
  induction addsAll with
  | nil assembly => rfl
  | cons adds addsOthers inductionHypothesis =>
      rw [List.cons_append, assembleFrom_of_adds adds, inductionHypothesis]

/-- How far segments can be added: all of them, or up to one that cannot. -/
inductive Advances (context : AssemblyContext) (base : Nat) (assembly : Assembly) :
    List Segment → Prop
  | all
      {segments : List Segment}
      {last : Assembly}
      (addsAll : AddsAll context base assembly segments last) :
      Advances context base assembly segments
  | upTo
      {front rest : List Segment}
      {segment : Segment}
      {last : Assembly}
      {refusal : Refusal}
      (addsAll : AddsAll context base assembly front last)
      (refused : last.step context base segment = .error refusal) :
      Advances context base assembly (front ++ segment :: rest)

theorem advances (assembly : Assembly) (segments : List Segment) :
    Advances context base assembly segments := by
  induction segments generalizing assembly with
  | nil => exact .all (.nil assembly)
  | cons segment others inductionHypothesis =>
      cases stepped : assembly.step context base segment with
      | error refusal => exact .upTo (.nil assembly) stepped
      | ok next =>
          have adds := adds_of_step stepped
          cases inductionHypothesis next with
          | all addsAll => exact .all (.cons adds addsAll)
          | upTo addsAll refused => exact .upTo (.cons adds addsAll) refused

/-- A segment that cannot be added is reported, whatever is behind it. -/
theorem assembleFrom_of_refused
    {segment : Segment}
    {refusal : Refusal}
    (known : segment.IsKnown)
    (refused : assembly.step context base segment = .error refusal)
    (rest : List Segment) :
    (Template.assembleFrom context base assembly (segment :: rest)).1 =
      .error refusal.error := by
  -- Only a closing tag without a keyword, in front of which no block is open, ends the
  -- template with segments behind it.
  have goesOn : ¬(segment.kind = .closing (.other none) ∧ assembly.frames = []) := by
    rintro ⟨isOther, -⟩
    rw [Segment.IsKnown, isOther] at known
    exact known
  rw [Template.assembleFrom, if_neg goesOn, refused]

/-- The tags that close the open blocks. -/
def closers (frames : List Frame) : List Segment :=
  frames.map fun frame => ⟨.closing frame.block.closing, "", frame.position⟩

theorem isClosing_of_mem_closers {frames : List Frame} :
    ∀ closer ∈ closers frames, closer.IsClosing := by
  intro closer member
  obtain ⟨⟨block, position, before⟩, -, rfl⟩ := List.mem_map.1 member
  cases block with
  | loop variableName iterable => exact .inr rfl
  | branch condition earlier => exact .inl rfl
  | otherwise last earlier => exact .inl rfl

/-- Closing tags make a template complete whose blocks are open. -/
theorem assembleFrom_closers (nodes : List Node) (frames : List Frame) :
    ∃ template,
      (Template.assembleFrom context base ⟨nodes, frames⟩ (closers frames)).1 =
        .ok template := by
  induction frames generalizing nodes with
  | nil => exact ⟨nodes.reverse, rfl⟩
  | cons frame outer inductionHypothesis =>
      rw [closers, List.map_cons, assembleFrom_closing]
      exact inductionHypothesis _

end Assembly

namespace Template

variable {context : AssemblyContext} {segments : List Segment}

/-- What becomes of segments of the language: they make up a template, they are the front
of one with the blocks of their open tags left open, or one of them cannot be added. -/
inductive Verdict (context : AssemblyContext) (segments : List Segment) : Prop
  | accepted
      {template : Template}
      (made : ofSegments context segments = .ok template)
  | unfinished
      {tag : Segment}
      {outer closers : List Segment}
      {closing : String}
      {template : Template}
      (isOpen : Segment.openTags segments = tag :: outer)
      (closedBy : tag.ClosedBy closing)
      (failed :
        ofSegments context segments =
          .error (.parse (.unclosedBlock closing) (some tag.position) context.source))
      (nonempty : closers ≠ [])
      (isClosing : ∀ closer ∈ closers, closer.IsClosing)
      (completed : ofSegments context (segments ++ closers) = .ok template)
  | rejected
      {error : Error}
      (notUnclosed : ¬error.IsUnclosed)
      (failed : ∀ further, ofSegments context (segments ++ further) = .error error)

theorem verdict (known : ∀ segment ∈ segments, segment.IsKnown) :
    Verdict context segments := by
  have advanced : Assembly.Advances context 0 .empty segments := Assembly.advances ..
  cases advanced with
  | upTo addsAll refused =>
      have isKnown := known _ (List.mem_append_right _ List.mem_cons_self)
      refine .rejected (Assembly.step_notAdded refused).not_isUnclosed fun further => ?_
      rw [ofSegments, parseFrom, List.append_assoc, addsAll.assembleFrom_append]
      exact Assembly.assembleFrom_of_refused isKnown refused _
  | @all _ last addsAll =>
      -- Nothing is left to be added, so what fails is a block that is still open.
      have whole := addsAll.assembleFrom_append []
      rw [List.append_nil, assembleFrom] at whole
      have finished : ofSegments context segments = last.finish context :=
        congrArg Prod.fst whole
      have isOf := addsAll.isOf .nil
      obtain ⟨nodes, frames⟩ := last
      cases frames with
      | nil => exact .accepted finished
      | cons frame outer =>
          obtain ⟨tag, tags, here, -, isOpen⟩ := List.forall₂_cons_left_iff.1 isOf
          obtain ⟨template, completed⟩ :=
            @Assembly.assembleFrom_closers context 0 nodes (frame :: outer)
          rw [← addsAll.assembleFrom_append] at completed
          have failed :
              ofSegments context segments =
                .error
                  (.parse (.unclosedBlock frame.block.closingKeyword) (some tag.position)
                    context.source) := by
            rw [finished, here.position]
            rfl
          have nonempty : Assembly.closers (frame :: outer) ≠ [] := List.cons_ne_nil _ _
          exact .unfinished isOpen here.closedBy failed nonempty
            Assembly.isClosing_of_mem_closers completed

/-- An error says that a block is not closed exactly when the segments are unfinished:
they are no template, and some closing tags behind them make them one. It names the tag
that closes the innermost open block, and its offset is the one of the tag that opened
this block. Every other error is the same whatever follows the segments. -/
theorem ofSegments_unclosed
    (context : AssemblyContext)
    (segments : List Segment)
    (known : ∀ segment ∈ segments, segment.IsKnown) :
    ((∃ error, ofSegments context segments = .error error ∧ error.IsUnclosed) ↔
      (∀ template, ofSegments context segments ≠ .ok template) ∧
        ∃ closers : List Segment,
          closers ≠ [] ∧ (∀ closer ∈ closers, closer.IsClosing) ∧
            ∃ template, ofSegments context (segments ++ closers) = .ok template) ∧
      ∀ error,
        ofSegments context segments = .error error →
          (error.IsUnclosed ∧
            ∃ tag outer closing,
              Segment.openTags segments = tag :: outer ∧ tag.ClosedBy closing ∧
                error =
                  .parse (.unclosedBlock closing) (some tag.position) context.source) ∨
            ¬error.IsUnclosed ∧
              ∀ further, ofSegments context (segments ++ further) = .error error := by
  cases verdict known with
  | accepted made =>
      refine ⟨⟨?_, fun ⟨notMade, _⟩ => absurd made (notMade _)⟩, fun error failed => ?_⟩
      · rintro ⟨error, failed, -⟩
        cases made.symm.trans failed
      · cases made.symm.trans failed
  | unfinished isOpen closedBy failed nonempty isClosing completed =>
      refine ⟨⟨fun _ => ⟨fun template made => ?_, _, nonempty, isClosing, _, completed⟩,
        fun _ => ⟨_, failed, _, rfl⟩⟩, fun error otherwise => .inl ?_⟩
      · cases made.symm.trans failed
      · cases failed.symm.trans otherwise
        exact ⟨⟨_, rfl⟩, _, _, _, isOpen, closedBy, rfl⟩
  | @rejected error notUnclosed failed =>
      have failedHere := failed []
      rw [List.append_nil] at failedHere
      refine ⟨⟨?_, ?_⟩, fun other otherwise => .inr ?_⟩
      · rintro ⟨other, otherwise, isUnclosed⟩
        cases failedHere.symm.trans otherwise
        exact absurd isUnclosed notUnclosed
      · rintro ⟨-, closers, -, -, template, completed⟩
        cases (failed closers).symm.trans completed
      · cases failedHere.symm.trans otherwise
        exact ⟨notUnclosed, failed⟩

/-- A conditional is open in the branch behind its `else`, and one closing tag makes the
segments a template. -/
theorem ofSegments_unclosed_else :
    let context : AssemblyContext := ⟨none, fun _ => false, .standard⟩
    let segments : List Segment :=
      [⟨.opening .ifBlock, "x", 3⟩, ⟨.opening .elseBranch, "", 12⟩, ⟨.text, "y", 20⟩]
    (∀ segment ∈ segments, segment.IsKnown) ∧
      Template.ofSegments context segments =
        .error (.parse (.unclosedBlock "endif") (some 3) none) ∧
      ∃ closers : List Segment,
        closers ≠ [] ∧ (∀ closer ∈ closers, closer.IsClosing) ∧
          ∃ template, ofSegments context (segments ++ closers) = .ok template := by
  intro context segments
  have known : ∀ segment ∈ segments, segment.IsKnown := by
    simp [segments, Segment.IsKnown, Opening.IsKnown]
  have failed :
      Template.ofSegments context segments =
        .error (.parse (.unclosedBlock "endif") (some 3) none) := by
    with_unfolding_all rfl
  have unclosed := (ofSegments_unclosed context segments known).1.1
    ⟨_, failed, "endif", rfl⟩
  exact ⟨known, failed, unclosed.2⟩

end Template
end Templating
