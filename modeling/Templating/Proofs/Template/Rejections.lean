import Templating.Proofs.Expr.Parsing
import Templating.Proofs.Template.Expressions
import Templating.Proofs.Template.Steps

/-!
# Why segments are rejected

A list of segments is rejected because of one of them. Its place among the others is
wrong, or the text of its expression is rejected. An open block that is never closed is
the fault of the segment that opened it, so every open block is traced back to one.
-/

namespace Templating

/-- A cause that is the fault of a segment: it opens a block that is nested too deep or
never closed, it is no loop, or it belongs to a block that is not there. -/
inductive Segment.Refused (limits : Limits) : Segment → ParseCause → Prop
  | conditionalTooDeep (content : String) (position : Int) :
      Refused limits ⟨.opening .ifBlock, content, position⟩
        (.nestingTooDeep limits.nestingDepth)
  | loopTooDeep (content : String) (position : Int) :
      Refused limits ⟨.opening .eachBlock, content, position⟩
        (.nestingTooDeep limits.nestingDepth)
  | malformedEach
      {content : String}
      (noLoop : Tag.binding? content.toList = none)
      (position : Int) :
      Refused limits ⟨.opening .eachBlock, content, position⟩ .malformedEach
  | elifOutside (content : String) (position : Int) :
      Refused limits ⟨.opening .elifBranch, content, position⟩ (.unmatchedBranch "elif")
  | elifAfterElse (content : String) (position : Int) :
      Refused limits ⟨.opening .elifBranch, content, position⟩ (.branchAfterElse "elif")
  | elseOutside (content : String) (position : Int) :
      Refused limits ⟨.opening .elseBranch, content, position⟩ (.unmatchedBranch "else")
  | elseAfterElse (content : String) (position : Int) :
      Refused limits ⟨.opening .elseBranch, content, position⟩ (.branchAfterElse "else")
  | unknownKeyword (keyword : Option String) (content : String) (position : Int) :
      Refused limits ⟨.opening (.other keyword), content, position⟩
        (.unknownKeyword keyword)
  | unexpectedClosing
      (closing : Closing)
      (expected : Option String)
      (content : String)
      (position : Int) :
      Refused limits ⟨.closing closing, content, position⟩
        (.unexpectedClosing closing.keyword expected)
  | unclosedConditional (content : String) (position : Int) :
      Refused limits ⟨.opening .ifBlock, content, position⟩ (.unclosedBlock "endif")
  | unclosedLoop (content : String) (position : Int) :
      Refused limits ⟨.opening .eachBlock, content, position⟩ (.unclosedBlock "endeach")

/-- An error that is the fault of a segment or of its expression. -/
inductive Segment.Rejected (context : AssemblyContext) (segment : Segment) : Error → Prop
  | segment
      {cause : ParseCause}
      (refused : segment.Refused context.limits cause) :
      Rejected context segment (.parse cause (some segment.position) context.source)
  | expression
      {source : String}
      {error : Error}
      (holds : segment.source? = some source)
      (failed : Expr.parse context.limits context.known source = .error error) :
      Rejected context segment error

/-- An error of a segment that cannot be added, whatever is behind it. -/
inductive Segment.NotAdded (context : AssemblyContext) (segment : Segment) : Error → Prop
  | segment
      {cause : ParseCause}
      (refused : segment.Refused context.limits cause)
      (early : ∀ closing, cause ≠ .unclosedBlock closing) :
      NotAdded context segment (.parse cause (some segment.position) context.source)
  | expression
      {source : String}
      {error : Error}
      (holds : segment.source? = some source)
      (failed : Expr.parse context.limits context.known source = .error error) :
      NotAdded context segment error

theorem Segment.NotAdded.rejected
    {context : AssemblyContext}
    {segment : Segment}
    {error : Error}
    (notAdded : segment.NotAdded context error) :
    segment.Rejected context error := by
  cases notAdded with
  | segment refused early => exact .segment refused
  | expression holds failed => exact .expression holds failed

theorem Segment.Rejected.isParse
    {context : AssemblyContext}
    {segment : Segment}
    {error : Error}
    (rejected : segment.Rejected context error) :
    error.IsParse := by
  cases rejected with
  | segment refused => trivial
  | expression holds failed => exact Expr.parse_error failed

/-- Text is never at fault. -/
theorem Segment.Rejected.kind_ne_text
    {context : AssemblyContext}
    {segment : Segment}
    {error : Error}
    (rejected : segment.Rejected context error) :
    segment.kind ≠ .text := by
  cases rejected with
  | segment refused => cases refused <;> simp
  | expression holds failed =>
      intro isText
      simp [Segment.source?, isText] at holds

variable {context : AssemblyContext} {base : Nat} {assembly : Assembly}

/-- The tag that opens a block. -/
def OpenBlock.opening : OpenBlock → Opening
  | .loop _ _ => .eachBlock
  | .branch _ _ => .ifBlock
  | .otherwise _ _ => .ifBlock

/-- An open block was opened by one of several segments. -/
def Frame.OpenedBy (segments : List Segment) (frame : Frame) : Prop :=
  ∃ segment ∈ segments,
    segment.kind = .opening frame.block.opening ∧ segment.position = frame.position

namespace Assembly

/-- A step opens blocks by its own segment only. -/
theorem Adds.opened
    {segments : List Segment}
    {segment : Segment}
    {next : Assembly}
    (adds : Adds context base assembly segment next)
    (member : segment ∈ segments)
    (opened : ∀ frame ∈ assembly.frames, frame.OpenedBy segments) :
    ∀ frame ∈ next.frames, frame.OpenedBy segments := by
  cases adds with
  | text content position => exact opened
  | output position reads => exact opened
  | rawOutput position reads => exact opened
  | ifBlock position fits reads =>
      exact List.forall_mem_cons.2 ⟨⟨_, member, rfl, rfl⟩, opened⟩
  | eachBlock position fits binds reads =>
      exact List.forall_mem_cons.2 ⟨⟨_, member, rfl, rfl⟩, opened⟩
  | elifBranch position isBranch reads =>
      rw [isBranch] at opened
      obtain ⟨here, outside⟩ := List.forall_mem_cons.1 opened
      exact List.forall_mem_cons.2 ⟨here, outside⟩
  | elseBranch content position isBranch =>
      rw [isBranch] at opened
      obtain ⟨here, outside⟩ := List.forall_mem_cons.1 opened
      exact List.forall_mem_cons.2 ⟨here, outside⟩
  | closing content position isOpen =>
      rw [isOpen] at opened
      exact (List.forall_mem_cons.1 opened).2

theorem readExpr_notAdded
    {segment : Segment}
    {source : String}
    {consumed : Bool}
    {depth : Nat}
    {refusal : Refusal}
    (holds : segment.source? = some source)
    (failed : readExpr context source consumed depth = .error refusal) :
    segment.NotAdded context refusal.error := by
  unfold readExpr at failed
  split at failed
  · cases failed
  · next error parsed =>
      cases failed
      exact .expression holds parsed

theorem enter_notAdded
    {segment : Segment}
    {refusal : Refusal}
    (tooDeep :
      segment.Refused context.limits (.nestingTooDeep context.limits.nestingDepth))
    (failed : enter context base assembly segment = .error refusal) :
    segment.NotAdded context refusal.error := by
  unfold enter Limits.checkNesting at failed
  by_cases fits : assembly.depth base + 1 ≤ context.limits.nestingDepth
  · simp [fits] at failed
  · simp only [fits, if_false, Except.error.injEq] at failed
    subst failed
    exact .segment tooDeep (by simp)

/-- Whatever a step does not add cannot be added. -/
theorem step_notAdded
    {segment : Segment}
    {refusal : Refusal}
    (failed : assembly.step context base segment = .error refusal) :
    segment.NotAdded context refusal.error := by
  obtain ⟨kind, content, position⟩ := segment
  cases kind with
  | text => cases failed
  | output =>
      obtain readFailed | ⟨expr, pushed⟩ := bind_error failed
      · exact readExpr_notAdded rfl readFailed
      · cases pushed
  | rawOutput =>
      obtain readFailed | ⟨expr, pushed⟩ := bind_error failed
      · exact readExpr_notAdded rfl readFailed
      · cases pushed
  | opening opening =>
      cases opening with
      | ifBlock =>
          obtain enterFailed | ⟨_, failed⟩ := bind_error failed
          · exact enter_notAdded (.conditionalTooDeep ..) enterFailed
          · obtain readFailed | ⟨condition, opened⟩ := bind_error failed
            · exact readExpr_notAdded rfl readFailed
            · cases opened
      | elifBranch =>
          simp only [step, stepElif] at failed
          split at failed
          · obtain readFailed | ⟨added, opened⟩ := bind_error failed
            · exact readExpr_notAdded rfl readFailed
            · cases opened
          · cases failed
            exact .segment (.elifAfterElse ..) (by simp)
          · cases failed
            exact .segment (.elifOutside ..) (by simp)
      | elseBranch =>
          simp only [step, stepElse] at failed
          split at failed
          · cases failed
          · cases failed
            exact .segment (.elseAfterElse ..) (by simp)
          · cases failed
            exact .segment (.elseOutside ..) (by simp)
      | eachBlock =>
          obtain enterFailed | ⟨_, failed⟩ := bind_error failed
          · exact enter_notAdded (.loopTooDeep ..) enterFailed
          · split at failed
            · next noLoop =>
                cases failed
                exact .segment (.malformedEach noLoop position) (by simp)
            · next variableName iterable binding =>
                obtain readFailed | ⟨expr, opened⟩ := bind_error failed
                · have holds :
                      Segment.source? ⟨.opening .eachBlock, content, position⟩ =
                        some (String.ofList iterable) := by
                    simp only [Segment.source?, binding, Option.map_some]
                  exact readExpr_notAdded holds readFailed
                · cases opened
      | other keyword =>
          cases failed
          exact .segment (.unknownKeyword ..) (by simp)
  | closing closing =>
      simp only [step, stepClosing] at failed
      split at failed
      · cases failed
        exact .segment (.unexpectedClosing ..) (by simp)
      · split at failed
        · cases failed
        · cases failed
          exact .segment (.unexpectedClosing ..) (by simp)

/-- A block that is open in the end is the fault of the segment that opened it. -/
theorem finish_rejected
    {segments : List Segment}
    {error : Error}
    (opened : ∀ frame ∈ assembly.frames, frame.OpenedBy segments)
    (failed : assembly.finish context = .error error) :
    ∃ segment ∈ segments, segment.Rejected context error := by
  unfold finish at failed
  split at failed
  · cases failed
  · next frame outer isOpen =>
      cases failed
      obtain ⟨⟨kind, content, position⟩, member, opens, samePosition⟩ :=
        opened frame (by rw [isOpen]; exact List.mem_cons_self)
      obtain ⟨block, opened, before⟩ := frame
      dsimp only at opens samePosition
      subst opens samePosition
      refine ⟨_, member, .segment ?_⟩
      cases block with
      | loop variableName iterable => exact .unclosedLoop content position
      | branch condition earlier => exact .unclosedConditional content position
      | otherwise last earlier => exact .unclosedConditional content position

end Assembly

namespace Template

/-- Segments that are not put together are rejected because of one of them. -/
theorem assembleFrom_rejected
    {all segments : List Segment}
    {error : Error}
    (within : segments ⊆ all)
    (opened : ∀ frame ∈ assembly.frames, frame.OpenedBy all)
    (failed : (assembleFrom context base assembly segments).1 = .error error) :
    ∃ segment ∈ all, segment.Rejected context error := by
  induction segments generalizing assembly with
  | nil => exact Assembly.finish_rejected opened failed
  | cons segment rest inductionHypothesis =>
      obtain ⟨member, behind⟩ := List.cons_subset.1 within
      rw [assembleFrom] at failed
      split at failed
      · cases failed
      · split at failed
        · next next stepped =>
            have adds := Assembly.adds_of_step stepped
            exact inductionHypothesis behind (adds.opened member opened) failed
        · next refusal refused =>
            cases failed
            exact ⟨segment, member, (Assembly.step_notAdded refused).rejected⟩

/-- Segments that make up no template are rejected because of one of them. -/
theorem ofSegments_rejected
    {segments : List Segment}
    {error : Error}
    (failed : ofSegments context segments = .error error) :
    ∃ segment ∈ segments, segment.Rejected context error :=
  assembleFrom_rejected (List.Subset.refl segments) (by simp [Assembly.empty]) failed

end Template
end Templating
