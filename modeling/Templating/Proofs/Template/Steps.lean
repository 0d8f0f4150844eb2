import Templating.Proofs.Outcome
import Templating.Proofs.Template.Binding
import Templating.Template.Parser

/-!
# What a step can do

A step that adds a segment to an assembly succeeds in eight ways. They are stated
here once, as a relation, and whatever is shown about steps that succeed is shown
by these cases.
-/

namespace Templating
namespace Assembly

variable (context : AssemblyContext) (base : Nat) (assembly : Assembly)

theorem readExpr_eq_ok
    (content : String)
    (consumed : Bool)
    (depth : Nat)
    (expr : Expr) :
    readExpr context content consumed depth = .ok expr ↔
      Expr.parse context.limits context.known content = .ok expr := by
  unfold readExpr
  cases Expr.parse context.limits context.known content <;> simp

/-- A block is entered at the depth that the limit allows. -/
theorem enter_eq_ok (segment : Segment) (depth : Nat) :
    enter context base assembly segment = .ok depth ↔
      assembly.depth base + 1 ≤ context.limits.nestingDepth ∧
        assembly.depth base + 1 = depth := by
  unfold enter Limits.checkNesting
  by_cases fits : assembly.depth base + 1 ≤ context.limits.nestingDepth <;>
    simp [fits]

theorem enter_of_fits
    {context : AssemblyContext}
    {base : Nat}
    {assembly : Assembly}
    (fits : base + assembly.frames.length + 1 ≤ context.limits.nestingDepth)
    (segment : Segment) :
    enter context base assembly segment = .ok (base + assembly.frames.length + 1) :=
  (enter_eq_ok ..).2 ⟨fits, rfl⟩

theorem stepIf_eq_ok (segment : Segment) (next : Assembly) :
    stepIf context base assembly segment = .ok next ↔
      assembly.depth base + 1 ≤ context.limits.nestingDepth ∧
        ∃ condition,
          Expr.parse context.limits context.known segment.content = .ok condition ∧
            next = assembly.openBlock (.branch condition []) segment.position := by
  simp only [stepIf, bind_eq_ok, enter_eq_ok, readExpr_eq_ok, and_assoc,
    exists_and_left, exists_eq_left', pure, Except.pure, Except.ok.injEq, @eq_comm _ next]

theorem stepEach_eq_ok (segment : Segment) (next : Assembly) :
    stepEach context base assembly segment = .ok next ↔
      assembly.depth base + 1 ≤ context.limits.nestingDepth ∧
        ∃ variableName source iterable,
          Tag.Binds segment.content.toList variableName source ∧
            Expr.parse context.limits context.known (String.ofList source) =
              .ok iterable ∧
            next =
              assembly.openBlock (.loop (String.ofList variableName) iterable)
                segment.position := by
  simp only [stepEach, bind_eq_ok, enter_eq_ok, and_assoc, exists_and_left,
    exists_eq_left', ← Tag.binding?_eq_some]
  refine and_congr_right fun fits => ?_
  cases Tag.binding? segment.content.toList with
  | none => simp
  | some binding =>
      obtain ⟨variableName, source⟩ := binding
      simp [bind_eq_ok, readExpr_eq_ok, pure, Except.pure, @eq_comm _ next]

theorem stepElif_eq_ok (segment : Segment) (next : Assembly) :
    stepElif context base assembly segment = .ok next ↔
      ∃ condition earlier position before outer added,
        assembly.frames = ⟨.branch condition earlier, position, before⟩ :: outer ∧
          Expr.parse context.limits context.known segment.content = .ok added ∧
          next =
            { nodes := []
              frames :=
                ⟨.branch added ((condition, assembly.nodes.reverse) :: earlier),
                  position, before⟩ :: outer } := by
  unfold stepElif
  split
  · next condition earlier position before outer isBranch =>
      simp [isBranch, bind_eq_ok, readExpr_eq_ok, pure, Except.pure, @eq_comm _ next]
  · next isOtherwise => simp [isOtherwise, refuse]
  · next notBranch _ =>
      simp only [refuse, reduceCtorEq, false_iff]
      rintro ⟨condition, earlier, position, before, outer, added, isBranch, -⟩
      exact notBranch _ _ _ _ _ isBranch

theorem stepElse_eq_ok (segment : Segment) (next : Assembly) :
    stepElse context base assembly segment = .ok next ↔
      ∃ condition earlier position before outer,
        assembly.frames = ⟨.branch condition earlier, position, before⟩ :: outer ∧
          next =
            { nodes := []
              frames :=
                ⟨.otherwise (condition, assembly.nodes.reverse) earlier,
                  position, before⟩ :: outer } := by
  unfold stepElse
  split
  · next condition earlier position before outer isBranch =>
      simp [isBranch, @eq_comm _ next]
  · next isOtherwise => simp [isOtherwise, refuse]
  · next notBranch _ =>
      simp only [refuse, reduceCtorEq, false_iff]
      rintro ⟨condition, earlier, position, before, outer, isBranch, -⟩
      exact notBranch _ _ _ _ _ isBranch

theorem stepClosing_eq_ok (closing : Closing) (segment : Segment) (next : Assembly) :
    stepClosing context base assembly closing segment = .ok next ↔
      ∃ frame outer,
        assembly.frames = frame :: outer ∧
          closing = frame.block.closing ∧
          next =
            { nodes := frame.block.close assembly.nodes.reverse :: frame.before
              frames := outer } := by
  unfold stepClosing
  split
  · next closed => simp [closed, refuse]
  · next frame outer isOpen =>
      by_cases fits : closing = frame.block.closing
      · simp [isOpen, fits, @eq_comm _ next]
      · rw [if_neg fits]
        simp [isOpen, fits, refuse]

/-- A segment can be added to an assembly, and this is what comes of it. -/
inductive Adds : Segment → Assembly → Prop
  | text (content : String) (position : Int) :
      Adds ⟨.text, content, position⟩ (assembly.push (.text content))
  | output
      {content : String}
      {expr : Expr}
      (position : Int)
      (reads : Expr.parse context.limits context.known content = .ok expr) :
      Adds ⟨.output, content, position⟩ (assembly.push (.output expr))
  | rawOutput
      {content : String}
      {expr : Expr}
      (position : Int)
      (reads : Expr.parse context.limits context.known content = .ok expr) :
      Adds ⟨.rawOutput, content, position⟩ (assembly.push (.rawOutput expr))
  | ifBlock
      {content : String}
      {condition : Expr}
      (position : Int)
      (fits : base + assembly.frames.length + 1 ≤ context.limits.nestingDepth)
      (reads : Expr.parse context.limits context.known content = .ok condition) :
      Adds ⟨.opening .ifBlock, content, position⟩
        (assembly.openBlock (.branch condition []) position)
  | eachBlock
      {content : String}
      {variableName source : List Char}
      {iterable : Expr}
      (position : Int)
      (fits : base + assembly.frames.length + 1 ≤ context.limits.nestingDepth)
      (binds : Tag.Binds content.toList variableName source)
      (reads :
        Expr.parse context.limits context.known (String.ofList source) =
          .ok iterable) :
      Adds ⟨.opening .eachBlock, content, position⟩
        (assembly.openBlock (.loop (String.ofList variableName) iterable) position)
  | elifBranch
      {content : String}
      {condition added : Expr}
      {earlier : List Branch}
      {opened : Int}
      {before : List Node}
      {outer : List Frame}
      (position : Int)
      (isBranch :
        assembly.frames = ⟨.branch condition earlier, opened, before⟩ :: outer)
      (reads : Expr.parse context.limits context.known content = .ok added) :
      Adds ⟨.opening .elifBranch, content, position⟩
        { nodes := []
          frames :=
            ⟨.branch added ((condition, assembly.nodes.reverse) :: earlier), opened,
              before⟩ :: outer }
  | elseBranch
      {condition : Expr}
      {earlier : List Branch}
      {opened : Int}
      {before : List Node}
      {outer : List Frame}
      (content : String)
      (position : Int)
      (isBranch :
        assembly.frames = ⟨.branch condition earlier, opened, before⟩ :: outer) :
      Adds ⟨.opening .elseBranch, content, position⟩
        { nodes := []
          frames :=
            ⟨.otherwise (condition, assembly.nodes.reverse) earlier, opened,
              before⟩ :: outer }
  | closing
      {frame : Frame}
      {outer : List Frame}
      (content : String)
      (position : Int)
      (isOpen : assembly.frames = frame :: outer) :
      Adds ⟨.closing frame.block.closing, content, position⟩
        { nodes := frame.block.close assembly.nodes.reverse :: frame.before
          frames := outer }

variable {context base assembly}

theorem step_of_adds
    {segment : Segment}
    {next : Assembly}
    (adds : Adds context base assembly segment next) :
    assembly.step context base segment = .ok next := by
  cases adds with
  | text content position => rfl
  | output position reads =>
      simp only [step, readExpr, reads]
      rfl
  | rawOutput position reads =>
      simp only [step, readExpr, reads]
      rfl
  | ifBlock position fits reads =>
      simp only [step, stepIf_eq_ok]
      exact ⟨fits, _, reads, rfl⟩
  | eachBlock position fits binds reads =>
      simp only [step, stepEach_eq_ok]
      exact ⟨fits, _, _, _, binds, reads, rfl⟩
  | elifBranch position isBranch reads =>
      simp only [step, stepElif_eq_ok]
      exact ⟨_, _, _, _, _, _, isBranch, reads, rfl⟩
  | elseBranch content position isBranch =>
      simp only [step, stepElse_eq_ok]
      exact ⟨_, _, _, _, _, isBranch, rfl⟩
  | closing content position isOpen =>
      simp only [step, stepClosing_eq_ok]
      exact ⟨_, _, isOpen, rfl, rfl⟩

theorem adds_of_step
    {segment : Segment}
    {next : Assembly}
    (stepped : assembly.step context base segment = .ok next) :
    Adds context base assembly segment next := by
  obtain ⟨kind, content, position⟩ := segment
  cases kind with
  | text =>
      cases stepped
      exact .text content position
  | output =>
      obtain ⟨expr, reads, pushed⟩ := (bind_eq_ok ..).1 stepped
      cases pushed
      exact .output position ((readExpr_eq_ok ..).1 reads)
  | rawOutput =>
      obtain ⟨expr, reads, pushed⟩ := (bind_eq_ok ..).1 stepped
      cases pushed
      exact .rawOutput position ((readExpr_eq_ok ..).1 reads)
  | opening opening =>
      cases opening with
      | ifBlock =>
          obtain ⟨fits, condition, reads, rfl⟩ := (stepIf_eq_ok ..).1 stepped
          exact .ifBlock position fits reads
      | elifBranch =>
          obtain ⟨condition, earlier, opened, before, outer, added, isBranch, reads,
            rfl⟩ := (stepElif_eq_ok ..).1 stepped
          exact .elifBranch position isBranch reads
      | elseBranch =>
          obtain ⟨condition, earlier, opened, before, outer, isBranch, rfl⟩ :=
            (stepElse_eq_ok ..).1 stepped
          exact .elseBranch content position isBranch
      | eachBlock =>
          obtain ⟨fits, variableName, source, iterable, binds, reads, rfl⟩ :=
            (stepEach_eq_ok ..).1 stepped
          exact .eachBlock position fits binds reads
      | other keyword => cases stepped
  | closing closing =>
      obtain ⟨frame, outer, isOpen, rfl, rfl⟩ := (stepClosing_eq_ok ..).1 stepped
      exact .closing content position isOpen

/-- The closing tag that ends a template early cannot be added. -/
theorem Adds.goesOn
    {segment : Segment}
    {next : Assembly}
    (adds : Adds context base assembly segment next) :
    ¬ (segment.kind = .closing (.other none) ∧ assembly.frames = []) := by
  rintro ⟨closes, outside⟩
  cases adds with
  | closing content position isOpen =>
      rw [outside] at isOpen
      cases isOpen
  | _ => cases closes

/-- A segment that can be added is what putting together goes on behind. -/
theorem assembleFrom_of_adds
    {segment : Segment}
    {next : Assembly}
    (adds : Adds context base assembly segment next)
    (rest : List Segment) :
    Template.assembleFrom context base assembly (segment :: rest) =
      Template.assembleFrom context base next rest := by
  rw [Template.assembleFrom, if_neg adds.goesOn]
  simp only [step_of_adds adds]

theorem assembleFrom_closing
    (frame : Frame)
    (outer : List Frame)
    (nodes : List Node)
    (content : String)
    (position : Int)
    (rest : List Segment) :
    Template.assembleFrom context base ⟨nodes, frame :: outer⟩
        (⟨.closing frame.block.closing, content, position⟩ :: rest) =
      Template.assembleFrom context base
        ⟨frame.block.close nodes.reverse :: frame.before, outer⟩ rest :=
  assembleFrom_of_adds (.closing content position rfl) rest

/-- A step opens no block that is nested too deep. -/
theorem Adds.frames_fit
    {segment : Segment}
    {next : Assembly}
    (adds : Adds context base assembly segment next)
    (fits : base + assembly.frames.length ≤ context.limits.nestingDepth) :
    base + next.frames.length ≤ context.limits.nestingDepth := by
  cases adds with
  | text content position => exact fits
  | output position reads => exact fits
  | rawOutput position reads => exact fits
  | ifBlock position room reads => exact room
  | eachBlock position room binds reads => exact room
  | elifBranch position isBranch reads =>
      rw [isBranch] at fits
      exact fits
  | elseBranch content position isBranch =>
      rw [isBranch] at fits
      exact fits
  | closing content position isOpen =>
      rw [isOpen, List.length_cons] at fits
      exact Nat.le_of_succ_le fits

end Assembly
end Templating
