import Templating.Proofs.Expr.Parsing
import Templating.Proofs.Template.Spelling
import Templating.Proofs.Template.Steps

/-!
# The parser of templates and the spellings

Segments are put together to a template exactly when they write it and its blocks
are nested no deeper than allowed. In the one direction the segments of a node,
wherever they stand, add that node to the innermost body. In the other direction
an assembly that goes through to the end makes demands on the segments that are
left, one for each open block, and every step backwards keeps them.
-/

namespace Templating

variable {context : AssemblyContext} {base : Nat}

namespace Assembly

/-- Add several nodes to the innermost body. -/
def extend (assembly : Assembly) (nodes : List Node) : Assembly :=
  { assembly with nodes := nodes.reverse ++ assembly.nodes }

end Assembly

mutual

/-- The segments of a node add it to the innermost body. -/
theorem Node.Spelled.assembled
    {node : Node}
    {segments : List Segment}
    (spelled : node.Spelled context segments)
    (assembly : Assembly)
    (rest : List Segment)
    (fits :
      base + assembly.frames.length + node.blockDepth ≤
        context.limits.nestingDepth) :
    Template.assembleFrom context base assembly (segments ++ rest) =
      Template.assembleFrom context base (assembly.push node) rest := by
  cases spelled with
  | text content position =>
      exact Assembly.assembleFrom_of_adds (.text content position) rest
  | output position reads =>
      exact Assembly.assembleFrom_of_adds (.output position reads) rest
  | rawOutput position reads =>
      exact Assembly.assembleFrom_of_adds (.rawOutput position reads) rest
  | conditional position reads bodySpelled branchesSpelled =>
      simp only [Node.blockDepth] at fits
      have opens : assembly.Adds context base _ _ :=
        .ifBlock position (by omega) reads
      rw [List.cons_append, List.append_assoc,
        Assembly.assembleFrom_of_adds opens,
        bodySpelled.assembled _ _
          (by simp only [Assembly.openBlock, List.length_cons]; omega),
        Assembly.extend, Assembly.openBlock,
        branchesSpelled.assembled _ _ _ _ _ _ _ (by omega)]
      simp [Assembly.push, Node.ofBranches]
  | loop position closingPosition binds reads bodySpelled =>
      simp only [Node.blockDepth] at fits
      have opens : assembly.Adds context base _ _ :=
        .eachBlock position (by omega) binds reads
      rw [List.cons_append, List.append_assoc,
        Assembly.assembleFrom_of_adds opens,
        bodySpelled.assembled _ _
          (by simp only [Assembly.openBlock, List.length_cons]; omega),
        Assembly.extend, Assembly.openBlock]
      refine (Assembly.assembleFrom_closing _ _ _ _ closingPosition rest).trans ?_
      simp [Assembly.push, OpenBlock.close]

/-- The segments of the branches of a conditional close it. -/
theorem Branches.Spelled.assembled
    {branches : Branches}
    {segments : List Segment}
    (spelled : branches.Spelled context segments)
    (nodes : List Node)
    (condition : Expr)
    (earlier : List Branch)
    (position : Int)
    (before : List Node)
    (outer : List Frame)
    (rest : List Segment)
    (fits :
      base + outer.length + 1 + branches.blockDepth ≤ context.limits.nestingDepth) :
    Template.assembleFrom context base
        ⟨nodes, ⟨.branch condition earlier, position, before⟩ :: outer⟩
        (segments ++ rest) =
      Template.assembleFrom context base
        ⟨Node.ofBranches (condition, nodes.reverse) earlier branches :: before,
          outer⟩
        rest := by
  cases spelled with
  | done content closingPosition =>
      exact Assembly.assembleFrom_closing _ outer nodes content closingPosition rest
  | elif branchPosition reads bodySpelled branchesSpelled =>
      simp only [Branches.blockDepth] at fits
      rw [List.cons_append, List.append_assoc,
        Assembly.assembleFrom_of_adds (.elifBranch branchPosition rfl reads),
        bodySpelled.assembled _ _ (by simp only [List.length_cons]; omega),
        Assembly.extend,
        branchesSpelled.assembled _ _ _ _ _ _ _ (by omega)]
      simp [Node.ofBranches]
  | otherwise content closingContent branchPosition closingPosition bodySpelled =>
      simp only [Branches.blockDepth] at fits
      rw [List.cons_append, List.append_assoc,
        Assembly.assembleFrom_of_adds (.elseBranch content branchPosition rfl),
        bodySpelled.assembled _ _ (by simp only [List.length_cons]; omega),
        Assembly.extend]
      refine (Assembly.assembleFrom_closing _ _ _ _ closingPosition rest).trans ?_
      simp [OpenBlock.close]

/-- The segments of several nodes add them to the innermost body. -/
theorem Node.AllSpelled.assembled
    {nodes : List Node}
    {segments : List Segment}
    (spelled : Node.AllSpelled context nodes segments)
    (assembly : Assembly)
    (rest : List Segment)
    (fits :
      base + assembly.frames.length + Node.blockDepthAll nodes ≤
        context.limits.nestingDepth) :
    Template.assembleFrom context base assembly (segments ++ rest) =
      Template.assembleFrom context base (assembly.extend nodes) rest := by
  cases spelled with
  | nil => rfl
  | cons nodeSpelled othersSpelled =>
      simp only [Node.blockDepthAll] at fits
      rw [List.append_assoc, nodeSpelled.assembled _ _ (by omega),
        othersSpelled.assembled (assembly.push _) _
          (by simp only [Assembly.push]; omega)]
      simp [Assembly.extend, Assembly.push]

end

/-- What ends an open block whose last body is complete: the segments, the blocks
in them, and the node that the block becomes. -/
inductive OpenBlock.Ends (context : AssemblyContext) (body : List Node) :
    OpenBlock → List Segment → (depth : Nat) → Node → Prop
  | loop
      (variableName : String)
      (iterable : Expr)
      (content : String)
      (position : Int) :
      Ends context body (.loop variableName iterable)
        [⟨.closing .endEach, content, position⟩] 0
        (.loop variableName iterable body)
  | branch
      (condition : Expr)
      (earlier : List Branch)
      {branches : Branches}
      {ending : List Segment}
      (spelled : branches.Spelled context ending) :
      Ends context body (.branch condition earlier) ending branches.blockDepth
        (Node.ofBranches (condition, body) earlier branches)
  | otherwise
      (last : Branch)
      (earlier : List Branch)
      (content : String)
      (position : Int) :
      Ends context body (.otherwise last earlier)
        [⟨.closing .endIf, content, position⟩] 0
        (Node.ofBranches last earlier (.otherwise body))

/-- The closing tag of a block ends it. -/
theorem OpenBlock.ends_closing
    (block : OpenBlock)
    (content : String)
    (position : Int)
    (body : List Node) :
    block.Ends context body [⟨.closing block.closing, content, position⟩] 0
      (block.close body) := by
  cases block with
  | loop variableName iterable => exact .loop variableName iterable content position
  | branch condition earlier => exact .branch condition earlier (.done content position)
  | otherwise last earlier => exact .otherwise last earlier content position

/-- What an assembly demands of the segments that are left: for each open block
the rest of its body and what ends it, and outside of all blocks the rest of the
template. -/
def Closes
    (context : AssemblyContext)
    (base : Nat)
    (template : Template) :
    List Frame → List Node → List Segment → Prop
  | [], nodes, segments =>
      ∃ body,
        Node.AllSpelled context body segments ∧
          base + Node.blockDepthAll body ≤ context.limits.nestingDepth ∧
          template = nodes.reverse ++ body
  | frame :: outer, nodes, segments =>
      ∃ body bodySegments ending depth node rest,
        segments = bodySegments ++ ending ++ rest ∧
          Node.AllSpelled context body bodySegments ∧
          frame.block.Ends context (nodes.reverse ++ body) ending depth node ∧
          base + outer.length + 1 + max (Node.blockDepthAll body) depth ≤
            context.limits.nestingDepth ∧
          Closes context base template outer (node :: frame.before) rest

namespace Closes

variable {template : Template} {frames : List Frame}

/-- A node in front of segments that meet the demand. -/
theorem push
    {node : Node}
    {nodes : List Node}
    {segments rest : List Segment}
    (spelled : node.Spelled context segments)
    (fits :
      base + frames.length + node.blockDepth ≤ context.limits.nestingDepth)
    (closes : Closes context base template frames (node :: nodes) rest) :
    Closes context base template frames nodes (segments ++ rest) := by
  cases frames with
  | nil =>
      obtain ⟨body, bodySpelled, bodyFits, rfl⟩ := closes
      refine ⟨node :: body, .cons spelled bodySpelled, ?_, by simp⟩
      simp only [Node.blockDepthAll, List.length_nil] at fits ⊢
      omega
  | cons frame outer =>
      obtain ⟨body, bodySegments, ending, depth, made, others, rfl, bodySpelled, ends,
        bodyFits, closes⟩ := closes
      refine ⟨node :: body, segments ++ bodySegments, ending, depth, made, others,
        by simp, .cons spelled bodySpelled, by simpa using ends, ?_, closes⟩
      simp only [Node.blockDepthAll, List.length_cons] at fits ⊢
      omega

/-- The end of the innermost block in front of segments that meet the demand of
the others. -/
theorem ends
    {frame : Frame}
    {nodes : List Node}
    {ending rest : List Segment}
    {depth : Nat}
    {node : Node}
    (ends : frame.block.Ends context nodes.reverse ending depth node)
    (fits :
      base + frames.length + 1 + depth ≤ context.limits.nestingDepth)
    (closes : Closes context base template frames (node :: frame.before) rest) :
    Closes context base template (frame :: frames) nodes (ending ++ rest) := by
  refine ⟨[], [], ending, depth, node, rest, rfl, .nil, by simpa using ends, ?_, closes⟩
  simpa [Node.blockDepthAll] using fits

/-- A step backwards keeps what is demanded. -/
theorem step
    {assembly next : Assembly}
    {segment : Segment}
    {rest : List Segment}
    (adds : assembly.Adds context base segment next)
    (fits : base + assembly.frames.length ≤ context.limits.nestingDepth)
    (closes : Closes context base template next.frames next.nodes rest) :
    Closes context base template assembly.frames assembly.nodes (segment :: rest) := by
  cases adds with
  | text content position => exact push (.text content position) fits closes
  | output position reads => exact push (.output position reads) fits closes
  | rawOutput position reads => exact push (.rawOutput position reads) fits closes
  | ifBlock position room reads =>
      obtain ⟨body, bodySegments, ending, depth, node, others, rfl, bodySpelled, ends,
        bodyFits, closes⟩ := closes
      cases ends with
      | branch condition earlier branchesSpelled =>
          refine
            push (.conditional position reads bodySpelled branchesSpelled) ?_ closes
          simp only [Node.blockDepth]
          omega
  | eachBlock position room binds reads =>
      obtain ⟨body, bodySegments, ending, depth, node, others, rfl, bodySpelled, ends,
        bodyFits, closes⟩ := closes
      cases ends with
      | loop variableName iterable closingContent closingPosition =>
          refine
            push (.loop position closingPosition binds reads bodySpelled) ?_ closes
          simp only [Node.blockDepth]
          omega
  | @elifBranch content condition added earlier opened before outer position isBranch
      reads =>
      obtain ⟨body, bodySegments, ending, depth, node, others, rfl, bodySpelled, ends,
        bodyFits, closes⟩ := closes
      cases ends with
      | branch _ _ branchesSpelled =>
          have ended :
              (Frame.mk (.branch condition earlier) opened before).block.Ends context
                assembly.nodes.reverse _ _ _ :=
            .branch condition earlier
              (.elif position reads bodySpelled branchesSpelled)
          rw [isBranch]
          refine Closes.ends ended ?_ closes
          simpa [Branches.blockDepth] using bodyFits
  | @elseBranch condition earlier opened before outer content position isBranch =>
      obtain ⟨body, bodySegments, ending, depth, node, others, rfl, bodySpelled, ends,
        bodyFits, closes⟩ := closes
      cases ends with
      | otherwise _ _ closingContent closingPosition =>
          have ended :
              (Frame.mk (.branch condition earlier) opened before).block.Ends context
                assembly.nodes.reverse _ _ _ :=
            .branch condition earlier
              (.otherwise content closingContent position closingPosition bodySpelled)
          rw [isBranch]
          refine Closes.ends ended ?_ closes
          simpa [Branches.blockDepth] using bodyFits
  | @closing frame outer content position isOpen =>
      rw [isOpen] at fits ⊢
      exact Closes.ends (frame.block.ends_closing content position _) fits closes

end Closes

end Templating
