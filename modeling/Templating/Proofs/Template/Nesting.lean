import Templating.Proofs.Template.Sources

/-!
# Blocks and their depths

The blocks of a template in the order of their opening tags, each with the number of
blocks around it, itself included. While a template is put together its blocks are
entered in the same order, and the number that is compared with the limit is this
depth. The greatest depth is the block depth of the template.
-/

namespace Templating

/-- A block as its opening tag tells it, with its depth. -/
structure PlacedBlock where
  opening : OpenBlock
  depth : Nat

/-- The greatest depth among blocks, where so many blocks are around all of them. -/
def deepest (outside : Nat) (blocks : List PlacedBlock) : Nat :=
  (blocks.map PlacedBlock.depth).foldr max outside

theorem deepest_cons (outside : Nat) (block : PlacedBlock) (blocks : List PlacedBlock) :
    deepest outside (block :: blocks) = max block.depth (deepest outside blocks) := rfl

/-- Blocks may be taken to be further inside than they are. -/
theorem max_deepest
    {outside inside : Nat}
    (further : outside ≤ inside)
    (blocks : List PlacedBlock) :
    max inside (deepest outside blocks) = deepest inside blocks := by
  induction blocks with
  | nil => exact Nat.max_eq_left further
  | cons block rest inductionHypothesis =>
      rw [deepest_cons, deepest_cons, ← inductionHypothesis, Nat.max_left_comm]

theorem deepest_append (outside : Nat) (blocks others : List PlacedBlock) :
    deepest outside (blocks ++ others) =
      max (deepest outside blocks) (deepest outside others) := by
  induction blocks with
  | nil =>
      rw [List.nil_append]
      exact ((max_deepest (Nat.le_refl outside) others).trans rfl).symm
  | cons block rest inductionHypothesis =>
      rw [List.cons_append, deepest_cons, deepest_cons, inductionHypothesis,
        Nat.max_assoc]

mutual

/-- The blocks of a node, where so many blocks are around it. -/
def Node.blocks (outside : Nat) : Node → List PlacedBlock
  | .conditional condition body branches =>
      ⟨.branch condition [], outside + 1⟩ ::
        (Node.blocksAll (outside + 1) body ++ branches.blocks (outside + 1))
  | .loop variableName iterable body =>
      ⟨.loop variableName iterable, outside + 1⟩ :: Node.blocksAll (outside + 1) body
  | _ => []

/-- The blocks of several branches. -/
def Branches.blocks (outside : Nat) : Branches → List PlacedBlock
  | .done => []
  | .elif _ body branches => Node.blocksAll outside body ++ branches.blocks outside
  | .otherwise body => Node.blocksAll outside body

/-- The blocks of several nodes. -/
def Node.blocksAll (outside : Nat) : List Node → List PlacedBlock
  | [] => []
  | node :: rest => node.blocks outside ++ Node.blocksAll outside rest

end

/-- The blocks of a template. -/
def Template.blocks (template : Template) : List PlacedBlock :=
  Node.blocksAll 0 template

mutual

/-- The block depth of a node is the depth of its deepest block. -/
theorem Node.deepest_blocks (outside : Nat) (node : Node) :
    deepest outside (node.blocks outside) = outside + node.blockDepth := by
  cases node with
  | conditional condition body branches =>
      rw [Node.blocks, Node.blockDepth, deepest_cons,
        max_deepest (Nat.le_succ outside), deepest_append,
        Node.deepest_blocksAll (outside + 1) body,
        branches.deepest_blocks (outside + 1)]
      omega
  | loop variableName iterable body =>
      rw [Node.blocks, Node.blockDepth, deepest_cons,
        max_deepest (Nat.le_succ outside), Node.deepest_blocksAll (outside + 1) body]
      omega
  | _ => rfl

theorem Branches.deepest_blocks (outside : Nat) (branches : Branches) :
    deepest outside (branches.blocks outside) = outside + branches.blockDepth := by
  cases branches with
  | done => rfl
  | elif condition body branches =>
      rw [Branches.blocks, Branches.blockDepth, deepest_append,
        Node.deepest_blocksAll outside body, branches.deepest_blocks outside]
      omega
  | otherwise body => exact Node.deepest_blocksAll outside body

theorem Node.deepest_blocksAll (outside : Nat) (nodes : List Node) :
    deepest outside (Node.blocksAll outside nodes) =
      outside + Node.blockDepthAll nodes := by
  cases nodes with
  | nil => rfl
  | cons node rest =>
      rw [Node.blocksAll, Node.blockDepthAll, deepest_append,
        node.deepest_blocks outside, Node.deepest_blocksAll outside rest]
      omega

end

/-- The block depth of a template is the greatest depth of its blocks. -/
theorem Template.deepest_blocks (template : Template) :
    deepest 0 template.blocks = template.blockDepth :=
  (Node.deepest_blocksAll 0 template).trans (Nat.zero_add _)

namespace Assembly

variable (context : AssemblyContext) (base : Nat)

/-- The block that a segment opens, with the depth at which it is entered: the one that
is compared with the limit. -/
def entered? (assembly next : Assembly) (segment : Segment) : Option PlacedBlock :=
  match segment.kind with
  | .opening .ifBlock | .opening .eachBlock =>
      match enter context base assembly segment, next.frames with
      | .ok depth, frame :: _ => some ⟨frame.block, depth⟩
      | _, _ => none
  | _ => none

end Assembly

/-- The blocks that are entered while segments are put together, in order. -/
def Template.entered
    (context : AssemblyContext)
    (base : Nat)
    (assembly : Assembly) :
    List Segment → List PlacedBlock
  | [] => []
  | segment :: rest =>
    if segment.kind = .closing (.other none) ∧ assembly.frames = [] then []
    else
      match assembly.step context base segment with
      | .ok next =>
          (assembly.entered? context base next segment).toList ++
            Template.entered context base next rest
      | .error _ => []

variable {context : AssemblyContext} {base : Nat}

theorem Template.entered_of_adds
    {assembly next : Assembly}
    {segment : Segment}
    (adds : assembly.Adds context base segment next)
    (rest : List Segment) :
    Template.entered context base assembly (segment :: rest) =
      (assembly.entered? context base next segment).toList ++
        Template.entered context base next rest := by
  rw [Template.entered, if_neg adds.goesOn]
  simp only [Assembly.step_of_adds adds]

/-- A closing tag enters no block. -/
theorem Template.entered_closing
    (frame : Frame)
    (outer : List Frame)
    (nodes : List Node)
    (content : String)
    (position : Int)
    (rest : List Segment) :
    Template.entered context base ⟨nodes, frame :: outer⟩
        (⟨.closing frame.block.closing, content, position⟩ :: rest) =
      Template.entered context base
        ⟨frame.block.close nodes.reverse :: frame.before, outer⟩ rest :=
  Template.entered_of_adds (.closing content position rfl) rest

mutual

/-- While the segments of a node are added, its blocks are entered. -/
theorem Node.Spelled.entered
    {node : Node}
    {segments : List Segment}
    (spelled : node.Spelled context segments)
    (assembly : Assembly)
    (rest : List Segment)
    (fits :
      base + assembly.frames.length + node.blockDepth ≤
        context.limits.nestingDepth) :
    Template.entered context base assembly (segments ++ rest) =
      node.blocks (base + assembly.frames.length) ++
        Template.entered context base (assembly.push node) rest := by
  cases spelled with
  | text content position =>
      exact Template.entered_of_adds (.text content position) rest
  | output position reads =>
      exact Template.entered_of_adds (.output position reads) rest
  | rawOutput position reads =>
      exact Template.entered_of_adds (.rawOutput position reads) rest
  | conditional position reads bodySpelled branchesSpelled =>
      simp only [Node.blockDepth] at fits
      have room : base + assembly.frames.length + 1 ≤ context.limits.nestingDepth := by
        omega
      have opens : assembly.Adds context base _ _ := .ifBlock position room reads
      rw [List.cons_append, List.append_assoc, Template.entered_of_adds opens,
        bodySpelled.entered _ _
          (by simp only [Assembly.openBlock, List.length_cons]; omega),
        Assembly.extend, Assembly.openBlock,
        branchesSpelled.entered _ _ _ _ _ _ _ (by omega)]
      simp [Assembly.push, Node.ofBranches, Node.blocks, Assembly.entered?,
        Assembly.enter_of_fits room, Nat.add_assoc]
  | @loop content closingContent variableName source iterable body bodySegments position
      closingPosition binds reads bodySpelled =>
      simp only [Node.blockDepth] at fits
      have room : base + assembly.frames.length + 1 ≤ context.limits.nestingDepth := by
        omega
      have opens : assembly.Adds context base _ _ :=
        .eachBlock position room binds reads
      have closed :
          Template.entered context base
              ⟨body.reverse ++ [],
                ⟨.loop (String.ofList variableName) iterable, position, assembly.nodes⟩ ::
                  assembly.frames⟩
              ([⟨.closing .endEach, closingContent, closingPosition⟩] ++ rest) =
            Template.entered context base
              (assembly.push (.loop (String.ofList variableName) iterable body)) rest := by
        refine (Template.entered_closing _ _ _ _ closingPosition rest).trans ?_
        simp [Assembly.push, OpenBlock.close]
      rw [List.cons_append, List.append_assoc, Template.entered_of_adds opens,
        bodySpelled.entered _ _
          (by simp only [Assembly.openBlock, List.length_cons]; omega),
        Assembly.extend, Assembly.openBlock, closed]
      simp [Node.blocks, Assembly.entered?, Assembly.enter_of_fits room, Nat.add_assoc]

/-- While the segments of branches are added, the blocks in them are entered. -/
theorem Branches.Spelled.entered
    {branches : Branches}
    {segments : List Segment}
    (spelled : branches.Spelled context segments)
    (nodes : List Node)
    (condition : Expr)
    (earlier : List Branch)
    (position : Int)
    (before : List Node)
    (outer : List Frame)
    (rest : List Segment)
    (fits :
      base + outer.length + 1 + branches.blockDepth ≤ context.limits.nestingDepth) :
    Template.entered context base
        ⟨nodes, ⟨.branch condition earlier, position, before⟩ :: outer⟩
        (segments ++ rest) =
      branches.blocks (base + outer.length + 1) ++
        Template.entered context base
          ⟨Node.ofBranches (condition, nodes.reverse) earlier branches :: before,
            outer⟩
          rest := by
  cases spelled with
  | done content closingPosition =>
      exact Template.entered_closing _ outer nodes content closingPosition rest
  | elif branchPosition reads bodySpelled branchesSpelled =>
      simp only [Branches.blockDepth] at fits
      rw [List.cons_append, List.append_assoc,
        Template.entered_of_adds (.elifBranch branchPosition rfl reads),
        bodySpelled.entered _ _ (by simp only [List.length_cons]; omega),
        Assembly.extend,
        branchesSpelled.entered _ _ _ _ _ _ _ (by omega)]
      simp [Node.ofBranches, Branches.blocks, Assembly.entered?, Nat.add_assoc]
  | @otherwise body bodySegments content closingContent branchPosition closingPosition
      bodySpelled =>
      simp only [Branches.blockDepth] at fits
      have closed :
          Template.entered context base
              ⟨body.reverse ++ [],
                ⟨.otherwise (condition, nodes.reverse) earlier, position, before⟩ ::
                  outer⟩
              ([⟨.closing .endIf, closingContent, closingPosition⟩] ++ rest) =
            Template.entered context base
              ⟨Node.ofBranches (condition, nodes.reverse) earlier (.otherwise body) ::
                before, outer⟩
              rest := by
        refine (Template.entered_closing _ _ _ _ closingPosition rest).trans ?_
        simp [OpenBlock.close]
      rw [List.cons_append, List.append_assoc,
        Template.entered_of_adds (.elseBranch content branchPosition rfl),
        bodySpelled.entered _ _ (by simp only [List.length_cons]; omega),
        Assembly.extend, closed]
      simp [Branches.blocks, Assembly.entered?, Nat.add_assoc]

/-- While the segments of several nodes are added, their blocks are entered. -/
theorem Node.AllSpelled.entered
    {nodes : List Node}
    {segments : List Segment}
    (spelled : Node.AllSpelled context nodes segments)
    (assembly : Assembly)
    (rest : List Segment)
    (fits :
      base + assembly.frames.length + Node.blockDepthAll nodes ≤
        context.limits.nestingDepth) :
    Template.entered context base assembly (segments ++ rest) =
      Node.blocksAll (base + assembly.frames.length) nodes ++
        Template.entered context base (assembly.extend nodes) rest := by
  cases spelled with
  | nil => rfl
  | cons nodeSpelled othersSpelled =>
      simp only [Node.blockDepthAll] at fits
      rw [List.append_assoc, nodeSpelled.entered _ _ (by omega),
        othersSpelled.entered (assembly.push _) _
          (by simp only [Assembly.push]; omega)]
      simp [Assembly.extend, Assembly.push, Node.blocksAll]

end

/-- When a text is parsed, the blocks of its template are entered one after the other,
each at its depth. -/
theorem Template.entered_of_parseWithSegments
    {limits : Limits}
    {known : String → Bool}
    {source : String}
    {segments : List Segment}
    {template : Template}
    (parsed :
      Template.parseWithSegments limits known source = .ok (segments, template)) :
    Template.entered { source := some source, known, limits } 0 .empty segments =
      template.blocks := by
  obtain ⟨-, spelled, fits⟩ := Template.spelled_of_parseWithSegments parsed
  have entered := @Node.AllSpelled.entered _ 0 _ _ spelled .empty []
    (by simpa [Assembly.empty, Template.blockDepth] using fits)
  simpa [Assembly.empty, Template.entered, Template.blocks] using entered

end Templating
