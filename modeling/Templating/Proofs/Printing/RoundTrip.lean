import Templating.Engine
import Templating.Proofs.Printing.Enclosed
import Templating.Proofs.Render.Alike
import Templating.Proofs.Template.Sources

/-!
# Printing and parsing

A template whose parts can all be written is parsed back from its canonical text, up
to the offsets in its expressions, as long as the limits admit the text. Along the
tree, each node is cut off as the segments that write it, whatever follows; that a tag
follows literal text is seen from the node behind it.
-/

namespace Templating

variable {context : AssemblyContext} {position : Nat} {rest : List Char}

/-- In front of a rest, a text is cut into segments that write a node, up to
offsets. -/
def Node.Written
    (context : AssemblyContext)
    (position : Nat)
    (text rest : List Char)
    (node : Node) :
    Prop :=
  ∃ (parsed : Node) (segments : List Segment),
    parsed.unplaced = node.unplaced ∧
      parsed.Spelled context segments ∧
      Segment.Yields context.limits position text segments rest

/-- In front of a rest, a text is cut into segments that write branches, up to
offsets. -/
def Branches.Written
    (context : AssemblyContext)
    (position : Nat)
    (text rest : List Char)
    (branches : Branches) :
    Prop :=
  ∃ (parsed : Branches) (segments : List Segment),
    parsed.unplaced = branches.unplaced ∧
      parsed.Spelled context segments ∧
      Segment.Yields context.limits position text segments rest

/-- In front of a rest, a text is cut into segments that write several nodes, up to
offsets. -/
def Node.AllWritten
    (context : AssemblyContext)
    (position : Nat)
    (text rest : List Char)
    (nodes : List Node) :
    Prop :=
  ∃ parsed segments,
    Node.unplacedAll parsed = Node.unplacedAll nodes ∧
      Node.AllSpelled context parsed segments ∧
      Segment.Yields context.limits position text segments rest

section

variable {opening inner more : List Char} {nodes : List Node}

namespace Node.Written

theorem text
    {content : String}
    (literal : Text.IsLiteral content.toList)
    (opens : Tag.Opens rest) :
    Written context position content.toList rest (.text content) := by
  have yields := @Segment.Yields.text context.limits position rest _ literal opens
  rw [Segment.ofText, String.ofList_toList] at yields
  exact ⟨.text content, _, rfl, .text content position, yields⟩

theorem output
    {expr : Expr}
    (read : expr.ReadFrom context position inner rest .output expr.enclosed) :
    Written context position inner rest (.output expr) := by
  obtain ⟨yields, parsed, reads, meant⟩ := read
  exact ⟨.output parsed, _, by simp only [unplaced, meant], .output position reads,
    yields⟩

theorem rawOutput
    {expr : Expr}
    (read : expr.ReadFrom context position inner rest .rawOutput expr.enclosed) :
    Written context position inner rest (.rawOutput expr) := by
  obtain ⟨yields, parsed, reads, meant⟩ := read
  exact ⟨.rawOutput parsed, _, by simp only [unplaced, meant], .rawOutput position reads,
    yields⟩

theorem conditional
    {condition : Expr}
    {branches : Branches}
    (read :
      condition.ReadFrom context position opening (inner ++ more ++ rest)
        (.opening .ifBlock) condition.enclosed)
    (bodyWritten :
      AllWritten context (position + opening.length) inner (more ++ rest) nodes)
    (branchesWritten :
      branches.Written context (position + opening.length + inner.length) more rest) :
    Written context position (opening ++ (inner ++ more)) rest
      (.conditional condition nodes branches) := by
  obtain ⟨yields, parsed, reads, meant⟩ := read
  obtain ⟨body, bodySegments, bodyMeant, bodySpelled, bodyYields⟩ := bodyWritten
  obtain ⟨after, ending, afterMeant, afterSpelled, afterYields⟩ := branchesWritten
  refine ⟨.conditional parsed body after, _, ?_,
    .conditional position reads bodySpelled afterSpelled,
    yields.append (bodyYields.append afterYields)⟩
  simp only [unplaced, meant, bodyMeant, afterMeant]

theorem loop
    {variableName : String}
    {iterable : Expr}
    {content closingContent : String}
    {closingPosition : Int}
    (yields :
      Segment.Yields context.limits position opening
        [⟨.opening .eachBlock, content, position⟩] (inner ++ more ++ rest))
    (reads :
      ∃ parsed,
        Expr.parse context.limits context.known (String.ofList iterable.enclosed) =
            .ok parsed ∧
          parsed.unplaced = iterable.unplaced)
    (binds : Tag.Binds content.toList variableName.toList iterable.enclosed)
    (bodyWritten :
      AllWritten context (position + opening.length) inner (more ++ rest) nodes)
    (closes :
      Segment.Yields context.limits (position + opening.length + inner.length) more
        [⟨.closing .endEach, closingContent, closingPosition⟩] rest) :
    Written context position (opening ++ (inner ++ more)) rest
      (.loop variableName iterable nodes) := by
  obtain ⟨parsed, reads, meant⟩ := reads
  obtain ⟨body, bodySegments, bodyMeant, bodySpelled, bodyYields⟩ := bodyWritten
  refine ⟨.loop (String.ofList variableName.toList) parsed body, _, ?_,
    .loop position closingPosition binds reads bodySpelled,
    yields.append (bodyYields.append closes)⟩
  simp only [unplaced, meant, bodyMeant, String.ofList_toList]

end Node.Written

namespace Branches.Written

theorem done
    {content : String}
    {closingPosition : Int}
    (closes :
      Segment.Yields context.limits position inner
        [⟨.closing .endIf, content, closingPosition⟩] rest) :
    Written context position inner rest .done :=
  ⟨.done, _, rfl, .done content closingPosition, closes⟩

theorem elif
    {condition : Expr}
    {branches : Branches}
    (read :
      condition.ReadFrom context position opening (inner ++ more ++ rest)
        (.opening .elifBranch) condition.enclosed)
    (bodyWritten :
      Node.AllWritten context (position + opening.length) inner (more ++ rest) nodes)
    (branchesWritten :
      branches.Written context (position + opening.length + inner.length) more rest) :
    Written context position (opening ++ (inner ++ more)) rest
      (.elif condition nodes branches) := by
  obtain ⟨yields, parsed, reads, meant⟩ := read
  obtain ⟨body, bodySegments, bodyMeant, bodySpelled, bodyYields⟩ := bodyWritten
  obtain ⟨after, ending, afterMeant, afterSpelled, afterYields⟩ := branchesWritten
  refine ⟨.elif parsed body after, _, ?_,
    .elif position reads bodySpelled afterSpelled,
    yields.append (bodyYields.append afterYields)⟩
  simp only [unplaced, meant, bodyMeant, afterMeant]

theorem otherwise
    {content closingContent : String}
    {closingPosition : Int}
    (yields :
      Segment.Yields context.limits position opening
        [⟨.opening .elseBranch, content, position⟩] (inner ++ more ++ rest))
    (bodyWritten :
      Node.AllWritten context (position + opening.length) inner (more ++ rest) nodes)
    (closes :
      Segment.Yields context.limits (position + opening.length + inner.length) more
        [⟨.closing .endIf, closingContent, closingPosition⟩] rest) :
    Written context position (opening ++ (inner ++ more)) rest (.otherwise nodes) := by
  obtain ⟨body, bodySegments, bodyMeant, bodySpelled, bodyYields⟩ := bodyWritten
  refine ⟨.otherwise body, _, ?_,
    .otherwise content closingContent position closingPosition bodySpelled,
    yields.append (bodyYields.append closes)⟩
  simp only [unplaced, bodyMeant]

end Branches.Written

theorem Node.AllWritten.cons
    {node : Node}
    (written : node.Written context position inner (more ++ rest))
    (othersWritten : AllWritten context (position + inner.length) more rest nodes) :
    AllWritten context position (inner ++ more) rest (node :: nodes) := by
  obtain ⟨parsed, segments, meant, spelled, yields⟩ := written
  obtain ⟨others, otherSegments, othersMeant, othersSpelled, othersYields⟩ :=
    othersWritten
  refine ⟨parsed :: others, _, ?_, .cons spelled othersSpelled,
    yields.append othersYields⟩
  simp only [unplacedAll, meant, othersMeant]

end

/-- A tag begins with its braces. -/
theorem Piece.opens_tag (raw : Bool) (body rest : List Char) :
    Tag.Opens ((Piece.tag raw body).printed ++ rest) :=
  .inr ⟨_, rfl⟩

theorem Branches.opens (branches : Branches) (rest : List Char) :
    Tag.Opens (Piece.printedAll branches.pieces ++ rest) := by
  cases branches with
  | done => exact .inr ⟨_, rfl⟩
  | elif condition body branches => exact .inr ⟨_, rfl⟩
  | otherwise body => exact .inr ⟨_, rfl⟩

/-- Nodes other than literal text begin with a tag. -/
theorem Node.Writable.opens
    {known : String → Bool}
    {node : Node}
    (writable : node.Writable known)
    (noText : ¬ node.IsText)
    (rest : List Char) :
    Tag.Opens (Piece.printedAll node.pieces ++ rest) := by
  cases node with
  | text content => exact absurd trivial noText
  | output expr => exact .inr ⟨_, rfl⟩
  | rawOutput expr => exact .inr ⟨_, rfl⟩
  | conditional condition body branches => exact .inr ⟨_, rfl⟩
  | loop variableName iterable body => exact .inr ⟨_, rfl⟩
  | unknown kind => exact writable.elim

/-- Behind literal text a tag begins, or nothing is left. -/
theorem Node.WritableAll.opens
    {known : String → Bool}
    {node : Node}
    {nodes : List Node}
    (writable : Node.WritableAll known (node :: nodes))
    (isText : node.IsText)
    (opens : Tag.Opens rest) :
    Tag.Opens (Piece.printedAll (Node.piecesAll nodes) ++ rest) := by
  obtain ⟨-, apart, othersWritable⟩ := writable
  cases nodes with
  | nil => exact opens
  | cons next others =>
      have noText : ¬ next.IsText := fun nextText => apart next rfl ⟨isText, nextText⟩
      rw [Node.piecesAll, Piece.printedAll_append, List.append_assoc]
      exact othersWritable.1.opens noText _

mutual

/-- The canonical text of a node writes it, whatever follows; literal text must be
followed by a tag or by nothing. -/
theorem Node.Writable.written
    {node : Node}
    (writable : node.Writable context.known)
    (fits : ∀ piece ∈ node.pieces, piece.Fits context.limits)
    (shallow :
      ∀ expr ∈ node.expressions,
        expr.printedNesting + 1 ≤ context.limits.expressionDepth)
    (position : Nat)
    {rest : List Char}
    (opens : node.IsText → Tag.Opens rest) :
    node.Written context position (Piece.printedAll node.pieces) rest := by
  cases node with
  | text content =>
      rw [Node.pieces, Piece.printedAll_singleton]
      exact .text writable (opens trivial)
  | output expr =>
      simp only [Node.pieces, Node.expressions, List.forall_mem_singleton]
        at fits shallow
      rw [Node.pieces, Piece.printedAll_singleton]
      exact .output (Expr.Writable.readFrom_output writable fits shallow)
  | rawOutput expr =>
      simp only [Node.pieces, Node.expressions, List.forall_mem_singleton]
        at fits shallow
      rw [Node.pieces, Piece.printedAll_singleton]
      exact .rawOutput (Expr.Writable.readFrom_output writable fits shallow)
  | conditional condition body branches =>
      obtain ⟨conditionWritable, bodyWritable, branchesWritable⟩ := writable
      simp only [Node.pieces, Node.expressions, List.forall_mem_cons,
        List.forall_mem_append] at fits shallow
      obtain ⟨tagFits, bodyFits, branchesFits⟩ := fits
      obtain ⟨tagShallow, bodyShallow, branchesShallow⟩ := shallow
      rw [Node.pieces, Piece.printedAll_cons, Piece.printedAll_append]
      exact .conditional
        (conditionWritable.readFrom_branch (.head _) tagFits tagShallow)
        (bodyWritable.written bodyFits bodyShallow _ (branches.opens rest))
        (branchesWritable.written branchesFits branchesShallow _ rest)
  | loop variableName iterable body =>
      obtain ⟨⟨nonempty, isWord⟩, iterableWritable, bodyWritable⟩ := writable
      simp only [Node.pieces, Node.expressions, List.forall_mem_cons,
        List.forall_mem_append] at fits shallow
      obtain ⟨tagFits, bodyFits, closingFits, -⟩ := fits
      obtain ⟨tagShallow, bodyShallow⟩ := shallow
      rw [Node.pieces, Piece.printedAll_cons, Piece.printedAll_append,
        Piece.printedAll_singleton]
      obtain ⟨yields, reads⟩ :=
        iterableWritable.readFrom_loop nonempty isWord tagFits tagShallow
      exact .loop yields reads (iterable.binds_bound nonempty isWord)
        (bodyWritable.written bodyFits bodyShallow _ (Piece.opens_tag false _ rest))
        (.keyword (.tail _ (.tail _ (.head _))) closingFits)
  | unknown kind => exact writable.elim

/-- The canonical text of branches writes them. -/
theorem Branches.Writable.written
    {branches : Branches}
    (writable : branches.Writable context.known)
    (fits : ∀ piece ∈ branches.pieces, piece.Fits context.limits)
    (shallow :
      ∀ expr ∈ branches.expressions,
        expr.printedNesting + 1 ≤ context.limits.expressionDepth)
    (position : Nat)
    (rest : List Char) :
    branches.Written context position (Piece.printedAll branches.pieces) rest := by
  cases branches with
  | done =>
      simp only [Branches.pieces, List.forall_mem_singleton] at fits
      rw [Branches.pieces, Piece.printedAll_singleton]
      exact .done (.keyword (.tail _ (.head _)) fits)
  | elif condition body branches =>
      obtain ⟨conditionWritable, bodyWritable, branchesWritable⟩ := writable
      simp only [Branches.pieces, Branches.expressions, List.forall_mem_cons,
        List.forall_mem_append] at fits shallow
      obtain ⟨tagFits, bodyFits, branchesFits⟩ := fits
      obtain ⟨tagShallow, bodyShallow, branchesShallow⟩ := shallow
      rw [Branches.pieces, Piece.printedAll_cons, Piece.printedAll_append]
      exact .elif
        (conditionWritable.readFrom_branch (.tail _ (.head _)) tagFits tagShallow)
        (bodyWritable.written bodyFits bodyShallow _ (branches.opens rest))
        (branchesWritable.written branchesFits branchesShallow _ rest)
  | otherwise body =>
      simp only [Branches.pieces, List.forall_mem_cons, List.forall_mem_append] at fits
      obtain ⟨tagFits, bodyFits, closingFits, -⟩ := fits
      rw [Branches.pieces, Piece.printedAll_cons, Piece.printedAll_append,
        Piece.printedAll_singleton]
      exact .otherwise (.keyword (.head _) tagFits)
        (Node.WritableAll.written writable bodyFits shallow _
          (Piece.opens_tag false _ rest))
        (.keyword (.tail _ (.head _)) closingFits)

/-- The canonical text of several nodes writes them, in front of a tag or of
nothing. -/
theorem Node.WritableAll.written
    {nodes : List Node}
    (writable : Node.WritableAll context.known nodes)
    (fits : ∀ piece ∈ Node.piecesAll nodes, piece.Fits context.limits)
    (shallow :
      ∀ expr ∈ Node.expressionsAll nodes,
        expr.printedNesting + 1 ≤ context.limits.expressionDepth)
    (position : Nat)
    {rest : List Char}
    (opens : Tag.Opens rest) :
    Node.AllWritten context position (Piece.printedAll (Node.piecesAll nodes)) rest
      nodes := by
  cases nodes with
  | nil => exact ⟨[], [], rfl, .nil, .nil⟩
  | cons node others =>
      simp only [Node.piecesAll, Node.expressionsAll, List.forall_mem_append]
        at fits shallow
      rw [Node.piecesAll, Piece.printedAll_append]
      exact .cons
        (writable.1.written fits.1 shallow.1 position fun isText =>
          writable.opens isText opens)
        (writable.2.2.written fits.2 shallow.2 _ opens)

end

namespace Template

/-- A template that can be written is parsed from its canonical text, up to the
offsets in its expressions. -/
theorem parseWithSegments_printed
    {limits : Limits}
    {known : String → Bool}
    {template : Template}
    (writable : template.Writable known)
    (fits : template.Fits limits) :
    ∃ segments parsed,
      parseWithSegments limits known template.printed = .ok (segments, parsed) ∧
        parsed.unplaced = template.unplaced := by
  obtain ⟨parsed, segments, meant, spelled, yields⟩ :=
    @Node.WritableAll.written ⟨some template.printed, known, limits⟩ template writable
      fits.tags fits.expressions 0 [] (.inl rfl)
  have cuts := yields [] (.done _)
  rw [List.append_nil, List.append_nil] at cuts
  have lexed : Segment.ofTemplate limits template.printed = .ok segments := by
    rw [Segment.ofTemplate, printed, String.toList_ofList]
    exact Segment.lexFrom_of_cuts cuts _
  have sameDepth := congrArg Node.blockDepthAll meant
  rw [Node.blockDepthAll_unplaced, Node.blockDepthAll_unplaced] at sameDepth
  have assembled := ofSegments_of_allSpelled spelled (sameDepth.trans_le fits.blocks)
  exact ⟨segments, parsed,
    (bind_eq_ok ..).2 ⟨_, lexed, (bind_eq_ok ..).2 ⟨_, assembled, rfl⟩⟩, meant⟩

end Template

namespace Engine

variable {σ : Type}

/-- Parsing is a left inverse of printing: the engine accepts the canonical text of
every template that can be written within its limits, and finds the same template in
it, up to the offsets in its expressions. -/
theorem parse_printed
    (engine : Engine σ)
    (template : Template)
    (writable : template.Writable engine.registry.has)
    (fits : template.Fits engine.limits) :
    ∃ parsed event,
      engine.parse template.printed = .ok (parsed, event) ∧
        parsed.unplaced = template.unplaced := by
  obtain ⟨segments, parsed, read, meant⟩ :=
    Template.parseWithSegments_printed writable fits
  exact ⟨parsed, _, (bind_eq_ok ..).2 ⟨_, read, rfl⟩, meant⟩

/-- Names that spell keywords, closing braces in a string and a branch in which nothing
stands are found again. -/
theorem parse_printed_tricky :
    Template.tricky.Writable (create .identity .standard).registry.has ∧
      Template.tricky.Fits (create .identity .standard).limits ∧
      ∃ parsed event,
        (create .identity .standard).parse Template.tricky.printed =
            .ok (parsed, event) ∧
          parsed.unplaced = Template.tricky := by
  have writable :
      Template.tricky.Writable (create .identity .standard).registry.has := by
    have condition :
        (Expr.binary 0 .conjunction (.call 0 "id" [.string 0 "\x7d\x7d\x22"])
          (.unary 0 .negation (.access 0 "if" "else"))).Writable
            (create .identity .standard).registry.has := by
      exact ⟨by simp, ⟨by decide, by decide, trivial, trivial⟩, rfl, by decide,
        by decide⟩
    have output : isFunctionName "endif" = true := by decide
    have iterable : isFunctionName "each" = true := by decide
    refine ⟨⟨by decide, by decide, by decide⟩, by simp [Node.IsText],
      ⟨condition, ⟨output, by simp, trivial⟩, trivial⟩, by simp [Node.IsText], ?_⟩
    refine ⟨⟨⟨by decide, List.all_eq_true.1 (by decide)⟩, iterable, ?_⟩, by simp,
      trivial⟩
    exact ⟨⟨by decide, by decide, by decide⟩, by simp [Node.IsText], trivial, by simp,
      trivial⟩
  have fits : Template.tricky.Fits (create .identity .standard).limits :=
    ⟨by decide, by decide, by decide⟩
  exact ⟨writable, fits, parse_printed _ _ writable fits⟩

end Engine
end Templating
