import Mathlib.Algebra.GroupWithZero.Nat
import Templating.Proofs.Template.Spelling

/-!
# The constructs of a template

A template is made of text, output tags, conditionals with their branches, and loops. The
list of these constructs, at all depths and in the order of their tags, is what counting
goes by. The count of a template is that of its constructs and of its expressions; a
branch without a condition is no part of its own there. Each construct has its tags, and
these with the text are the segments that write the template.
-/

namespace Templating

/-- What a template is made of besides expressions. -/
inductive Construct
  | text
  | output
  | rawOutput
  | conditional
  /-- A branch with a condition, behind the first one. -/
  | elifBranch
  /-- A branch without a condition. -/
  | elseBranch
  | loop
  deriving DecidableEq

namespace Construct

/-- The number of parts that a construct is, apart from what it holds. -/
def parts : Construct → Nat
  | .elseBranch => 0
  | .text | .output | .rawOutput | .conditional | .elifBranch | .loop => 1

/-- The number of segments that write a construct, apart from what it holds: blocks have a
tag at each end. -/
def segments : Construct → Nat
  | .conditional | .loop => 2
  | .text | .output | .rawOutput | .elifBranch | .elseBranch => 1

/-- Constructs are weighed by how many of each kind there are. -/
theorem sum_weights (weight : Construct → Nat) (constructs : List Construct) :
    (constructs.map weight).sum =
      weight .text * constructs.count .text +
        weight .output * constructs.count .output +
        weight .rawOutput * constructs.count .rawOutput +
        weight .conditional * constructs.count .conditional +
        weight .elifBranch * constructs.count .elifBranch +
        weight .elseBranch * constructs.count .elseBranch +
        weight .loop * constructs.count .loop := by
  induction constructs with
  | nil => rfl
  | cons construct rest inductionHypothesis =>
      rw [List.map_cons, List.sum_cons, inductionHypothesis]
      cases construct <;> simp [Nat.mul_succ] <;> omega

end Construct

mutual

/-- The constructs of a node. -/
def Node.constructs : Node → List Construct
  | .text _ => [.text]
  | .output _ => [.output]
  | .rawOutput _ => [.rawOutput]
  | .conditional _ body branches =>
      .conditional :: (Node.constructsAll body ++ branches.constructs)
  | .loop _ _ body => .loop :: Node.constructsAll body
  | .unknown _ => []

/-- The constructs of several branches. -/
def Branches.constructs : Branches → List Construct
  | .done => []
  | .elif _ body branches =>
      .elifBranch :: (Node.constructsAll body ++ branches.constructs)
  | .otherwise body => .elseBranch :: Node.constructsAll body

/-- The constructs of several nodes. -/
def Node.constructsAll : List Node → List Construct
  | [] => []
  | node :: rest => node.constructs ++ Node.constructsAll rest

end

/-- The number of parts of constructs and of expressions together. -/
def partsOf (constructs : List Construct) (expressions : List Expr) : Nat :=
  (constructs.map Construct.parts).sum + (expressions.map Expr.count).sum

theorem partsOf_append
    (constructs otherConstructs : List Construct)
    (expressions otherExpressions : List Expr) :
    partsOf (constructs ++ otherConstructs) (expressions ++ otherExpressions) =
      partsOf constructs expressions + partsOf otherConstructs otherExpressions := by
  simp only [partsOf, List.map_append, List.sum_append]
  omega

theorem partsOf_cons
    (construct : Construct)
    (expr : Expr)
    (constructs : List Construct)
    (expressions : List Expr) :
    partsOf (construct :: constructs) (expr :: expressions) =
      construct.parts + expr.count + partsOf constructs expressions := by
  simp only [partsOf, List.map_cons, List.sum_cons]
  omega

mutual

/-- The parts of a node are those of its constructs and of its expressions. -/
theorem Node.count_eq_partsOf (node : Node) :
    node.count = partsOf node.constructs node.expressions := by
  cases node with
  | conditional condition body branches =>
      rw [Node.count, Node.constructs, Node.expressions, partsOf_cons, partsOf_append,
        Node.countAll_eq_partsOf body, branches.count_eq_partsOf, Construct.parts,
        Nat.add_assoc]
  | loop variableName iterable body =>
      rw [Node.count, Node.constructs, Node.expressions, partsOf_cons,
        Node.countAll_eq_partsOf body, Construct.parts]
  | text | unknown => rfl
  | output expr | rawOutput expr =>
      simp [Node.count, Node.constructs, Node.expressions, partsOf, Construct.parts]

theorem Branches.count_eq_partsOf (branches : Branches) :
    branches.count = partsOf branches.constructs branches.expressions := by
  cases branches with
  | done => rfl
  | elif condition body branches =>
      rw [Branches.count, Branches.constructs, Branches.expressions, partsOf_cons,
        partsOf_append, Node.countAll_eq_partsOf body, branches.count_eq_partsOf,
        Construct.parts, Nat.add_assoc]
  | otherwise body =>
      rw [Branches.count, Branches.constructs, Branches.expressions,
        Node.countAll_eq_partsOf body]
      simp [partsOf, Construct.parts]

theorem Node.countAll_eq_partsOf (nodes : List Node) :
    Node.countAll nodes = partsOf (Node.constructsAll nodes) (Node.expressionsAll nodes) := by
  cases nodes with
  | nil => rfl
  | cons node rest =>
      rw [Node.countAll, Node.constructsAll, Node.expressionsAll, partsOf_append,
        node.count_eq_partsOf, Node.countAll_eq_partsOf rest]

end

mutual

/-- Every block around a point of a node is one of its parts. -/
theorem Node.blockDepth_le_count (node : Node) : node.blockDepth ≤ node.count := by
  cases node with
  | conditional condition body branches =>
      have inBody := Node.blockDepthAll_le_countAll body
      have inBranches := branches.blockDepth_le_count
      simp only [Node.blockDepth, Node.count]
      omega
  | loop variableName iterable body =>
      have inBody := Node.blockDepthAll_le_countAll body
      simp only [Node.blockDepth, Node.count]
      omega
  | text | output | rawOutput | unknown => exact Nat.zero_le _

theorem Branches.blockDepth_le_count (branches : Branches) :
    branches.blockDepth ≤ branches.count := by
  cases branches with
  | done => exact Nat.le_refl 0
  | elif condition body branches =>
      have inBody := Node.blockDepthAll_le_countAll body
      have inBranches := branches.blockDepth_le_count
      simp only [Branches.blockDepth, Branches.count]
      omega
  | otherwise body => exact Node.blockDepthAll_le_countAll body

theorem Node.blockDepthAll_le_countAll (nodes : List Node) :
    Node.blockDepthAll nodes ≤ Node.countAll nodes := by
  cases nodes with
  | nil => exact Nat.le_refl 0
  | cons node rest =>
      have inNode := node.blockDepth_le_count
      have inRest := Node.blockDepthAll_le_countAll rest
      simp only [Node.blockDepthAll, Node.countAll]
      omega

end

/-- The number of segments that write constructs. -/
def segmentsOf (constructs : List Construct) : Nat :=
  (constructs.map Construct.segments).sum

theorem segmentsOf_cons (construct : Construct) (constructs : List Construct) :
    segmentsOf (construct :: constructs) =
      construct.segments + segmentsOf constructs := by
  rw [segmentsOf, List.map_cons, List.sum_cons, segmentsOf]

theorem segmentsOf_append (constructs others : List Construct) :
    segmentsOf (constructs ++ others) = segmentsOf constructs + segmentsOf others := by
  rw [segmentsOf, List.map_append, List.sum_append, segmentsOf, segmentsOf]

variable {context : AssemblyContext}

mutual

/-- A node is written by the segments of its constructs. -/
theorem Node.Spelled.length_eq
    {node : Node}
    {segments : List Segment}
    (spelled : node.Spelled context segments) :
    segments.length = segmentsOf node.constructs := by
  cases spelled with
  | text | output | rawOutput => rfl
  | conditional position reads bodySpelled branchesSpelled =>
      have inBody := bodySpelled.length_eq
      have inBranches := branchesSpelled.length_eq
      simp only [Node.constructs, segmentsOf_cons, segmentsOf_append, Construct.segments,
        List.length_cons, List.length_append]
      omega
  | loop position closingPosition binds reads bodySpelled =>
      have inBody := bodySpelled.length_eq
      simp only [Node.constructs, segmentsOf_cons, Construct.segments, List.length_cons,
        List.length_append, List.length_nil]
      omega

/-- Branches are written by the segments of their constructs and the tag that closes the
conditional. -/
theorem Branches.Spelled.length_eq
    {branches : Branches}
    {segments : List Segment}
    (spelled : branches.Spelled context segments) :
    segments.length = segmentsOf branches.constructs + 1 := by
  cases spelled with
  | done => rfl
  | elif position reads bodySpelled branchesSpelled =>
      have inBody := bodySpelled.length_eq
      have inBranches := branchesSpelled.length_eq
      simp only [Branches.constructs, segmentsOf_cons, segmentsOf_append,
        Construct.segments, List.length_cons, List.length_append]
      omega
  | otherwise content closingContent position closingPosition bodySpelled =>
      have inBody := bodySpelled.length_eq
      simp only [Branches.constructs, segmentsOf_cons, Construct.segments,
        List.length_cons, List.length_append, List.length_nil]
      omega

theorem Node.AllSpelled.length_eq
    {nodes : List Node}
    {segments : List Segment}
    (spelled : Node.AllSpelled context nodes segments) :
    segments.length = segmentsOf (Node.constructsAll nodes) := by
  cases spelled with
  | nil => rfl
  | cons nodeSpelled othersSpelled =>
      rw [List.length_append, Node.constructsAll, segmentsOf_append,
        nodeSpelled.length_eq, othersSpelled.length_eq]

end

end Templating
