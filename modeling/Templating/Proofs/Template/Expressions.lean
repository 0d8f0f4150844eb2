import Mathlib.Data.List.Forall2
import Templating.Proofs.Template.Spelling

/-!
# The expressions of segments

The segments of a template hold the texts of its expressions: an output tag holds one,
and so does every tag that begins a conditional, a branch with a condition or a loop. In
the order of the segments they are the expressions of the template that is written.
-/

namespace Templating
namespace Segment

/-- The text of the expression that a segment holds. In a loop tag it stands behind the
word `in`. -/
def source? (segment : Segment) : Option String :=
  match segment.kind with
  | .output => some segment.content
  | .rawOutput => some segment.content
  | .opening .ifBlock => some segment.content
  | .opening .elifBranch => some segment.content
  | .opening .eachBlock =>
      (Tag.binding? segment.content.toList).map fun binding => String.ofList binding.2
  | _ => none

/-- The texts of the expressions of segments. -/
def sources (segments : List Segment) : List String := segments.filterMap source?

theorem sources_append (segments others : List Segment) :
    sources (segments ++ others) = sources segments ++ sources others :=
  List.filterMap_append

/-- A closing tag holds no expression. -/
theorem sources_closed
    (segments : List Segment)
    (closing : Closing)
    (content : String)
    (position : Int) :
    sources (segments ++ [⟨.closing closing, content, position⟩]) = sources segments := by
  rw [sources_append]
  exact List.append_nil _

theorem source?_of_binds
    {content : String}
    {variableName source : List Char}
    (position : Int)
    (binds : Tag.Binds content.toList variableName source) :
    source? ⟨.opening .eachBlock, content, position⟩ = some (String.ofList source) := by
  simp only [source?, (Tag.binding?_eq_some ..).2 binds, Option.map_some]

end Segment

variable {context : AssemblyContext}

/-- A text is read as an expression. -/
abbrev AssemblyContext.Reads (context : AssemblyContext) (source : String) (expr : Expr) :
    Prop :=
  Expr.parse context.limits context.known source = .ok expr

mutual

/-- The texts in the segments of a node are read as its expressions. -/
theorem Node.Spelled.reads_sources
    {node : Node}
    {segments : List Segment}
    (spelled : node.Spelled context segments) :
    List.Forall₂ context.Reads (Segment.sources segments) node.expressions := by
  cases spelled with
  | text content position => exact .nil
  | output position reads => exact .cons reads .nil
  | rawOutput position reads => exact .cons reads .nil
  | conditional position reads bodySpelled branchesSpelled =>
      refine .cons reads ?_
      rw [← Segment.sources, Segment.sources_append]
      exact List.rel_append bodySpelled.reads_sources branchesSpelled.reads_sources
  | loop position closingPosition binds reads bodySpelled =>
      rw [Segment.sources,
        List.filterMap_cons_some (Segment.source?_of_binds position binds)]
      refine .cons reads ?_
      rw [← Segment.sources, Segment.sources_closed]
      exact bodySpelled.reads_sources

/-- The texts in the segments of branches are read as their expressions. -/
theorem Branches.Spelled.reads_sources
    {branches : Branches}
    {segments : List Segment}
    (spelled : branches.Spelled context segments) :
    List.Forall₂ context.Reads (Segment.sources segments) branches.expressions := by
  cases spelled with
  | done content position => exact .nil
  | elif position reads bodySpelled branchesSpelled =>
      refine .cons reads ?_
      rw [← Segment.sources, Segment.sources_append]
      exact List.rel_append bodySpelled.reads_sources branchesSpelled.reads_sources
  | otherwise content closingContent position closingPosition bodySpelled =>
      have opened : ∀ segments : List Segment,
          Segment.sources (⟨.opening .elseBranch, content, position⟩ :: segments) =
            Segment.sources segments :=
        fun _ => rfl
      rw [opened, Segment.sources_closed]
      exact bodySpelled.reads_sources

/-- The texts in the segments of several nodes are read as their expressions. -/
theorem Node.AllSpelled.reads_sources
    {nodes : List Node}
    {segments : List Segment}
    (spelled : Node.AllSpelled context nodes segments) :
    List.Forall₂ context.Reads (Segment.sources segments)
      (Node.expressionsAll nodes) := by
  cases spelled with
  | nil => exact .nil
  | cons nodeSpelled othersSpelled =>
      rw [Segment.sources_append]
      exact List.rel_append nodeSpelled.reads_sources othersSpelled.reads_sources

end

end Templating
