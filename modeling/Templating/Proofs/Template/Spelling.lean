import Templating.Proofs.Template.Binding
import Templating.Template.Assembly

/-!
# Spellings of a template

The segments that write a template, apart from any way to read them: a segment for
text and for an output tag, and for a block its opening tag, its body, and what
ends it. A conditional is ended by further branches, each with its tag, and the
closing tag. What a tag without an expression holds, and where a segment stands,
does not matter.
-/

namespace Templating

mutual

/-- Segments write a node. -/
inductive Node.Spelled (context : AssemblyContext) : Node → List Segment → Prop
  | text (content : String) (position : Int) :
      Node.Spelled context (.text content) [⟨.text, content, position⟩]
  | output
      {content : String}
      {expr : Expr}
      (position : Int)
      (reads : Expr.parse context.limits context.known content = .ok expr) :
      Node.Spelled context (.output expr) [⟨.output, content, position⟩]
  | rawOutput
      {content : String}
      {expr : Expr}
      (position : Int)
      (reads : Expr.parse context.limits context.known content = .ok expr) :
      Node.Spelled context (.rawOutput expr) [⟨.rawOutput, content, position⟩]
  | conditional
      {content : String}
      {condition : Expr}
      {body : List Node}
      {branches : Branches}
      {bodySegments ending : List Segment}
      (position : Int)
      (reads : Expr.parse context.limits context.known content = .ok condition)
      (bodySpelled : Node.AllSpelled context body bodySegments)
      (branchesSpelled : Branches.Spelled context branches ending) :
      Node.Spelled context (.conditional condition body branches)
        (⟨.opening .ifBlock, content, position⟩ :: (bodySegments ++ ending))
  | loop
      {content closingContent : String}
      {variableName source : List Char}
      {iterable : Expr}
      {body : List Node}
      {bodySegments : List Segment}
      (position closingPosition : Int)
      (binds : Tag.Binds content.toList variableName source)
      (reads :
        Expr.parse context.limits context.known (String.ofList source) =
          .ok iterable)
      (bodySpelled : Node.AllSpelled context body bodySegments) :
      Node.Spelled context (.loop (String.ofList variableName) iterable body)
        (⟨.opening .eachBlock, content, position⟩ ::
          (bodySegments ++
            [⟨.closing .endEach, closingContent, closingPosition⟩]))

/-- Segments write the branches of a conditional after its first one and close
it. -/
inductive Branches.Spelled (context : AssemblyContext) :
    Branches → List Segment → Prop
  | done (content : String) (position : Int) :
      Branches.Spelled context .done [⟨.closing .endIf, content, position⟩]
  | elif
      {content : String}
      {condition : Expr}
      {body : List Node}
      {branches : Branches}
      {bodySegments ending : List Segment}
      (position : Int)
      (reads : Expr.parse context.limits context.known content = .ok condition)
      (bodySpelled : Node.AllSpelled context body bodySegments)
      (branchesSpelled : Branches.Spelled context branches ending) :
      Branches.Spelled context (.elif condition body branches)
        (⟨.opening .elifBranch, content, position⟩ :: (bodySegments ++ ending))
  | otherwise
      {body : List Node}
      {bodySegments : List Segment}
      (content closingContent : String)
      (position closingPosition : Int)
      (bodySpelled : Node.AllSpelled context body bodySegments) :
      Branches.Spelled context (.otherwise body)
        (⟨.opening .elseBranch, content, position⟩ ::
          (bodySegments ++ [⟨.closing .endIf, closingContent, closingPosition⟩]))

/-- Segments write several nodes, one after the other. -/
inductive Node.AllSpelled (context : AssemblyContext) :
    List Node → List Segment → Prop
  | nil : Node.AllSpelled context [] []
  | cons
      {node : Node}
      {nodes : List Node}
      {segments others : List Segment}
      (spelled : Node.Spelled context node segments)
      (othersSpelled : Node.AllSpelled context nodes others) :
      Node.AllSpelled context (node :: nodes) (segments ++ others)

end

end Templating
