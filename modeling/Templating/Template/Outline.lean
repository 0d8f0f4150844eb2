import Templating.Expr.Outline
import Templating.Template
import Templating.Text.Quoted

/-!
# Outlines of templates

The outline of a template shows its nodes as the outline of an expression shows
its parts. Literal text is quoted.
-/

namespace Templating

mutual

/-- The lines of the outline of a node. -/
def Node.outlineLines (indent : Nat) (node : Node) : List String :=
  let line (text : String) : String := outlineIndentation indent ++ text
  match node with
  | .text content => [line ("Text: " ++ Text.quoted content)]
  | .output expr => line "Output:" :: expr.outlineLines (indent + 1)
  | .rawOutput expr => line "RawOutput:" :: expr.outlineLines (indent + 1)
  | .conditional condition body branches =>
      line "If:" :: line "  condition:" ::
        (condition.outlineLines (indent + 2) ++
          line "  body:" ::
            (Node.outlineLinesAll (indent + 2) body ++
              branches.outlineLines indent))
  | .loop variableName iterable body =>
      line ("Each: " ++ variableName) ::
        (iterable.outlineLines (indent + 1) ++
          Node.outlineLinesAll (indent + 1) body)
  | .unknown kind => [line ("Unknown: <" ++ kind ++ ">")]

/-- The lines of the outline of the branches of a conditional. -/
def Branches.outlineLines (indent : Nat) (branches : Branches) : List String :=
  let line (text : String) : String := outlineIndentation indent ++ text
  match branches with
  | .done => []
  | .elif condition body rest =>
      line "  elif:" ::
        (condition.outlineLines (indent + 2) ++
          (Node.outlineLinesAll (indent + 2) body ++ rest.outlineLines indent))
  | .otherwise body => line "  else:" :: Node.outlineLinesAll (indent + 2) body

/-- The lines of the outlines of several nodes. -/
def Node.outlineLinesAll (indent : Nat) (nodes : List Node) : List String :=
  match nodes with
  | [] => []
  | node :: rest =>
      node.outlineLines indent ++ Node.outlineLinesAll indent rest

end

/-- The outline of a node. -/
def Node.outline (indent : Nat) (node : Node) : String :=
  String.intercalate "\n" (node.outlineLines indent)

/-- The outline of a template. -/
def Template.outline (indent : Nat) (template : Template) : String :=
  String.intercalate "\n"
    ((outlineIndentation indent ++ "Template:") ::
      Node.outlineLinesAll (indent + 1) template)

end Templating
