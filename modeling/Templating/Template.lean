import Templating.Expr

/-!
# Templates

A parsed template is a list of nodes: literal text, tags that output the value
of an expression, conditionals and loops. A conditional has a first branch and
the branches after it; at most one of them, the last, has no condition. A host
may build templates by hand, and these may hold nodes that no parser produces.
-/

namespace Templating

mutual

/-- A piece of a template. -/
inductive Node
  | text (content : String)
  /-- A value, written with its markup characters escaped. -/
  | output (expr : Expr)
  /-- A value, written as it is. -/
  | rawOutput (expr : Expr)
  | conditional (condition : Expr) (body : List Node) (branches : Branches)
  | loop (variableName : String) (iterable : Expr) (body : List Node)
  /-- A node of a kind that has no meaning. -/
  | unknown (kind : String)

/-- The branches of a conditional after its first one. -/
inductive Branches
  | done
  | elif (condition : Expr) (body : List Node) (branches : Branches)
  /-- The branch that is taken when no condition holds. -/
  | otherwise (body : List Node)

end

/-- A parsed template. -/
abbrev Template := List Node

instance : Inhabited Node := ⟨.text ""⟩

mutual

/-- The number of parts of a node, the parts of its expressions included. -/
def Node.count : Node → Nat
  | .text _ => 1
  | .output expr => 1 + expr.count
  | .rawOutput expr => 1 + expr.count
  | .conditional condition body branches =>
      1 + condition.count + Node.countAll body + branches.count
  | .loop _ iterable body => 1 + iterable.count + Node.countAll body
  | .unknown _ => 0

/-- The number of parts of several branches. A branch with a condition is a part
of its own. -/
def Branches.count : Branches → Nat
  | .done => 0
  | .elif condition body branches =>
      1 + condition.count + Node.countAll body + branches.count
  | .otherwise body => Node.countAll body

/-- The number of parts of several nodes. -/
def Node.countAll : List Node → Nat
  | [] => 0
  | node :: rest => node.count + Node.countAll rest

end

mutual

/-- The number of blocks around the innermost block of a node, itself
included. -/
def Node.blockDepth : Node → Nat
  | .conditional _ body branches =>
      1 + max (Node.blockDepthAll body) branches.blockDepth
  | .loop _ _ body => 1 + Node.blockDepthAll body
  | _ => 0

/-- The greatest block depth in several branches. -/
def Branches.blockDepth : Branches → Nat
  | .done => 0
  | .elif _ body branches => max (Node.blockDepthAll body) branches.blockDepth
  | .otherwise body => Node.blockDepthAll body

/-- The greatest block depth in several nodes. -/
def Node.blockDepthAll : List Node → Nat
  | [] => 0
  | node :: rest => max node.blockDepth (Node.blockDepthAll rest)

end

mutual

/-- The expressions of a node in the order of their tags. -/
def Node.expressions : Node → List Expr
  | .output expr => [expr]
  | .rawOutput expr => [expr]
  | .conditional condition body branches =>
      condition :: (Node.expressionsAll body ++ branches.expressions)
  | .loop _ iterable body => iterable :: Node.expressionsAll body
  | _ => []

/-- The expressions of several branches. -/
def Branches.expressions : Branches → List Expr
  | .done => []
  | .elif condition body branches =>
      condition :: (Node.expressionsAll body ++ branches.expressions)
  | .otherwise body => Node.expressionsAll body

/-- The expressions of several nodes. -/
def Node.expressionsAll : List Node → List Expr
  | [] => []
  | node :: rest => node.expressions ++ Node.expressionsAll rest

end

namespace Template

/-- The number of parts of a template. -/
def count (template : Template) : Nat := Node.countAll template

/-- The greatest nesting of blocks in a template. -/
def blockDepth (template : Template) : Nat := Node.blockDepthAll template

/-- The expressions of a template in the order of their tags. -/
def expressions (template : Template) : List Expr :=
  Node.expressionsAll template

/-- The greatest depth of the expressions of a template. -/
def expressionDepth (template : Template) : Nat :=
  Expr.depthAll template.expressions

end Template
end Templating
