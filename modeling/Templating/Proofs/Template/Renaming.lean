import Templating.Proofs.Template.Names

/-!
# Renaming the variable of a loop

A name is renamed in a node wherever the node reads it, but not in the body of a loop
over that name, where it stands for something else. A hole in a template is described by
what is around it: the nodes before and after it, and, further out, the block that it is
in. So a template with a loop somewhere in it is a hole that is filled with the loop.
-/

namespace Templating

/-- One name in place of another one. -/
def renamed (old new name : String) : String := if name = old then new else name

theorem renamed_of_ne
    {old name : String}
    (other : name ≠ old)
    (new : String) :
    renamed old new name = name :=
  if_neg other

/-- A name that has no part in the change is the change of itself only. -/
theorem renamed_eq_iff
    {old new other : String}
    (notOld : other ≠ old)
    (notNew : other ≠ new)
    (name : String) :
    renamed old new name = other ↔ name = other := by
  unfold renamed
  split
  · next same =>
      rw [same]
      exact iff_of_false notNew.symm notOld.symm
  · rfl

/-- Among other names than the new one, only the old one becomes the new one. -/
theorem renamed_eq_new
    {new name : String}
    (fresh : name ≠ new)
    (old : String) :
    renamed old new name = new ↔ name = old := by
  unfold renamed
  split
  · next same => exact iff_of_true rfl same
  · next other => exact iff_of_false fresh other

mutual

/-- A node where one name is read in place of another one. -/
def Node.rename (old new : String) : Node → Node
  | .output expr => .output (expr.mapNames (renamed old new))
  | .rawOutput expr => .rawOutput (expr.mapNames (renamed old new))
  | .conditional condition body branches =>
      .conditional (condition.mapNames (renamed old new)) (Node.renameAll old new body)
        (branches.rename old new)
  | .loop variableName iterable body =>
      .loop variableName (iterable.mapNames (renamed old new))
        (if variableName = old then body else Node.renameAll old new body)
  | node => node

/-- Branches where one name is read in place of another one. -/
def Branches.rename (old new : String) : Branches → Branches
  | .done => .done
  | .elif condition body branches =>
      .elif (condition.mapNames (renamed old new)) (Node.renameAll old new body)
        (branches.rename old new)
  | .otherwise body => .otherwise (Node.renameAll old new body)

/-- Nodes where one name is read in place of another one. -/
def Node.renameAll (old new : String) : List Node → List Node
  | [] => []
  | node :: rest => node.rename old new :: Node.renameAll old new rest

end

mutual

/-- A template with a hole for a node. -/
inductive Template.Hole
  /-- The hole is between other nodes. -/
  | between (before after : List Node)
  /-- The hole is in a block that stands between other nodes. -/
  | inside (before : List Node) (block : Block.Hole) (after : List Node)

/-- A block with a hole for a node. -/
inductive Block.Hole
  | conditional (condition : Expr) (body : Template.Hole) (branches : Branches)
  | branch (condition : Expr) (body : List Node) (branches : Branches.Hole)
  | loop (variableName : String) (iterable : Expr) (body : Template.Hole)

/-- The branches of a conditional with a hole for a node. -/
inductive Branches.Hole
  | elif (condition : Expr) (body : Template.Hole) (branches : Branches)
  | further (condition : Expr) (body : List Node) (branches : Branches.Hole)
  | otherwise (body : Template.Hole)

end

mutual

/-- The template with a node in the hole. -/
def Template.Hole.fill (node : Node) : Template.Hole → Template
  | .between before after => before ++ node :: after
  | .inside before block after => before ++ block.fill node :: after

/-- The block with a node in the hole. -/
def Block.Hole.fill (node : Node) : Block.Hole → Node
  | .conditional condition body branches =>
      .conditional condition (body.fill node) branches
  | .branch condition body branches => .conditional condition body (branches.fill node)
  | .loop variableName iterable body => .loop variableName iterable (body.fill node)

/-- The branches with a node in the hole. -/
def Branches.Hole.fill (node : Node) : Branches.Hole → Branches
  | .elif condition body branches => .elif condition (body.fill node) branches
  | .further condition body branches => .elif condition body (branches.fill node)
  | .otherwise body => .otherwise (body.fill node)

end

end Templating
