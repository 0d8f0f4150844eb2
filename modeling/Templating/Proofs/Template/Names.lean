import Templating.Template

/-!
# The names of a template

An expression reads names: those that it refers to, and those whose properties it
takes. A loop binds its variable and the name `loop` in its body, but not in what it
goes through. The free names of a template are the names that it reads where no loop
binds them; the mentioned names are all that it reads or binds by a variable.
-/

namespace Templating
namespace Expr

mutual

/-- The names that an expression reads. -/
def names : Expr → List String
  | .reference _ name => [name]
  | .access _ object _ => [object]
  | .call _ _ arguments => namesAll arguments
  | .unary _ _ operand => operand.names
  | .binary _ _ left right => left.names ++ right.names
  | _ => []

/-- The names that several expressions read. -/
def namesAll : List Expr → List String
  | [] => []
  | expr :: rest => expr.names ++ namesAll rest

end

mutual

/-- An expression with other names in place of those that it reads. -/
def mapNames (change : String → String) : Expr → Expr
  | .reference position name => .reference position (change name)
  | .access position object property => .access position (change object) property
  | .call position function arguments =>
      .call position function (mapNamesAll change arguments)
  | .unary position operator operand =>
      .unary position operator (operand.mapNames change)
  | .binary position operator left right =>
      .binary position operator (left.mapNames change) (right.mapNames change)
  | expr => expr

/-- Several expressions with other names in place of those that they read. -/
def mapNamesAll (change : String → String) : List Expr → List Expr
  | [] => []
  | expr :: rest => expr.mapNames change :: mapNamesAll change rest

end

mutual

@[simp] theorem mapNames_id (expr : Expr) : expr.mapNames id = expr := by
  cases expr with
  | call position function arguments => simp [mapNames, mapNamesAll_id arguments]
  | unary position operator operand => simp [mapNames, mapNames_id operand]
  | binary position operator left right =>
      simp [mapNames, mapNames_id left, mapNames_id right]
  | _ => simp [mapNames]

@[simp] theorem mapNamesAll_id (exprs : List Expr) : mapNamesAll id exprs = exprs := by
  cases exprs with
  | nil => rfl
  | cons expr rest => simp [mapNamesAll, mapNames_id expr, mapNamesAll_id rest]

end

end Expr

/-- The names among several that a loop over a variable does not bind. -/
def unbound (variableName : String) (names : List String) : List String :=
  names.filter fun name => name ≠ variableName ∧ name ≠ "loop"

@[simp] theorem mem_unbound {name variableName : String} {names : List String} :
    name ∈ unbound variableName names ↔
      name ∈ names ∧ name ≠ variableName ∧ name ≠ "loop" := by
  simp [unbound]

mutual

/-- The names that a node reads where no loop in it binds them. -/
def Node.freeNames : Node → List String
  | .output expr => expr.names
  | .rawOutput expr => expr.names
  | .conditional condition body branches =>
      condition.names ++ (Node.freeNamesAll body ++ branches.freeNames)
  | .loop variableName iterable body =>
      iterable.names ++ unbound variableName (Node.freeNamesAll body)
  | _ => []

/-- The free names of several branches. -/
def Branches.freeNames : Branches → List String
  | .done => []
  | .elif condition body branches =>
      condition.names ++ (Node.freeNamesAll body ++ branches.freeNames)
  | .otherwise body => Node.freeNamesAll body

/-- The free names of several nodes. -/
def Node.freeNamesAll : List Node → List String
  | [] => []
  | node :: rest => node.freeNames ++ Node.freeNamesAll rest

end

mutual

/-- The names that a node reads, and the variables of the loops in it. -/
def Node.mentioned : Node → List String
  | .output expr => expr.names
  | .rawOutput expr => expr.names
  | .conditional condition body branches =>
      condition.names ++ (Node.mentionedAll body ++ branches.mentioned)
  | .loop variableName iterable body =>
      variableName :: (iterable.names ++ Node.mentionedAll body)
  | _ => []

/-- The names that several branches mention. -/
def Branches.mentioned : Branches → List String
  | .done => []
  | .elif condition body branches =>
      condition.names ++ (Node.mentionedAll body ++ branches.mentioned)
  | .otherwise body => Node.mentionedAll body

/-- The names that several nodes mention. -/
def Node.mentionedAll : List Node → List String
  | [] => []
  | node :: rest => node.mentioned ++ Node.mentionedAll rest

end

mutual

theorem Node.freeNames_subset (node : Node) : node.freeNames ⊆ node.mentioned := by
  cases node with
  | text content => simp [Node.freeNames]
  | output expr => simp [Node.freeNames, Node.mentioned]
  | rawOutput expr => simp [Node.freeNames, Node.mentioned]
  | conditional condition body branches =>
      intro name free
      simp only [Node.freeNames, Node.mentioned, List.mem_append] at free ⊢
      exact free.imp_right
        (Or.imp (@Node.freeNamesAll_subset body name) (@branches.freeNames_subset name))
  | loop variableName iterable body =>
      intro name free
      simp only [Node.freeNames, List.mem_append, mem_unbound] at free
      simp only [Node.mentioned, List.mem_cons, List.mem_append]
      exact .inr (free.imp_right fun inside => Node.freeNamesAll_subset body inside.1)
  | unknown kind => simp [Node.freeNames]

theorem Branches.freeNames_subset (branches : Branches) :
    branches.freeNames ⊆ branches.mentioned := by
  cases branches with
  | done => simp [Branches.freeNames]
  | elif condition body branches =>
      intro name free
      simp only [Branches.freeNames, Branches.mentioned, List.mem_append] at free ⊢
      exact free.imp_right
        (Or.imp (@Node.freeNamesAll_subset body name) (@branches.freeNames_subset name))
  | otherwise body => exact Node.freeNamesAll_subset body

/-- Free names are mentioned. -/
theorem Node.freeNamesAll_subset (nodes : List Node) :
    Node.freeNamesAll nodes ⊆ Node.mentionedAll nodes := by
  cases nodes with
  | nil => simp [Node.freeNamesAll]
  | cons node rest =>
      intro name free
      simp only [Node.freeNamesAll, Node.mentionedAll, List.mem_append] at free ⊢
      exact free.imp (@node.freeNames_subset name) (@Node.freeNamesAll_subset rest name)

end

/-- The free names of a template. -/
def Template.freeNames (template : Template) : List String :=
  Node.freeNamesAll template

end Templating
