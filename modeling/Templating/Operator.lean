import Templating.Value.Comparison

/-!
# Operators

The operators of expressions. Trees that a host builds by hand may hold operators
that no parser produces; they are kept with their symbol.
-/

namespace Templating

/-- The relations between two values. -/
inductive Relation
  | equal
  | notEqual
  | order (comparison : Comparison)
  deriving DecidableEq

/-- An operator between two operands. -/
inductive BinaryOperator
  | conjunction
  | disjunction
  | relation (kind : Relation)
  /-- An operator of no meaning. -/
  | other (symbol : String)
  deriving DecidableEq

/-- An operator in front of its operand. -/
inductive UnaryOperator
  | negation
  /-- An operator that is evaluated as a negation. -/
  | other (symbol : String)
  deriving DecidableEq

/-- The symbol of a relation. -/
def Relation.symbol : Relation → String
  | .equal => "=="
  | .notEqual => "!="
  | .order comparison => comparison.symbol

/-- The relations, each once. -/
def Relation.all : List Relation :=
  [.equal, .notEqual, .order .greater, .order .less, .order .atLeast,
    .order .atMost]

/-- The symbol of a binary operator. -/
def BinaryOperator.symbol : BinaryOperator → String
  | .conjunction => "and"
  | .disjunction => "or"
  | .relation kind => kind.symbol
  | .other text => text

/-- The binary operator with a given symbol. -/
def BinaryOperator.ofSymbol (symbol : String) : BinaryOperator :=
  if symbol = "and" then .conjunction
  else if symbol = "or" then .disjunction
  else
    match Relation.all.find? (·.symbol = symbol) with
    | some kind => .relation kind
    | none => .other symbol

/-- The symbol of a unary operator. -/
def UnaryOperator.symbol : UnaryOperator → String
  | .negation => "not"
  | .other text => text

/-- The unary operator with a given symbol. -/
def UnaryOperator.ofSymbol (symbol : String) : UnaryOperator :=
  if symbol = "not" then .negation else .other symbol

end Templating
