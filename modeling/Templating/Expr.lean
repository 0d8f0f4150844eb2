import Templating.Number.Double
import Templating.Operator

/-!
# Expressions

The text of a tag is an expression: a literal, a name, a property of a name, a
call of a host function, or an operator with its operands. Every part knows the
offset where it was written. A host may build trees by hand, and these may hold
parts of a kind that no parser produces.
-/

namespace Templating

/-- An expression of the template language. -/
inductive Expr
  | string (position : Int) (text : String)
  | number (position : Int) (value : Double)
  | boolean (position : Int) (value : Bool)
  | null (position : Int)
  /-- What a name stands for. -/
  | reference (position : Int) (name : String)
  /-- A property of what a name stands for. -/
  | access (position : Int) (object property : String)
  | call (position : Int) (function : String) (arguments : List Expr)
  | unary (position : Int) (operator : UnaryOperator) (operand : Expr)
  | binary (position : Int) (operator : BinaryOperator) (left right : Expr)
  /-- A part of a kind that has no meaning. -/
  | unknown (kind : String)

namespace Expr

instance : Inhabited Expr := ⟨.null 0⟩

mutual

/-- The number of parts of an expression. A property and the name before its
point are two parts. -/
def count : Expr → Nat
  | .access _ _ _ => 2
  | .call _ _ arguments => 1 + countAll arguments
  | .unary _ _ operand => 1 + operand.count
  | .binary _ _ left right => 1 + left.count + right.count
  | _ => 1

/-- The number of parts of several expressions. -/
def countAll : List Expr → Nat
  | [] => 0
  | expr :: rest => expr.count + countAll rest

end

mutual

/-- The number of parts on the longest way down an expression. -/
def depth : Expr → Nat
  | .access _ _ _ => 2
  | .call _ _ arguments => 1 + depthAll arguments
  | .unary _ _ operand => 1 + operand.depth
  | .binary _ _ left right => 1 + max left.depth right.depth
  | _ => 1

/-- The greatest depth among several expressions. -/
def depthAll : List Expr → Nat
  | [] => 0
  | expr :: rest => max expr.depth (depthAll rest)

end

@[simp] theorem countAll_nil : countAll [] = 0 := rfl

@[simp] theorem countAll_cons (expr : Expr) (rest : List Expr) :
    countAll (expr :: rest) = expr.count + countAll rest := rfl

@[simp] theorem depthAll_nil : depthAll [] = 0 := rfl

@[simp] theorem depthAll_cons (expr : Expr) (rest : List Expr) :
    depthAll (expr :: rest) = max expr.depth (depthAll rest) := rfl

end Expr
end Templating
