import Templating.Expr

/-!
# The calls of an expression

The calls that stand in an expression, in the order in which they are written. A call
stands in front of those in its arguments.
-/

namespace Templating

/-- A call that is written in an expression. -/
structure CallSite where
  position : Int
  function : String
  deriving DecidableEq

namespace Expr

mutual

/-- The calls of an expression. -/
def calls : Expr → List CallSite
  | .call position function arguments => ⟨position, function⟩ :: callsAll arguments
  | .unary _ _ operand => operand.calls
  | .binary _ _ left right => left.calls ++ right.calls
  | _ => []

/-- The calls of several expressions. -/
def callsAll : List Expr → List CallSite
  | [] => []
  | expr :: rest => expr.calls ++ callsAll rest

end

end Expr
end Templating
