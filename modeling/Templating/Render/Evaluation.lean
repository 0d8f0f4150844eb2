import Templating.Expr
import Templating.Render.Session
import Templating.Value.Comparison

/-!
# Evaluating expressions

The value of an expression in a session. Names that stand for nothing, and
properties of anything but a mapping, are null. A conjunction or disjunction
evaluates its second operand only when the first one does not decide, and always
gives a boolean. The arguments of a call are evaluated in order, inside the call.
-/

namespace Templating

/-- A relation between two values. -/
def Relation.holds (left right : Value) : Relation → Except Error Bool
  | .equal => left.equal right
  | .notEqual => (left.equal right).map not
  | .order comparison => left.compare comparison right

/-- A property of a value. -/
def Value.property (name : String) : Value → Value
  | .mapping entries => (Entries.find? entries name).getD .null
  | _ => .null

namespace Render

variable {σ : Type} (environment : Environment σ)

/-- An operator of no meaning compares its operands before it is found out. -/
def applyUnknown (symbol : String) (left right : Value) : Render σ Value := do
  let _ ← ofExcept (Operands.ofValues left right)
  throw (.unknownOperator symbol)

mutual

/-- The value of an expression. -/
def evaluate : Expr → Render σ Value
  | .string _ text => pure (.string text)
  | .number _ value => pure (.double value)
  | .boolean _ value => pure (.boolean value)
  | .null _ => pure .null
  | .reference _ name => resolve name
  | .access _ object property => do
      let value ← resolve object
      return value.property property
  | .call position function arguments => do
      charge (Budget.enterCall environment.limits)
      try
        let values ← evaluateAll arguments
        callHost environment function values position
      finally
        release Budget.exitCall
  | .unary _ _ operand => do
      let value ← evaluate operand
      return .boolean !value.truthy
  | .binary _ .conjunction left right => do
      let first ← evaluate left
      if first.truthy then
        let second ← evaluate right
        return .boolean second.truthy
      else
        return .boolean false
  | .binary _ .disjunction left right => do
      let first ← evaluate left
      if first.truthy then
        return .boolean true
      else
        let second ← evaluate right
        return .boolean second.truthy
  | .binary _ (.relation kind) left right => do
      let first ← evaluate left
      let second ← evaluate right
      let holds ← ofExcept (kind.holds first second)
      return .boolean holds
  | .binary _ (.other symbol) left right => do
      let first ← evaluate left
      let second ← evaluate right
      applyUnknown symbol first second
  | .unknown kind =>
      fail (.evaluation (.unknownExpression kind) none (some environment.source))

/-- The values of several expressions, in order. -/
def evaluateAll : List Expr → Render σ (List Value)
  | [] => pure []
  | expr :: rest => do
      let value ← evaluate expr
      let values ← evaluateAll rest
      return value :: values

end

end Render
end Templating
