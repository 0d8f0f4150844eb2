import Templating.Value.Display

/-!
# Comparing values

Two values that are both numbers are ordered as numbers, exactly. All other
pairs are ordered by the texts that they display, character by character.
-/

namespace Templating

/-- The four ways to compare by order. -/
inductive Comparison
  | less
  | atMost
  | greater
  | atLeast
  deriving DecidableEq

namespace Comparison

/-- The sign of a comparison. -/
def symbol : Comparison → String
  | .less => "<"
  | .atMost => "<="
  | .greater => ">"
  | .atLeast => ">="

/-- The comparisons, each once. -/
def all : List Comparison := [.less, .atMost, .greater, .atLeast]

/-- The comparison with a given sign. -/
def ofSymbol? (symbol : String) : Option Comparison :=
  all.find? fun comparison => comparison.symbol = symbol

/-- Compare by a strict and by a weak order. -/
def holds {α : Type}
    (comparison : Comparison)
    (isLess isAtMost : α → α → Bool)
    (left right : α) :
    Bool :=
  match comparison with
  | .less => isLess left right
  | .atMost => isAtMost left right
  | .greater => isLess right left
  | .atLeast => isAtMost right left

end Comparison

/-- How evaluating an expression or rendering a template fails. -/
inductive Failure
  | error (error : Error)
  /-- An operator of no meaning was evaluated. -/
  | unknownOperator (symbol : String)
  deriving DecidableEq

/-- What two values are compared as. -/
inductive Operands
  | numbers (left right : Number)
  | texts (left right : String)

namespace Operands

/-- Numbers if both values are numbers, and otherwise the texts displayed. -/
def ofValues (left right : Value) : Except Error Operands :=
  match left.number?, right.number? with
  | some first, some second => .ok (.numbers first second)
  | _, _ => do
      let first ← left.display
      let second ← right.display
      return .texts first second

/-- Compare two operands. Texts are ordered by their code points. -/
def compare (comparison : Comparison) : Operands → Bool
  | .numbers left right =>
      comparison.holds Number.isLess Number.isAtMost left right
  | .texts left right =>
      comparison.holds (fun first second => first < second)
        (fun first second => !decide (second < first)) left right

end Operands

/-- Compare two values by order. -/
def Value.compare (comparison : Comparison) (left right : Value) :
    Except Error Bool := do
  let operands ← Operands.ofValues left right
  return operands.compare comparison

/-- Compare two values by the order with a given sign. A sign of no order is found
out only when the values are ready to be compared. -/
def Value.compareBy (symbol : String) (left right : Value) : Except Failure Bool :=
  match Operands.ofValues left right with
  | .error error => .error (.error error)
  | .ok operands =>
    match Comparison.ofSymbol? symbol with
    | some comparison => .ok (operands.compare comparison)
    | none => .error (.unknownOperator symbol)

/-- The wording of a sign of no order. -/
def unknownOperatorMessage (symbol : String) : String :=
  "Unknown comparison operator: " ++ symbol

end Templating
