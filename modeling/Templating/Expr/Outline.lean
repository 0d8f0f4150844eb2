import Templating.Expr
import Templating.Number.Shortest

/-!
# Outlines of expressions

An outline shows a tree for debugging: one line a part, and the parts below it
indented by two blanks more.
-/

namespace Templating

/-- The blanks in front of a line of an outline. -/
def outlineIndentation (indent : Nat) : String :=
  String.ofList (List.replicate (2 * indent) ' ')

/-- How an outline shows a boolean. -/
def outlineBoolean (value : Bool) : String :=
  if value then "True" else "False"

namespace Expr

mutual

/-- The lines of the outline of an expression. -/
def outlineLines (indent : Nat) (expr : Expr) : List String :=
  let line (text : String) : String := outlineIndentation indent ++ text
  match expr with
  | .string _ text => [line ("String: \"" ++ text ++ "\"")]
  | .number _ value => [line ("Number: " ++ value.text)]
  | .boolean _ value => [line ("Boolean: " ++ outlineBoolean value)]
  | .null _ => [line "Null"]
  | .reference _ name => [line ("FieldRef: " ++ name)]
  | .access _ object property =>
      [line ("DotAccess: " ++ object ++ "." ++ property)]
  | .call _ function arguments =>
      line ("FunctionCall: " ++ function) :: outlineLinesAll (indent + 1) arguments
  | .unary _ operator operand =>
      line ("UnaryOp: " ++ operator.symbol) :: outlineLines (indent + 1) operand
  | .binary _ operator left right =>
      line ("BinaryOp: " ++ operator.symbol) ::
        (outlineLines (indent + 1) left ++ outlineLines (indent + 1) right)
  | .unknown kind => [line ("Unknown: <" ++ kind ++ ">")]

/-- The lines of the outlines of several expressions. -/
def outlineLinesAll (indent : Nat) (exprs : List Expr) : List String :=
  match exprs with
  | [] => []
  | expr :: rest => outlineLines indent expr ++ outlineLinesAll indent rest

end

/-- The outline of an expression. -/
def outline (indent : Nat) (expr : Expr) : String :=
  String.intercalate "\n" (outlineLines indent expr)

end Expr
end Templating
