import Templating.Expr
import Templating.Proofs.Number.Whole
import Templating.Registry

/-!
# Printing expressions

The canonical text of an expression: every operand of an operator stands in
parentheses, numbers are written in decimal, and strings in double quotes, with a
backslash in front of each double quote and backslash. Offsets leave no trace in it.
-/

namespace Templating

/-- How a character stands between double quotes. -/
def Text.escaped (character : Char) : List Char :=
  if character = '\x22' ∨ character = '\x5c' then ['\x5c', character] else [character]

/-- A text in double quotes. -/
def Text.doubleQuoted (text : List Char) : List Char :=
  '\x22' :: (text.flatMap escaped ++ ['\x22'])

/-- A text in parentheses. -/
def Text.parenthesized (text : List Char) : List Char :=
  '(' :: (text ++ [')'])

/-- The decimal digits of a double that is a natural number. -/
def Double.decimal (value : Double) : List Char :=
  Nat.toDigits 10 (value.toInt?.getD 0).toNat

theorem Double.IsWhole.decimal_eq
    {number : Nat}
    {value : Double}
    (whole : value.IsWhole number) :
    value.decimal = Nat.toDigits 10 number := by
  unfold IsWhole at whole
  split at whole
  · simp [decimal, toInt?, whole, Nat.mul_div_cancel number unitsInOne_pos]
  · exact whole.elim

namespace Expr

mutual

/-- The canonical text of an expression. -/
def printed : Expr → List Char
  | .string _ text => Text.doubleQuoted text.toList
  | .number _ value => value.decimal
  | .boolean _ value => if value then "true".toList else "false".toList
  | .null _ => "null".toList
  | .reference _ name => name.toList
  | .access _ object property => object.toList ++ '.' :: property.toList
  | .call _ function arguments =>
      function.toList ++ Text.parenthesized (printedArguments arguments)
  | .unary _ operator operand =>
      operator.symbol.toList ++ ' ' :: Text.parenthesized operand.printed
  | .binary _ operator left right =>
      Text.parenthesized left.printed ++
        ' ' :: (operator.symbol.toList ++ ' ' :: Text.parenthesized right.printed)
  | .unknown _ => []

/-- The canonical text of an argument list. -/
def printedArguments : List Expr → List Char
  | [] => []
  | argument :: further => argument.printed ++ printedFurther further

/-- The canonical text of the arguments after the first one. -/
def printedFurther : List Expr → List Char
  | [] => []
  | argument :: further =>
      ',' :: ' ' :: (argument.printed ++ printedFurther further)

end

mutual

/-- The greatest number of parentheses, negations and argument lists around a point
of the canonical text. -/
def printedNesting : Expr → Nat
  | .call _ _ arguments => printedNestingAll arguments + 1
  | .unary _ _ operand => operand.printedNesting + 2
  | .binary _ _ left right => max left.printedNesting right.printedNesting + 1
  | _ => 0

/-- The greatest nesting of the canonical texts of several expressions. -/
def printedNestingAll : List Expr → Nat
  | [] => 0
  | expr :: rest => max expr.printedNesting (printedNestingAll rest)

end

mutual

/-- An expression without its offsets. -/
def unplaced : Expr → Expr
  | .string _ text => .string 0 text
  | .number _ value => .number 0 value
  | .boolean _ value => .boolean 0 value
  | .null _ => .null 0
  | .reference _ name => .reference 0 name
  | .access _ object property => .access 0 object property
  | .call _ function arguments => .call 0 function (unplacedAll arguments)
  | .unary _ operator operand => .unary 0 operator operand.unplaced
  | .binary _ operator left right => .binary 0 operator left.unplaced right.unplaced
  | .unknown kind => .unknown kind

/-- Several expressions without their offsets. -/
def unplacedAll : List Expr → List Expr
  | [] => []
  | expr :: rest => expr.unplaced :: unplacedAll rest

end

mutual

/-- Every part of an expression can be written: names are no keywords, functions are
known, numbers are natural and fit the significand, and operators have a meaning. -/
def Writable (known : String → Bool) : Expr → Prop
  | .number _ value => ∃ number < 2 ^ 53, value.IsWhole number
  | .reference _ name => isFunctionName name = true
  | .access _ object property =>
      isFunctionName object = true ∧ isFunctionName property = true
  | .call _ function arguments =>
      isFunctionName function = true ∧ known function = true ∧
        WritableAll known arguments
  | .unary _ operator operand => operator = .negation ∧ operand.Writable known
  | .binary _ operator left right =>
      (∀ symbol, operator ≠ .other symbol) ∧
        left.Writable known ∧ right.Writable known
  | .unknown _ => False
  | _ => True

/-- Every part of several expressions can be written. -/
def WritableAll (known : String → Bool) : List Expr → Prop
  | [] => True
  | expr :: rest => expr.Writable known ∧ WritableAll known rest

end

end Expr
end Templating
