import Templating.Error
import Templating.Number.Shortest
import Templating.Text.Escape
import Templating.Value.Basic

/-!
# Displayed values

The text that a template emits for a value. Whole numbers with more than 4300
decimal digits have no text; everything that would display one of them fails
with the number's length in binary digits.
-/

namespace Templating

/-- The most decimal digits of a whole number that is displayed. -/
def displayedDigits : Nat := 4300

/-- The length of a whole number in binary digits, without its sign. -/
def bitLength (value : Int) : Nat :=
  if value = 0 then 0 else value.natAbs.log2 + 1

/-- A whole number in decimal. -/
def integerText (value : Int) : String :=
  if value < 0 then "-" ++ value.natAbs.repr else value.natAbs.repr

/-- A whole number in decimal, if it has not too many digits. -/
def displayInteger (value : Int) : Except Error String :=
  if value.natAbs < Nat.pow 10 displayedDigits then .ok (integerText value)
  else .error (.evaluation (.integerTooLarge (bitLength value)) none none)

/-- A double that is a whole number below `10 ^ 15` is displayed without a
point; every other double by its shortest text. -/
def displayDouble (value : Double) : String :=
  match value.toInt? with
  | some whole =>
      if whole.natAbs < Nat.pow 10 15 then integerText whole else value.text
  | none => value.text

/-- How a boolean displays. -/
def displayBoolean (value : Bool) : String :=
  if value then "true" else "false"

/-- The text of a number: that of a whole number, or that of a double. -/
def displayNumber : Number → Except Error String
  | .integer value => displayInteger value
  | .double value => .ok (displayDouble value)

namespace Value

mutual

/-- The text that a value displays: nothing for null and for mappings, and for a
list the texts of its items with commas between them. -/
def display : Value → Except Error String
  | .null => .ok ""
  | .boolean value => .ok (displayBoolean value)
  | .integer value => displayNumber (.integer value)
  | .double value => displayNumber (.double value)
  | .string text => .ok text
  | .list items => do return String.intercalate ", " (← displayAll items)
  | .tuple items => do return String.intercalate ", " (← displayAll items)
  | .mapping _ => .ok ""
  | .foreign _ text => .ok text

/-- The texts that values display, in order. -/
def displayAll : List Value → Except Error (List String)
  | [] => .ok []
  | value :: rest => do
      let text ← value.display
      let texts ← displayAll rest
      return text :: texts

end

@[simp] theorem display_integer (value : Int) :
    (Value.integer value).display = displayInteger value := by
  rw [display, displayNumber]

@[simp] theorem display_double (value : Double) :
    (Value.double value).display = .ok (displayDouble value) := by
  rw [display, displayNumber]

/-- Two values are equal when they display the same text. -/
def equal (left right : Value) : Except Error Bool := do
  let first ← left.display
  let second ← right.display
  return first = second

end Value
end Templating
