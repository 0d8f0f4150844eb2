import Templating.Number.Order
import Templating.Number.Numeral
import Templating.Value.Entries

/-!
# Values

What the variables of a template hold, what the functions of a host take and
return, and what expressions evaluate to. Every value counts as true or as
false, and some values are numeric: whole numbers, doubles, and strings that
have the form of numerals.
-/

namespace Templating

/-- A value of the host. -/
inductive Value
  | null
  | boolean (value : Bool)
  | integer (value : Int)
  | double (value : Double)
  | string (text : String)
  | list (items : List Value)
  /-- A list that the host may not change; templates make no difference. -/
  | tuple (items : List Value)
  | mapping (entries : List (String × Value))
  /-- Any other object of the host, known by the name of its type and by the text
  that it displays. -/
  | foreign (typeName text : String)

namespace Value

instance : Inhabited Value := ⟨.null⟩

/-- A value counts as false when it is null, false, a zero, the empty string or
one of the strings `0` and `false`, or when it holds nothing. -/
def truthy : Value → Bool
  | .null => false
  | .boolean value => value
  | .integer value => value ≠ 0
  | .double value => !value.isZero
  | .string text => !(["", "0", "false"].contains text)
  | .list items => !items.isEmpty
  | .tuple items => !items.isEmpty
  | .mapping entries => !entries.isEmpty
  | .foreign _ _ => true

/-- The name of a value's type in the messages of a host. -/
def typeName : Value → String
  | .null => "null"
  | .boolean _ => "boolean"
  | .integer _ => "number"
  | .double _ => "number"
  | .string _ => "string"
  | .list _ => "array"
  | .tuple _ => "array"
  | .mapping _ => "object"
  | .foreign typeName _ => typeName

/-- A number, or a string that has the form of one. -/
def isNumeric : Value → Bool
  | .integer _ => true
  | .double _ => true
  | .string text => Numeral.isNumeral text.toList
  | _ => false

/-- The number that a value is, or that a string is read as. -/
def reading? : Value → Option Number
  | .integer value => some (.integer value)
  | .double value => some (.double value)
  | .string text => (Double.ofText? text.toList).map .double
  | _ => none

/-- The number of a numeric value. -/
def number? (value : Value) : Option Number :=
  if value.isNumeric then value.reading? else none

/-- A value of a single piece: it holds no other values and has a text of its
own. -/
def IsScalar : Value → Prop
  | .null | .boolean _ | .integer _ | .double _ | .string _ => True
  | _ => False

/-- The items that a loop runs over, each with its index: null and the empty
string have none, lists count their items from zero, mappings give their
entries, and any other value is one item. -/
def iterationItems : Value → List (Value × Value)
  | .null => []
  | .string text => if text = "" then [] else [(.integer 0, .string text)]
  | .list items => items.zipIdx.map fun (item, index) => (.integer index, item)
  | .tuple items => items.zipIdx.map fun (item, index) => (.integer index, item)
  | .mapping entries => entries.map fun (key, item) => (.string key, item)
  | value => [(.integer 0, value)]

end Value
end Templating
