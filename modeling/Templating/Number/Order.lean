import Templating.Number.Double

/-!
# The order of numbers

Whole numbers of any size and doubles are ordered by their exact values: both are
placed on one line that is measured in units, with a place below and a place
above all of it for the infinities. What is not a number has no place, and every
comparison with it fails.
-/

namespace Templating

/-- A whole number or a double. -/
inductive Number
  | integer (value : Int)
  | double (value : Double)
  deriving DecidableEq

/-- A place on the line of numbers. -/
inductive LinePlace
  | bottom
  | exact (units : Int)
  | top
  deriving DecidableEq

namespace LinePlace

/-- One place lies before another. -/
def isBefore : LinePlace → LinePlace → Bool
  | .bottom, .bottom => false
  | .bottom, _ => true
  | .exact left, .exact right => left < right
  | .exact _, .top => true
  | _, _ => false

end LinePlace

namespace Number

/-- The place of a number. -/
def place? : Number → Option LinePlace
  | .integer value => some (.exact (value * unitsInOne))
  | .double .nan => none
  | .double (.infinite negative) => some (if negative then .bottom else .top)
  | .double (.finite negative magnitude) =>
      some (.exact
        (if negative then -(magnitude.units : Int) else magnitude.units))

/-- One number is less than another. -/
def isLess (left right : Number) : Bool :=
  match left.place?, right.place? with
  | some first, some second => first.isBefore second
  | _, _ => false

/-- One number is at most another. -/
def isAtMost (left right : Number) : Bool :=
  match left.place?, right.place? with
  | some first, some second => !second.isBefore first
  | _, _ => false

end Number
end Templating
