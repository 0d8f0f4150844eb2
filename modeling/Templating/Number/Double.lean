/-!
# Binary floating point with 64 bits

A double is not a number, an infinity, or a sign with a magnitude. Magnitudes
are kept exactly: each is a whole number of *units*, a unit being `2 ^ -1074`,
the least positive magnitude. The invariant of `Magnitude` makes every double
have one representation only, so that equality of doubles is equality of values
(up to the sign of zero).
-/

namespace Templating

/-- The number of units in one. -/
def unitsInOne : Nat := Nat.pow 2 1074

/-- The magnitude `significand * 2 ^ exponent`, counted in units. -/
structure Magnitude where
  /-- The 53 leading binary digits. -/
  significand : Nat
  /-- The number of binary digits below the significand. -/
  exponent : Nat
  significand_lt : significand < Nat.pow 2 53
  exponent_le : exponent ≤ 2045
  /-- Small magnitudes keep their last digit at one unit; all others have a full
  significand. -/
  full : exponent = 0 ∨ Nat.pow 2 52 ≤ significand
  deriving DecidableEq

namespace Magnitude

/-- The magnitude as a number of units. -/
def units (magnitude : Magnitude) : Nat :=
  magnitude.significand * Nat.pow 2 magnitude.exponent

/-- The magnitude zero. -/
def zero : Magnitude where
  significand := 0
  exponent := 0
  significand_lt := by decide
  exponent_le := by decide
  full := Or.inl rfl

@[simp] theorem units_zero : zero.units = 0 := rfl

end Magnitude

/-- A floating-point number of 64 bits. -/
inductive Double
  | nan
  | infinite (negative : Bool)
  | finite (negative : Bool) (magnitude : Magnitude)
  deriving DecidableEq

namespace Double

instance : Inhabited Double := ⟨.finite false .zero⟩

/-- Both zeros are zero, and nothing else is. -/
def isZero : Double → Bool
  | .finite _ magnitude => magnitude.units = 0
  | _ => false

/-- The whole number that a double is equal to, if it is one. -/
def toInt? : Double → Option Int
  | .finite negative magnitude =>
      if magnitude.units % unitsInOne = 0 then
        let whole : Int := (magnitude.units / unitsInOne : Nat)
        some (if negative then -whole else whole)
      else none
  | _ => none

end Double
end Templating
