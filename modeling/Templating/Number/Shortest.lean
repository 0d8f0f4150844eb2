import Templating.Number.Numeral

/-!
# The shortest decimal of a double

A double is written with the fewest decimal digits that read back as the same
double, and of the decimals of that length with the one nearest to it. Digits
stand around a point while the number is neither too small nor too large, and
with an exponent of ten otherwise.
-/

namespace Templating

/-- The decimal number `coefficient * 10 ^ exponent`. -/
structure Decimal where
  coefficient : Nat
  exponent : Int
  deriving DecidableEq

namespace Magnitude

/-- A decimal reads back as a magnitude when the nearest double is that one. -/
def isReadBackFrom (magnitude : Magnitude) (decimal : Decimal) : Bool :=
  Double.ofDecimal false decimal.coefficient decimal.exponent =
    .finite false magnitude

/-- The place of the decimal point, counted from the first digit that is not
zero: the magnitude lies below that power of ten and not below the one before.
The scale `10 ^ 340` turns even one unit into a whole number. -/
def pointPlace (magnitude : Magnitude) : Int :=
  (Nat.toDigits 10 (magnitude.units * Nat.pow 10 340 / unitsInOne)).length - 340

/-- The two neighbours of a magnitude among the decimals of a given exponent, the
nearer one first. -/
def neighbours (magnitude : Magnitude) (exponent : Int) : List Decimal :=
  let numerator := magnitude.units * Nat.pow 10 (-exponent).toNat
  let denominator := unitsInOne * Nat.pow 10 exponent.toNat
  let lower := numerator / denominator
  let nearer := roundEven numerator denominator
  let other := if nearer = lower then lower + 1 else lower
  [⟨nearer, exponent⟩, ⟨other, exponent⟩]

/-- The magnitude as an exact decimal. -/
def exactDecimal (magnitude : Magnitude) : Decimal :=
  ⟨magnitude.units * Nat.pow 5 1074, -1074⟩

/-- The shortest decimal that reads back as a magnitude. Seventeen digits always
suffice; the exact decimal stands for the case that they do not. -/
def shortest (magnitude : Magnitude) : Decimal :=
  let candidates := (List.range 17).flatMap fun more : Nat =>
    magnitude.neighbours (magnitude.pointPlace - (more + 1 : Nat))
  (candidates.find? magnitude.isReadBackFrom).getD magnitude.exactDecimal

end Magnitude

/-- How digits are laid out around their point. -/
structure Layout where
  /-- The least place of the point at which no exponent is written. -/
  leastPlace : Int
  /-- The largest place of the point at which no exponent is written. -/
  largestPlace : Int
  /-- The least number of digits of an exponent. -/
  exponentDigits : Nat

/-- Numbers from `0.0001` up to sixteen digits before the point are written
without an exponent, and an exponent has a sign and at least two digits. -/
def Double.layout : Layout where
  leastPlace := -3
  largestPlace := 16
  exponentDigits := 2

namespace Layout

/-- A natural number in decimal, filled up with zeros in front. -/
def padded (width number : Nat) : List Char :=
  let digits := Nat.toDigits 10 number
  List.replicate (width - digits.length) '0' ++ digits

/-- Digits without an exponent; a whole number keeps one zero after its point. -/
def positional (digits : List Char) (place : Int) : List Char :=
  if place ≤ 0 then
    '0' :: '.' :: (List.replicate (-place).toNat '0' ++ digits)
  else if place < digits.length then
    digits.take place.toNat ++ '.' :: digits.drop place.toNat
  else
    digits ++ List.replicate (place.toNat - digits.length) '0' ++ ['.', '0']

/-- Digits with one of them before the point and an exponent behind. -/
def scientific (layout : Layout) (digits : List Char) (place : Int) : List Char :=
  let power := place - 1
  let sign := if power < 0 then '-' else '+'
  let point := if digits.length ≤ 1 then [] else '.' :: digits.drop 1
  digits.take 1 ++ point ++
    'e' :: sign :: padded layout.exponentDigits power.natAbs

/-- Digits with their point at the given place. -/
def arrange (layout : Layout) (digits : List Char) (place : Int) : List Char :=
  if layout.leastPlace ≤ place ∧ place ≤ layout.largestPlace then
    positional digits place
  else layout.scientific digits place

end Layout

namespace Decimal

/-- The digits of a decimal without the zeros at the end. -/
def digits (decimal : Decimal) : List Char :=
  ((Nat.toDigits 10 decimal.coefficient).reverse.dropWhile (· = '0')).reverse

/-- The place of the point, counted from the first digit. -/
def place (decimal : Decimal) : Int :=
  (Nat.toDigits 10 decimal.coefficient).length + decimal.exponent

end Decimal

namespace Magnitude

/-- The shortest text of a magnitude. -/
def text (magnitude : Magnitude) : List Char :=
  if magnitude.units = 0 then ['0', '.', '0']
  else
    Double.layout.arrange magnitude.shortest.digits magnitude.shortest.place

end Magnitude

namespace Double

/-- The shortest text that reads back as a double. -/
def text : Double → String
  | .nan => "nan"
  | .infinite negative => if negative then "-inf" else "inf"
  | .finite negative magnitude =>
      String.ofList
        (if negative then '-' :: magnitude.text else magnitude.text)

end Double
end Templating
