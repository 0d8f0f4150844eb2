import Templating.Number.Rounding
import Templating.Text.Character
import Templating.Text.Pattern

/-!
# Numerals

The written form of a number: a sign, decimal digits with a point among them, at
the front or at the end, and a decimal exponent. Sign, point and exponent may be
missing, but not every digit, and blanks may stand around a numeral. Its value
is the double nearest to the number it names.

Whether a text has this form and which double a text is read as are two
questions. More is read as a double than has the form of a numeral: the names of
the doubles that are no numbers, and digits in groups.
-/

namespace Templating

/-- A numeral, taken apart. -/
structure Numeral where
  /-- A minus sign stands in front. -/
  negative : Bool
  /-- The digits before the point. -/
  whole : List Char
  /-- The digits after the point. -/
  fraction : List Char
  /-- The exponent of ten. -/
  exponent : Int
  deriving DecidableEq

namespace Numeral

/-- The number that decimal digits name. -/
def digitsValue (digits : List Char) : Nat :=
  Nat.ofDigitChars 10 digits 0

/-- Take a sign off the front of a text; there need not be one. -/
def readSign : List Char → Bool × List Char
  | '-' :: rest => (true, rest)
  | '+' :: rest => (false, rest)
  | rest => (false, rest)

/-- Read an exponent, which is the rest of a numeral and may be missing. -/
def readExponent? (text : List Char) : Option Int :=
  match text with
  | [] => some 0
  | mark :: rest =>
      let (negative, digits) := readSign rest
      if (mark = 'e' || mark = 'E') && digits.all Char.isDigit && digits ≠ [] then
        let size : Int := digitsValue digits
        some (if negative then -size else size)
      else none

/-- Take the digits after a point off the front of a text; the point may be
missing. -/
def readFraction : List Char → List Char × List Char
  | '.' :: rest => (rest.takeWhile Char.isDigit, rest.dropWhile Char.isDigit)
  | rest => ([], rest)

/-- Read a numeral without the blanks around it. -/
def readCore? (text : List Char) : Option Numeral :=
  let (negative, unsigned) := readSign text
  let whole := unsigned.takeWhile Char.isDigit
  let (fraction, rest) := readFraction (unsigned.dropWhile Char.isDigit)
  if whole = [] ∧ fraction = [] then none
  else (readExponent? rest).map fun exponent =>
    { negative, whole, fraction, exponent }

/-- Read a numeral with blanks around it. -/
def read? (text : List Char) : Option Numeral :=
  readCore? (Text.trim Text.isBlank text)

/-- A sign, which may be missing. -/
def signForm : Text.Pattern :=
  .optional (.one fun character => character = '+' || character = '-')

/-- Digits with a point behind or among them, or behind a point. -/
def digitsForm : Text.Pattern :=
  let point := Text.Pattern.one (· = '.')
  .either
    (.behind (.some Char.isDigit)
      (.optional (.behind point (.many Char.isDigit))))
    (.behind point (.some Char.isDigit))

/-- An exponent. -/
def exponentForm : Text.Pattern :=
  .sequence
    [.one fun character => character = 'e' || character = 'E', signForm,
      .some Char.isDigit]

/-- A numeral with blanks around it. -/
def form : Text.Pattern :=
  .sequence
    [.many Text.isBlank, signForm, digitsForm, .optional exponentForm,
      .many Text.isBlank]

/-- A text has the form of a numeral. -/
def isNumeral (text : List Char) : Bool := form.isMatch text

/-- The digits of a numeral without the zeros in front. -/
def digits (numeral : Numeral) : List Char :=
  (numeral.whole ++ numeral.fraction).dropWhile (· = '0')

/-- The exponent of ten that belongs to the last digit. -/
def lastExponent (numeral : Numeral) : Int :=
  numeral.exponent - numeral.fraction.length

/-- The double nearest to the number that a numeral names. The first digit's
place decides the numbers far outside of the range of doubles, so that no power
of ten of their size is computed. -/
def toDouble (numeral : Numeral) : Double :=
  let place := numeral.lastExponent + numeral.digits.length
  if numeral.digits = [] ∨ place < -330 then
    .finite numeral.negative .zero
  else if 310 < place then .infinite numeral.negative
  else
    .ofDecimal numeral.negative (digitsValue numeral.digits) numeral.lastExponent

/-- Take the underscores out of a text in which each of them stands between two
digits. -/
def ungrouped? : List Char → Option (List Char)
  | [] => some []
  | '_' :: _ => none
  | digit :: '_' :: next :: rest =>
      if digit.isDigit && next.isDigit then
        (ungrouped? (next :: rest)).map (digit :: ·)
      else none
  | character :: rest => (ungrouped? rest).map (character :: ·)

end Numeral

namespace Double

/-- The double of a name behind its sign. Capitals make no difference. -/
def ofName? (negative : Bool) (name : List Char) : Option Double :=
  match String.ofList (name.map Char.toLower) with
  | "inf" | "infinity" => some (.infinite negative)
  | "nan" => some .nan
  | _ => none

/-- The double that a text is read as: the value of a numeral, whose digits may be
in groups, or a double that has a name. Blanks may stand around it. Digits of other
scripts than ASCII's are not read. -/
def ofText? (text : List Char) : Option Double :=
  let text := Text.trim Text.isBlank text
  match (Numeral.ungrouped? text).bind Numeral.readCore? with
  | some numeral => some numeral.toDouble
  | none =>
      let (negative, name) := Numeral.readSign text
      ofName? negative name

end Double
end Templating
