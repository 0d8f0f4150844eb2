import Templating.Number.Numeral
import Templating.Settings.Problem
import Templating.Value.Basic

/-!
# Settings as numbers and booleans

A setting need not have the very type that is asked for. A whole number may be
given as a boolean, as a double without a fraction or as a text; a boolean as one
of the numbers zero and one or as one of a few words. A text that gives a whole
number is first cleared of what does not count, and then has to be plain.
-/

namespace Templating
namespace Settings

/-- The most digits of a whole number that is given as a text. -/
def integerTextDigits : Nat := 4300

/-- The characters that may stand in front of the first digit that counts. -/
def isFiller (character : Char) : Bool :=
  character = '0' || character = '_'

/-- Drop the zeros in front of a number together with the underscores among
them. A digit or a minus sign may follow; at the end of the number and in front
of its point the last character is kept. A number has to begin with a digit. -/
def withoutFiller? (text : List Char) : Option (List Char) :=
  let filler := text.takeWhile isFiller
  let rest := text.dropWhile isFiller
  match text with
  | '0' :: _ =>
    match rest with
    | [] => filler.getLast?.map ([·])
    | '.' :: _ => filler.getLast?.map (· :: rest)
    | first :: _ => if first.isDigit || first = '-' then some rest else none
  | first :: _ => if first.isDigit then some text else none
  | [] => none

/-- Drop a point that zeros follow, at least one and nothing else. -/
def withoutZeroFraction (text : List Char) : List Char :=
  match text.dropWhile (· ≠ '.') with
  | _ :: digit :: digits =>
      if (digit :: digits).all (· = '0') then text.takeWhile (· ≠ '.') else text
  | _ => text

/-- Drop the underscores of a text in which each of them stands between two
other characters. -/
def withoutUnderscores? : List Char → Option (List Char)
  | [] => none
  | '_' :: _ => none
  | [character] => some [character]
  | character :: '_' :: rest => (withoutUnderscores? rest).map (character :: ·)
  | character :: rest => (withoutUnderscores? rest).map (character :: ·)

/-- Take a minus sign off the front of a number; there need not be one. -/
def splitMinus : List Char → Bool × List Char
  | '-' :: rest => (true, rest)
  | rest => (false, rest)

/-- A text is oversized when it begins with a number of too many digits. Neither
a zero nor anything but a minus sign stands in front of that number; what stands
behind it makes no difference. -/
def isOversized (text : List Char) : Bool :=
  let digits := (splitMinus text).2.takeWhile Char.isDigit
  digits.head? ≠ some '0' && integerTextDigits < digits.length

/-- The whole number that a text writes in the plain way: a minus sign if it is
negative, and not too many digits, of which the first is zero only when it is
alone. -/
def plainInteger? (text : List Char) : Option Int :=
  let (negative, digits) := splitMinus text
  let size : Int := Numeral.digitsValue digits
  if digits = [] ∨ (digits.head? = some '0' ∧ digits ≠ ['0']) then none
  else if integerTextDigits < digits.length then none
  else if digits.all Char.isDigit then some (if negative then -size else size)
  else none

/-- Clear the text of a whole number of what does not count: white space around
it, a plus sign, zeros in front, a fraction of zeros and single underscores. A
minus sign in front is put back only at the end, so a second one is never
plain. -/
def cleared? (text : List Char) : Option (List Char) := do
  let (negative, unsigned) := Numeral.readSign (Text.trim Text.isWhiteSpace text)
  let number ← withoutFiller? unsigned
  let whole := withoutZeroFraction number
  let digits := (withoutUnderscores? whole).getD whole
  return if negative then '-' :: digits else digits

/-- The whole number that a text gives: what is left of the text when it is
cleared has to be plain. -/
def integerOfText (text : List Char) : Except ProblemKind Int :=
  if isOversized text then .error .oversizedInteger
  else
    match (cleared? text).bind plainInteger? with
    | some value => .ok value
    | none => .error .unreadableInteger

/-- `2 ^ 63`, above the numbers of 64 bits with a sign. -/
def wordBound : Nat := 9223372036854775808

/-- The whole number of a double. -/
def integerOfDouble (value : Double) : Except ProblemKind Int :=
  match value with
  | .finite _ _ =>
    match value.toInt? with
    | none => .error .fractionalInteger
    | some whole =>
        if whole.natAbs < wordBound then .ok whole else .error .oversizedInteger
  | _ => .error .infiniteInteger

/-- The whole number that a setting gives. -/
def toInteger : Value → Except ProblemKind Int
  | .integer value => .ok value
  | .boolean value => .ok (if value then 1 else 0)
  | .double value => integerOfDouble value
  | .string text => integerOfText text.toList
  | _ => .error .notInteger

/-- The words for false and for true. -/
def booleanWords : List (String × Bool) :=
  [("0", false), ("f", false), ("n", false), ("no", false), ("off", false),
    ("false", false), ("1", true), ("t", true), ("y", true), ("yes", true),
    ("on", true), ("true", true)]

/-- The boolean of a whole number of 64 bits. Larger numbers are not even taken
for misspelled booleans. -/
def booleanOfInteger (value : Int) : Except ProblemKind Bool :=
  if value = 0 then .ok false
  else if value = 1 then .ok true
  else if -(wordBound : Int) ≤ value ∧ value < wordBound then .error .unreadableBoolean
  else .error .notBoolean

/-- The boolean that a setting gives. -/
def toBoolean : Value → Except ProblemKind Bool
  | .boolean value => .ok value
  | .string text =>
    match booleanWords.lookup (text.map Char.toLower) with
    | some value => .ok value
    | none => .error .unreadableBoolean
  | .integer value => booleanOfInteger value
  | .double value =>
    match integerOfDouble value with
    | .ok whole => booleanOfInteger whole
    | .error _ => .error .notBoolean
  | _ => .error .notBoolean

end Settings
end Templating
