import Templating.Text.Printable

/-!
# Quoted texts

A text is shown between quotes so that it can be read on one line: the quote in
use and the backslash are preceded by a backslash, and characters that are not
printable are written by name or by number.
-/

namespace Templating
namespace Text

/-- The last `width` hexadecimal digits of a number, in lower case. -/
def hexadecimal (width number : Nat) : List Char :=
  (List.range width).reverse.map fun place =>
    Nat.digitChar (number / Nat.pow 16 place % 16)

/-- The quote around a text: single quotes, unless the text holds a single quote
and no double quote. -/
def quoteFor (text : List Char) : Char :=
  if text.contains '\x27' && !text.contains '\x22' then '\x22' else '\x27'

/-- How a character stands between quotes. -/
def quotedCharacter (quote character : Char) : List Char :=
  let code := character.toNat
  if character = quote || character = '\x5c' then ['\x5c', character]
  else if character = '\t' then ['\x5c', 't']
  else if character = '\n' then ['\x5c', 'n']
  else if character = '\r' then ['\x5c', 'r']
  else if isPrintable character then [character]
  else if code < 0x100 then '\x5c' :: 'x' :: hexadecimal 2 code
  else if code < 0x10000 then '\x5c' :: 'u' :: hexadecimal 4 code
  else '\x5c' :: 'U' :: hexadecimal 8 code

/-- A text between quotes. -/
def quoted (text : String) : String :=
  let quote := quoteFor text.toList
  String.ofList
    (quote :: text.toList.flatMap (quotedCharacter quote) ++ [quote])

end Text
end Templating
