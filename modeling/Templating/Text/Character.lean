/-!
# Character classes

The classes of characters that tags and the expressions inside them are made
of. Each class is a Boolean test, so that the scanners can use it with the list
operations `takeWhile` and `dropWhile`. Only `isWhiteSpace` and `isSeparator`
know characters beyond ASCII.
-/

namespace Templating
namespace Text

/-- A blank separates the tokens of an expression and the words of a tag:
space, tab, line feed, carriage return, vertical tab and form feed. -/
def isBlank (character : Char) : Bool :=
  character = ' ' || character = '\t' || character = '\n' ||
    character = '\r' || character = '\x0b' || character = '\x0c'

/-- A margin character is cut from both ends of the text between the braces of
a tag: a blank other than the form feed, or the null character. -/
def isMargin (character : Char) : Bool :=
  character = ' ' || character = '\t' || character = '\n' ||
    character = '\r' || character = '\x0b' || character = '\x00'

/-- A word character is an ASCII letter, an ASCII digit or the underscore. -/
def isWord (character : Char) : Bool :=
  character.isAlphanum || character = '_'

/-- A name starts with an ASCII letter or the underscore. -/
def isNameStart (character : Char) : Bool :=
  character.isAlpha || character = '_'

/-- The characters with the Unicode property `White_Space`. -/
def isWhiteSpace (character : Char) : Bool :=
  let code := character.toNat
  (0x09 ≤ code && code ≤ 0x0d) || code = 0x20 || code = 0x85 || code = 0xa0 ||
    code = 0x1680 || (0x2000 ≤ code && code ≤ 0x200a) || code = 0x2028 ||
    code = 0x2029 || code = 0x202f || code = 0x205f || code = 0x3000

/-- White space, or one of the four information separators of ASCII. -/
def isSeparator (character : Char) : Bool :=
  isWhiteSpace character ||
    (0x1c ≤ character.toNat && character.toNat ≤ 0x1f)

/-- A character that may start a name is a word character. -/
theorem isWord_of_isNameStart
    (character : Char)
    (starts : isNameStart character = true) :
    isWord character = true := by
  simp only [isNameStart, isWord, Char.isAlphanum, Bool.or_eq_true] at *
  rcases starts with letter | underscore
  · exact Or.inl (Or.inl letter)
  · exact Or.inr underscore

/-- Cut the characters of one class from both ends of a text. -/
def trim (drops : Char → Bool) (text : List Char) : List Char :=
  ((text.dropWhile drops).reverse.dropWhile drops).reverse

@[simp] theorem trim_nil (drops : Char → Bool) : trim drops [] = [] := rfl

end Text
end Templating
