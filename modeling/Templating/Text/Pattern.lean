/-!
# Patterns

A pattern describes texts: a character of a class, any number of them, one
pattern behind another, or either of two. A text matches a pattern that describes
the whole of it. Matching goes through everything that a pattern can leave of a
text, what is left of a longer match before what is left of a shorter one.
-/

namespace Templating
namespace Text

/-- A description of texts. -/
inductive Pattern
  /-- The empty text. -/
  | nothing
  /-- A character of a class. -/
  | one (accepts : Char → Bool)
  /-- Any number of characters of a class. -/
  | many (accepts : Char → Bool)
  | behind (first second : Pattern)
  | either (first second : Pattern)

namespace Pattern

/-- A pattern that need not be there. -/
def optional (pattern : Pattern) : Pattern := .either pattern .nothing

/-- One or more characters of a class. -/
def some (accepts : Char → Bool) : Pattern := .behind (.one accepts) (.many accepts)

/-- Several patterns, one behind the other. -/
def sequence (patterns : List Pattern) : Pattern := patterns.foldr .behind .nothing

/-- What characters of a class at the front can leave of a text, in front of what
was found before. -/
def manyRests (accepts : Char → Bool) (found : List (List Char)) :
    List Char → List (List Char)
  | [] => [] :: found
  | character :: rest =>
      if accepts character then manyRests accepts ((character :: rest) :: found) rest
      else (character :: rest) :: found

/-- What a pattern can leave of a text. -/
def rests : Pattern → List Char → List (List Char)
  | .nothing, text => [text]
  | .one _, [] => []
  | .one accepts, character :: rest => if accepts character then [rest] else []
  | .many accepts, text => manyRests accepts [] text
  | .behind first second, text => (first.rests text).flatMap second.rests
  | .either first second, text => first.rests text ++ second.rests text

/-- The pattern describes the whole of a text. -/
def isMatch (pattern : Pattern) (text : List Char) : Bool :=
  (pattern.rests text).any List.isEmpty

end Pattern
end Text
end Templating
