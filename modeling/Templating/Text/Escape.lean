/-!
# Text in markup

A text is put into markup by writing the five characters that markup treats
specially as entities: the ampersand, the angle brackets and both quotes.
-/

namespace Templating
namespace Text

/-- The entity of a special character, and every other character itself. -/
def entity (character : Char) : List Char :=
  match character with
  | '&' => ['&', 'a', 'm', 'p', ';']
  | '<' => ['&', 'l', 't', ';']
  | '>' => ['&', 'g', 't', ';']
  | '\x22' => ['&', 'q', 'u', 'o', 't', ';']
  | '\x27' => ['&', '#', 'x', '2', '7', ';']
  | other => [other]

/-- Write every special character of a text as its entity. -/
def escape (text : String) : String :=
  String.ofList (text.toList.flatMap entity)

@[simp] theorem toList_escape (text : String) :
    (escape text).toList = text.toList.flatMap entity := by
  simp [escape]

end Text
end Templating
