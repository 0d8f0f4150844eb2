import Templating.Text.Character

/-!
# The text of a tag

A tag stands between double braces. This module finds where a tag begins and
where it ends, and takes the text between the braces apart: into a keyword and
its argument, and for a loop into a variable and the expression that it runs
over. A closing brace inside a string of the expression does not end a tag.
-/

namespace Templating
namespace Tag

/-- Split a text before the first opening braces. -/
def splitOpening : List Char → List Char × List Char
  | [] => ([], [])
  | '\x7b' :: '\x7b' :: rest => ([], '\x7b' :: '\x7b' :: rest)
  | character :: rest =>
      let (text, tag) := splitOpening rest
      (character :: text, tag)

/-- Nothing is lost where a text is split. -/
theorem splitOpening_append (text : List Char) :
    (splitOpening text).1 ++ (splitOpening text).2 = text := by
  fun_induction splitOpening text <;> simp_all

theorem length_splitOpening_le (text : List Char) :
    (splitOpening text).2.length ≤ text.length := by
  have whole := congrArg List.length (splitOpening_append text)
  rw [List.length_append] at whole
  omega

/-- The text up to the closing braces and the text after them. In a string the
closing braces do not count, and there a backslash takes the meaning from the
character after it. -/
def splitClosing? : (inString : Bool) → List Char → Option (List Char × List Char)
  | _, [] => none
  | false, '\x7d' :: '\x7d' :: rest => some ([], rest)
  | false, character :: rest =>
      (splitClosing? (character = '\x22') rest).map fun (body, after) =>
        (character :: body, after)
  | true, '\x5c' :: character :: rest =>
      (splitClosing? true rest).map fun (body, after) =>
        ('\x5c' :: character :: body, after)
  | true, character :: rest =>
      (splitClosing? (character ≠ '\x22') rest).map fun (body, after) =>
        (character :: body, after)

/-- Only the closing braces are lost where the text of a tag is split off. -/
theorem splitClosing?_append
    {inString : Bool}
    {text body rest : List Char}
    (found : splitClosing? inString text = some (body, rest)) :
    body ++ '\x7d' :: '\x7d' :: rest = text := by
  fun_induction splitClosing? inString text generalizing body with
  | case1 => simp at found
  | case2 => simp_all
  | case3 _ _ _ inductionHypothesis =>
      obtain ⟨⟨inner, after⟩, equation, pair⟩ := Option.map_eq_some_iff.1 found
      cases pair
      simp [inductionHypothesis equation]
  | case4 _ _ inductionHypothesis =>
      obtain ⟨⟨inner, after⟩, equation, pair⟩ := Option.map_eq_some_iff.1 found
      cases pair
      simp [inductionHypothesis equation]
  | case5 _ _ _ inductionHypothesis =>
      obtain ⟨⟨inner, after⟩, equation, pair⟩ := Option.map_eq_some_iff.1 found
      cases pair
      simp [inductionHypothesis equation]

theorem length_lt_of_splitClosing?
    {inString : Bool}
    {text body rest : List Char}
    (found : splitClosing? inString text = some (body, rest)) :
    rest.length < text.length := by
  have whole := congrArg List.length (splitClosing?_append found)
  simp only [List.length_append, List.length_cons] at whole
  omega

/-- The text after a word, if it begins with that word. -/
def afterWord? : (word text : List Char) → Option (List Char)
  | [], text => some text
  | _ :: _, [] => none
  | letter :: word, character :: text =>
      if letter = character then afterWord? word text else none

theorem afterWord?_eq_some {word text rest : List Char} :
    afterWord? word text = some rest ↔ text = word ++ rest := by
  fun_induction afterWord? word text with
  | case1 => simp [eq_comm]
  | case2 => simp
  | case3 letter word text inductionHypothesis => simp [inductionHypothesis]
  | case4 letter word character text different =>
      simp only [reduceCtorEq, List.cons_append, List.cons.injEq, false_iff, not_and]
      exact fun same _ => different same.symm

/-- What follows at least one blank. Of a text of blanks alone the last one is
taken as what follows, if there are two. -/
def afterBlanks? (text : List Char) : Option (List Char) :=
  let blanks := text.takeWhile Text.isBlank
  let rest := text.dropWhile Text.isBlank
  if blanks = [] then none
  else if rest = [] then
    if 2 ≤ blanks.length then blanks.getLast?.map ([·]) else none
  else some rest

/-- The argument of a keyword at the front of a text, after blanks. -/
def argument? (keyword : String) (text : List Char) : Option (List Char) :=
  (afterWord? keyword.toList text).bind afterBlanks?

/-- Take a loop apart: a variable, which is a word, and after the word `in` the
expression that the loop runs over. -/
def binding? (text : List Char) : Option (List Char × List Char) :=
  let name := text.takeWhile Text.isWord
  let rest := text.dropWhile Text.isWord
  if name = [] then none
  else
    match rest.takeWhile Text.isBlank with
    | [] => none
    | _ =>
        (argument? "in" (rest.dropWhile Text.isBlank)).map fun expression =>
          (name, Text.trim Text.isSeparator expression)

end Tag
end Templating
