import Templating.Proofs.Printing.Expr
import Templating.Segment.Lexer

/-!
# Text between braces

A text that ends no tag can stand between braces: the scanner for the closing braces
reads over it. This holds of plain characters and of strings in quotes, whatever they
hold, and of what is put together from them.
-/

namespace Templating
namespace Tag

/-- No tag ends in a text, and no string is open behind it. -/
def Passes (text : List Char) : Prop :=
  ∀ rest,
    splitClosing? false (text ++ rest) =
      (splitClosing? false rest).map fun found => (text ++ found.1, found.2)

namespace Passes

theorem nil : Passes [] := by
  intro rest
  simp

theorem append
    {text others : List Char}
    (first : Passes text)
    (second : Passes others) :
    Passes (text ++ others) := by
  intro rest
  rw [List.append_assoc, first, second, Option.map_map]
  simp [Function.comp_def]

/-- A character that is no brace and no quote ends no tag. -/
theorem single
    {character : Char}
    (notBrace : character ≠ '\x7d')
    (notQuote : character ≠ '\x22') :
    Passes [character] := by
  intro rest
  rw [List.singleton_append, splitClosing?, decide_eq_false notQuote]
  · rfl
  · intro others same
    exact absurd same notBrace

theorem ofPlain
    {text : List Char}
    (noBrace : '\x7d' ∉ text)
    (noQuote : '\x22' ∉ text) :
    Passes text := by
  induction text with
  | nil => exact nil
  | cons character rest inductionHypothesis =>
      rw [List.mem_cons, not_or] at noBrace noQuote
      exact (single (Ne.symm noBrace.1) (Ne.symm noQuote.1)).append
        (inductionHypothesis noBrace.2 noQuote.2)

theorem ofWord
    {word : List Char}
    (isWord : ∀ character ∈ word, Text.isWord character = true) :
    Passes word :=
  ofPlain (fun inside => absurd (isWord _ inside) (by decide))
    (fun inside => absurd (isWord _ inside) (by decide))

theorem parenthesized {text : List Char} (passes : Passes text) :
    Passes (Text.parenthesized text) :=
  (single (by decide) (by decide)).append
    (passes.append (single (by decide) (by decide)))

/-- Inside a string no character ends the tag, and each is read over as it was
escaped. -/
theorem splitClosing?_escaped (text rest : List Char) :
    splitClosing? true (text.flatMap Text.escaped ++ rest) =
      (splitClosing? true rest).map fun found =>
        (text.flatMap Text.escaped ++ found.1, found.2) := by
  induction text with
  | nil => simp
  | cons character text inductionHypothesis =>
      rw [List.flatMap_cons, List.append_assoc, Text.escaped]
      split
      · rw [List.cons_append, List.singleton_append, splitClosing?, inductionHypothesis,
          Option.map_map]
        simp [Function.comp_def]
      · next plain =>
          obtain ⟨notQuote, notBackslash⟩ := not_or.1 plain
          rw [List.singleton_append, splitClosing?, decide_eq_true notQuote,
            inductionHypothesis, Option.map_map]
          · simp [Function.comp_def]
          · intro other others same
            exact absurd same notBackslash

theorem doubleQuoted (text : List Char) : Passes (Text.doubleQuoted text) := by
  intro rest
  have closed :
      splitClosing? true ('\x22' :: rest) =
        (splitClosing? false rest).map fun found => ('\x22' :: found.1, found.2) := by
    rw [splitClosing?]
    · rfl
    · simp
  rw [Text.doubleQuoted, List.cons_append, List.append_assoc, splitClosing?,
    decide_eq_true rfl, splitClosing?_escaped, List.singleton_append, closed]
  · simp [Function.comp_def]
  · simp

/-- A tag ends at the first closing braces behind such a text. -/
theorem splitClosing?_eq_some
    {body : List Char}
    (passes : Passes body)
    (rest : List Char) :
    splitClosing? false (body ++ '\x7d' :: '\x7d' :: rest) = some (body, rest) := by
  simp [passes ('\x7d' :: '\x7d' :: rest), splitClosing?]

end Passes
end Tag
end Templating
