import Mathlib.Data.List.TakeWhile
import Templating.Tag
import Templating.Token.Scanner

/-!
# Strings in a text

A string begins with a quote and ends at the next quote in front of which no backslash
stands that counts. Two scanners read strings: the one that looks for the braces that
close a tag, and the one that reads the tokens of an expression. Both end a string at
the same quote. A text whose strings are all closed keeps them when characters that are
no quotes are cut from its ends.
-/

namespace Templating
namespace Text

/-- A stretch of a text, with the offset of its first character. -/
structure Stretch where
  position : Nat
  text : List Char
  deriving DecidableEq

/-- The offset behind a stretch. -/
def Stretch.ending (stretch : Stretch) : Nat :=
  stretch.position + stretch.text.length

/-- What stands behind the opening quote of a string up to its closing quote, and the
text that the string stands for. A backslash stands for the character after it. -/
inductive ClosesString : (inside meaning : List Char) → Prop
  | closing : ClosesString ['\x22'] []
  | escaped
      (character : Char)
      {inside meaning : List Char}
      (closes : ClosesString inside meaning) :
      ClosesString ('\x5c' :: character :: inside) (character :: meaning)
  | plain
      {character : Char}
      {inside meaning : List Char}
      (notQuote : character ≠ '\x22')
      (notBackslash : character ≠ '\x5c')
      (closes : ClosesString inside meaning) :
      ClosesString (character :: inside) (character :: meaning)

/-- The strings of a text from an offset on. Each of them is closed. -/
inductive Strings : (position : Nat) → List Char → List Stretch → Prop
  | nil (position : Nat) : Strings position [] []
  | plain
      {position : Nat}
      {character : Char}
      {rest : List Char}
      {stretches : List Stretch}
      (notQuote : character ≠ '\x22')
      (others : Strings (position + 1) rest stretches) :
      Strings position (character :: rest) stretches
  | string
      {position : Nat}
      {inside meaning rest : List Char}
      {stretches : List Stretch}
      (closes : ClosesString inside meaning)
      (others : Strings (position + (inside.length + 1)) rest stretches) :
      Strings position ('\x22' :: (inside ++ rest))
        (⟨position, '\x22' :: inside⟩ :: stretches)

namespace ClosesString

variable {inside meaning : List Char}

/-- A string ends with its closing quote. -/
theorem getLast?_eq (closes : ClosesString inside meaning) :
    inside.getLast? = some '\x22' := by
  induction closes with
  | closing => rfl
  | escaped character closes inductionHypothesis =>
      rw [List.getLast?_cons, List.getLast?_cons, inductionHypothesis]
      rfl
  | plain notQuote notBackslash closes inductionHypothesis =>
      rw [List.getLast?_cons, inductionHypothesis]
      rfl

/-- The rest of an open string is not empty. -/
theorem exists_append_eq_cons (closes : ClosesString inside meaning) (rest : List Char) :
    ∃ next others, inside ++ rest = next :: others := by
  cases closes <;> exact ⟨_, _, rfl⟩

/-- The scanner for closing braces reads over the rest of a string. -/
theorem splitClosing?_append (closes : ClosesString inside meaning) (rest : List Char) :
    Tag.splitClosing? true (inside ++ rest) =
      (Tag.splitClosing? false rest).map fun found => (inside ++ found.1, found.2) := by
  induction closes with
  | closing =>
      rw [List.singleton_append, Tag.splitClosing?]
      · rfl
      · simp
  | escaped character closes inductionHypothesis =>
      rw [List.cons_append, List.cons_append, Tag.splitClosing?, inductionHypothesis,
        Option.map_map]
      rfl
  | plain notQuote notBackslash closes inductionHypothesis =>
      rw [List.cons_append, Tag.splitClosing?, decide_eq_true notQuote,
        inductionHypothesis, Option.map_map]
      · rfl
      · intro other others same
        exact absurd same notBackslash

/-- The scanner for tokens reads what is left of a string, and what it stands for. -/
theorem stringBody?_append (closes : ClosesString inside meaning) (rest : List Char) :
    Token.stringBody? (inside ++ rest) = some (meaning, inside.length) := by
  induction closes with
  | closing => rfl
  | escaped character closes inductionHypothesis =>
      rw [List.cons_append, List.cons_append, Token.stringBody?, inductionHypothesis]
      rfl
  | plain notQuote notBackslash closes inductionHypothesis =>
      rw [List.cons_append, Token.stringBody?, inductionHypothesis]
      · rfl
      · exact notQuote
      · intro other others same
        exact absurd same notBackslash

end ClosesString

/-- When the scanner for closing braces finds them behind an open string, it has read
to the end of the string first. -/
theorem closesString_of_splitClosing?
    {text body rest : List Char}
    (found : Tag.splitClosing? true text = some (body, rest)) :
    ∃ inside meaning after others,
      ClosesString inside meaning ∧ text = inside ++ after ∧ body = inside ++ others ∧
        Tag.splitClosing? false after = some (others, rest) := by
  generalize isOpen : true = inString at found
  fun_induction Tag.splitClosing? inString text generalizing body with
  | case1 => cases found
  | case2 => cases isOpen
  | case3 => cases isOpen
  | case4 character after inductionHypothesis =>
      obtain ⟨⟨others, last⟩, foundOthers, pair⟩ := Option.map_eq_some_iff.1 found
      cases pair
      obtain ⟨inside, meaning, behind, more, closes, rfl, rfl, closed⟩ :=
        inductionHypothesis rfl foundOthers
      exact ⟨_, _, behind, more, .escaped character closes, rfl, rfl, closed⟩
  | case5 character after unescaped inductionHypothesis =>
      obtain ⟨⟨others, last⟩, foundOthers, pair⟩ := Option.map_eq_some_iff.1 found
      cases pair
      by_cases isQuote : character = '\x22'
      · subst isQuote
        exact ⟨_, _, after, others, .closing, rfl, rfl, foundOthers⟩
      · rw [decide_eq_true isQuote] at inductionHypothesis foundOthers
        obtain ⟨inside, meaning, behind, more, closes, rfl, rfl, closed⟩ :=
          inductionHypothesis rfl foundOthers
        refine ⟨_, _, behind, more, .plain isQuote ?_ closes, rfl, rfl, closed⟩
        rintro rfl
        obtain ⟨next, others, begins⟩ := closes.exists_append_eq_cons behind
        exact unescaped next others rfl begins

namespace Strings

variable {position : Nat} {front back text : List Char} {stretches : List Stretch}

/-- A text without quotes has no strings. -/
theorem eq_nil
    (strings : Strings position text stretches)
    (noQuote : '\x22' ∉ text) :
    stretches = [] := by
  induction strings with
  | nil position => rfl
  | plain notQuote others inductionHypothesis =>
      exact inductionHypothesis fun inside => noQuote (List.mem_cons_of_mem _ inside)
  | string closes others inductionHypothesis => exact absurd List.mem_cons_self noQuote

/-- Characters that are no quotes can be cut from the front. -/
theorem cut_front
    (front : List Char)
    (strings : Strings position (front ++ text) stretches)
    (noQuote : '\x22' ∉ front) :
    Strings (position + front.length) text stretches := by
  induction front generalizing position with
  | nil => exact strings
  | cons character front inductionHypothesis =>
      rw [List.mem_cons, not_or] at noQuote
      generalize whole : character :: front ++ text = both at strings
      cases strings with
      | nil => cases whole
      | plain notQuote others =>
          obtain ⟨-, rfl⟩ := List.cons.inj whole
          have cut := inductionHypothesis others noQuote.2
          rwa [Nat.add_right_comm, Nat.add_assoc] at cut
      | string closes others => exact absurd (List.cons.inj whole).1.symm noQuote.1

/-- Characters that are no quotes can be cut from the back: no string ends there. -/
theorem cut_back
    (strings : Strings position (text ++ back) stretches)
    (noQuote : '\x22' ∉ back) :
    Strings position text stretches := by
  generalize whole : text ++ back = both at strings
  induction strings generalizing text with
  | nil position =>
      rw [(List.append_eq_nil_iff.1 whole).1]
      exact .nil position
  | @plain position character rest stretches notQuote others inductionHypothesis =>
      cases text with
      | nil =>
          have strings : Strings position back stretches := by
            rw [List.nil_append] at whole
            rw [whole]
            exact .plain notQuote others
          rw [strings.eq_nil noQuote]
          exact .nil position
      | cons first text =>
          obtain ⟨rfl, behind⟩ := List.cons.inj whole
          exact .plain notQuote (inductionHypothesis behind)
  | @string position inside meaning rest stretches closes others inductionHypothesis =>
      cases text with
      | nil =>
          rw [List.nil_append] at whole
          rw [whole] at noQuote
          exact absurd List.mem_cons_self noQuote
      | cons first text =>
          obtain ⟨rfl, behind⟩ := List.cons.inj whole
          rcases List.append_eq_append_iff.1 behind with
            ⟨more, isInside, isBack⟩ | ⟨more, rfl, isRest⟩
          · -- The closing quote would stand in what is cut.
            cases more with
            | nil =>
                rw [List.append_nil] at isInside
                rw [List.nil_append] at isBack
                subst isInside
                have strings := inductionHypothesis (by rw [List.nil_append, isBack])
                have string := Strings.string closes strings
                rwa [List.append_nil] at string
            | cons next more =>
                have last : (next :: more).getLast? = some '\x22' := by
                  simpa [isInside, List.getLast?_append, List.getLast?_cons] using
                    closes.getLast?_eq
                refine absurd ?_ noQuote
                rw [isBack]
                exact List.mem_append_left _ (List.mem_of_getLast? last)
          · exact .string closes (inductionHypothesis isRest.symm)

/-- The strings of a text stand in it, each at its offset. -/
theorem exists_append
    (strings : Strings position text stretches) :
    ∀ string ∈ stretches,
      ∃ before after,
        text = before ++ string.text ++ after ∧
          string.position = position + before.length := by
  induction strings with
  | nil position => simp
  | @plain position character rest stretches notQuote others inductionHypothesis =>
      intro string member
      obtain ⟨before, after, rfl, place⟩ := inductionHypothesis string member
      refine ⟨character :: before, after, rfl, ?_⟩
      rw [place, List.length_cons]
      omega
  | @string position inside meaning rest stretches closes others inductionHypothesis =>
      refine List.forall_mem_cons.2 ⟨⟨[], rest, rfl, rfl⟩, fun string member => ?_⟩
      obtain ⟨before, after, rfl, place⟩ := inductionHypothesis string member
      refine ⟨'\x22' :: (inside ++ before), after, by simp, ?_⟩
      rw [place, List.length_cons, List.length_append]
      omega

end Strings

/-- A text of one class has no quote, unless the quote is of the class. -/
theorem no_quote_of_class
    {holds : Char → Bool}
    {text : List Char}
    (noQuote : holds '\x22' = false)
    (all : ∀ character ∈ text, holds character = true) :
    '\x22' ∉ text := by
  intro inside
  rw [all _ inside] at noQuote
  cases noQuote

/-- What is left of a text when characters that are no quotes are cut from its ends, so
many of them from the front. -/
def CutFrom (whole : List Char) (front : Nat) (part : List Char) : Prop :=
  ∃ before after,
    whole = before ++ part ++ after ∧ before.length = front ∧
      '\x22' ∉ before ∧ '\x22' ∉ after

namespace CutFrom

variable {whole middle part : List Char} {front further : Nat}

theorem refl (whole : List Char) : CutFrom whole 0 whole :=
  ⟨[], [], by simp, rfl, List.not_mem_nil, List.not_mem_nil⟩

theorem trans
    (first : CutFrom whole front middle)
    (second : CutFrom middle further part) :
    CutFrom whole (front + further) part := by
  obtain ⟨before, after, rfl, rfl, noQuoteBefore, noQuoteAfter⟩ := first
  obtain ⟨inner, outer, rfl, rfl, noQuoteInner, noQuoteOuter⟩ := second
  refine ⟨before ++ inner, outer ++ after, by simp, by simp, ?_, ?_⟩
  · exact List.not_mem_append noQuoteBefore noQuoteInner
  · exact List.not_mem_append noQuoteOuter noQuoteAfter

theorem length_le (cut : CutFrom whole front part) : part.length ≤ whole.length := by
  obtain ⟨before, after, rfl, -⟩ := cut
  simp only [List.length_append]
  omega

/-- What is cut has no strings, so the strings are those of what is left. -/
theorem strings
    {position : Nat}
    {stretches : List Stretch}
    (cut : CutFrom whole front part)
    (strings : Strings position whole stretches) :
    Strings (position + front) part stretches := by
  obtain ⟨before, after, rfl, rfl, noQuoteBefore, noQuoteAfter⟩ := cut
  rw [List.append_assoc] at strings
  exact (strings.cut_front _ noQuoteBefore).cut_back noQuoteAfter

/-- A text without quotes is cut from the front. -/
theorem append
    {before : List Char}
    (noQuote : '\x22' ∉ before)
    (text : List Char) :
    CutFrom (before ++ text) before.length text :=
  ⟨before, [], by rw [List.append_nil], rfl, noQuote, List.not_mem_nil⟩

/-- Cutting a class of characters without the quote. -/
theorem trim
    (drops : Char → Bool)
    (keeps : drops '\x22' = false)
    (text : List Char) :
    ∃ front, CutFrom text front (Text.trim drops text) := by
  have noQuote : ∀ text : List Char, '\x22' ∉ text.takeWhile drops :=
    fun text => no_quote_of_class keeps fun character => List.mem_takeWhile_imp
  have back : (((text.dropWhile drops).reverse).dropWhile drops).reverse ++
      (((text.dropWhile drops).reverse).takeWhile drops).reverse =
        text.dropWhile drops := by
    rw [← List.reverse_append, List.takeWhile_append_dropWhile, List.reverse_reverse]
  refine ⟨_, text.takeWhile drops, (((text.dropWhile drops).reverse).takeWhile drops).reverse,
    ?_, rfl, noQuote _, fun inside => noQuote _ (List.mem_reverse.1 inside)⟩
  rw [Text.trim, List.append_assoc, back, List.takeWhile_append_dropWhile]

end CutFrom
end Text
end Templating
