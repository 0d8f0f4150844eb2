import Mathlib.Data.List.Basic
import Mathlib.Data.List.TakeWhile
import Templating.Proofs.Text.Classes
import Templating.Tag

/-!
# What a loop tag says

A loop tag holds a variable, the word `in` and an expression, with blanks between
them. How far the blanks reach does not matter, since the expression is cut at
both ends.
-/

namespace Templating

namespace Tag

/-- A loop tag names a variable and, behind the word `in`, what it runs over. -/
def Binds (text variableName iterable : List Char) : Prop :=
  ∃ before behind expression : List Char,
    text = variableName ++ before ++ "in".toList ++ behind ++ expression ∧
      (variableName ≠ [] ∧ ∀ character ∈ variableName, Text.isWord character) ∧
      (before ≠ [] ∧ ∀ character ∈ before, Text.isBlank character) ∧
      (behind ≠ [] ∧ ∀ character ∈ behind, Text.isBlank character) ∧
      expression ≠ [] ∧
      iterable = Text.trim Text.isSeparator expression

theorem afterBlanks?_eq_some
    {text rest : List Char}
    (found : afterBlanks? text = some rest) :
    ∃ blanks : List Char,
      text = blanks ++ rest ∧
        (blanks ≠ [] ∧ ∀ character ∈ blanks, Text.isBlank character) ∧
        rest ≠ [] := by
  have whole := List.takeWhile_append_dropWhile (p := Text.isBlank) (l := text)
  have blank : ∀ character ∈ text.takeWhile Text.isBlank, Text.isBlank character :=
    fun character inside => List.mem_takeWhile_imp inside
  unfold afterBlanks? at found
  revert found
  generalize text.takeWhile Text.isBlank = blanks at whole blank
  generalize text.dropWhile Text.isBlank = remaining at whole
  intro found
  dsimp only at found
  split at found
  · cases found
  · next someBlanks =>
      split at found
      · next nothing =>
          split at found
          · next two =>
              obtain ⟨last, isLast, rfl⟩ := Option.map_eq_some_iff.1 found
              refine ⟨blanks.dropLast, ?_, ⟨?_, ?_⟩, by simp⟩
              · rw [← whole, nothing, List.append_nil]
                exact (List.dropLast_append_getLast? last isLast).symm
              · rw [← List.length_pos_iff, List.length_dropLast]
                omega
              · exact fun character inside =>
                  blank character (List.dropLast_subset blanks inside)
          · cases found
      · next more =>
          cases found
          exact ⟨blanks, whole.symm, ⟨someBlanks, blank⟩, more⟩

/-- Wherever the blanks are taken to end, the same is left when the rest is
cut. -/
theorem afterBlanks?_append
    {blanks rest : List Char}
    (someBlanks : blanks ≠ [])
    (blank : ∀ character ∈ blanks, Text.isBlank character)
    (more : rest ≠ []) :
    ∃ found,
      afterBlanks? (blanks ++ rest) = some found ∧
        Text.trim Text.isSeparator found = Text.trim Text.isSeparator rest := by
  have front :
      (blanks ++ rest).takeWhile Text.isBlank =
        blanks ++ rest.takeWhile Text.isBlank :=
    List.takeWhile_append_of_pos blank
  have back :
      (blanks ++ rest).dropWhile Text.isBlank = rest.dropWhile Text.isBlank :=
    List.dropWhile_append_of_pos blank
  unfold afterBlanks?
  simp only [front, back, List.append_eq_nil_iff, someBlanks, false_and, if_false]
  by_cases onlyBlanks : rest.dropWhile Text.isBlank = []
  · have allBlank := List.dropWhile_eq_nil_iff.1 onlyBlanks
    have all : rest.takeWhile Text.isBlank = rest :=
      List.takeWhile_eq_self_iff.2 allBlank
    have two : 2 ≤ (blanks ++ rest).length := by
      have first := List.length_pos_iff.2 someBlanks
      have second := List.length_pos_iff.2 more
      rw [List.length_append]
      omega
    rw [if_pos onlyBlanks, all, if_pos two]
    refine ⟨[rest.getLast more], ?_, ?_⟩
    · rw [List.getLast?_append, List.getLast?_eq_some_getLast more]
      rfl
    · have last :
          Text.isSeparator (rest.getLast more) = true :=
        Text.isSeparator_of_isBlank _ (allBlank _ (List.getLast_mem more))
      rw [← Text.trim_dropWhile_isBlank rest, onlyBlanks]
      simp [Text.trim, last]
  · rw [if_neg onlyBlanks]
    exact ⟨_, rfl, Text.trim_dropWhile_isBlank rest⟩

theorem binds_of_binding?
    {text variableName iterable : List Char}
    (found : binding? text = some (variableName, iterable)) :
    Binds text variableName iterable := by
  unfold binding? at found
  dsimp only at found
  split at found
  · cases found
  · next named =>
      split at found
      · cases found
      · next separated =>
          obtain ⟨expression, argument, pair⟩ := Option.map_eq_some_iff.1 found
          obtain ⟨rfl, rfl⟩ := Prod.mk.inj pair
          obtain ⟨afterIn, isIn, isArgument⟩ := Option.bind_eq_some_iff.1 argument
          obtain ⟨behind, rfl, blanks, more⟩ := afterBlanks?_eq_some isArgument
          refine ⟨_, behind, expression, ?_,
            ⟨named, fun _ inside => List.mem_takeWhile_imp inside⟩,
            ⟨separated, fun _ inside => List.mem_takeWhile_imp inside⟩,
            blanks, more, rfl⟩
          rw [afterWord?_eq_some] at isIn
          simp only [List.append_assoc]
          rw [← isIn, List.takeWhile_append_dropWhile, List.takeWhile_append_dropWhile]

theorem binding?_of_binds
    {text variableName iterable : List Char}
    (binds : Binds text variableName iterable) :
    binding? text = some (variableName, iterable) := by
  obtain ⟨before, behind, expression, rfl, ⟨named, word⟩, ⟨separated, blank⟩,
    ⟨someBehind, blankBehind⟩, more, rfl⟩ := binds
  -- No blank is a word character, and `in` begins with no blank.
  have firstBlank :
      ∀ character ∈ (before ++ ("in".toList ++ (behind ++ expression))).head?,
        Text.isWord character = false := by
    intro character first
    refine Text.not_isWord_of_isBlank character (blank character ?_)
    cases before with
    | nil => exact absurd rfl separated
    | cons head others =>
        cases first
        exact List.mem_cons_self
  have firstLetter :
      ∀ character ∈ ("in".toList ++ (behind ++ expression)).head?,
        Text.isBlank character = false := by
    rintro character ⟨⟩
    decide
  obtain ⟨name, rest⟩ := Text.takeWhile_append_of_head word firstBlank
  obtain ⟨blanks, inWord⟩ := Text.takeWhile_append_of_head blank firstLetter
  obtain ⟨found, argument, cut⟩ := afterBlanks?_append someBehind blankBehind more
  have isIn :
      afterWord? "in".toList ("in".toList ++ (behind ++ expression)) =
        some (behind ++ expression) :=
    afterWord?_eq_some.2 rfl
  unfold binding?
  simp only [List.append_assoc, name, rest, named, if_false, blanks, inWord]
  rw [argument?, isIn, Option.bind_some, argument, Option.map_some, cut]

/-- A loop tag is taken apart exactly when it can be read as one. -/
theorem binding?_eq_some (text variableName iterable : List Char) :
    binding? text = some (variableName, iterable) ↔
      Binds text variableName iterable :=
  ⟨binds_of_binding?, binding?_of_binds⟩

end Tag
end Templating
