import Templating.Text.Escape

/-!
# What escaping leaves of a text

An escaped text has no angle brackets and no quotes, and its ampersands all begin
one of five entities. Nothing is lost: reading the entities back gives the text.
Escaping all characters at once is the same as replacing one special character
after the other, as long as the ampersand comes first.
-/

namespace Templating
namespace Text

/-- The special characters, the ampersand apart. -/
def delimiters : List Char := ['<', '>', '\x22', '\x27']

/-- What an ampersand may begin in an escaped text. -/
def entities : List (List Char) :=
  ["&amp;".toList, "&lt;".toList, "&gt;".toList, "&quot;".toList, "&#x27;".toList]

/-- A text with its entities replaced by the characters they stand for, read from
left to right. -/
def unescape : List Char → List Char
  | '&' :: 'a' :: 'm' :: 'p' :: ';' :: rest => '&' :: unescape rest
  | '&' :: 'l' :: 't' :: ';' :: rest => '<' :: unescape rest
  | '&' :: 'g' :: 't' :: ';' :: rest => '>' :: unescape rest
  | '&' :: 'q' :: 'u' :: 'o' :: 't' :: ';' :: rest => '\x22' :: unescape rest
  | '&' :: '#' :: 'x' :: '2' :: '7' :: ';' :: rest => '\x27' :: unescape rest
  | character :: rest => character :: unescape rest
  | [] => []

/-- Write a character as something else wherever it stands. -/
def replace (target : Char) (written text : List Char) : List Char :=
  text.flatMap fun character =>
    if character = target then written else [character]

/-- Replace the special characters one after the other. -/
def escapeInTurn (text : List Char) : List Char :=
  replace '\x27' "&#x27;".toList
    (replace '\x22' "&quot;".toList
      (replace '>' "&gt;".toList
        (replace '<' "&lt;".toList
          (replace '&' "&amp;".toList text))))

/-- Where an ampersand stands, one of the entities begins. -/
def OnlyEntities : List Char → Prop
  | [] => True
  | character :: rest =>
      (character = '&' → ∃ entity ∈ entities, entity <+: character :: rest) ∧
        OnlyEntities rest

theorem not_mem_entity
    {delimiter : Char}
    (delimits : delimiter ∈ delimiters)
    (character : Char) :
    delimiter ∉ entity character := by
  simp only [delimiters, List.mem_cons, List.not_mem_nil, or_false] at delimits
  unfold entity
  split <;> rcases delimits with rfl | rfl | rfl | rfl <;> simp_all [eq_comm]

/-- An escaped text has no angle brackets and no quotes. -/
theorem count_escape
    {delimiter : Char}
    (delimits : delimiter ∈ delimiters)
    (text : String) :
    (escape text).toList.count delimiter = 0 := by
  rw [List.count_eq_zero, toList_escape, List.mem_flatMap]
  rintro ⟨character, -, inside⟩
  exact not_mem_entity delimits character inside

theorem unescape_entity (character : Char) (rest : List Char) :
    unescape (entity character ++ rest) = character :: unescape rest := by
  unfold entity
  split
  · rfl
  · rfl
  · rfl
  · rfl
  · rfl
  · next plain _ _ _ _ =>
      rw [List.singleton_append, unescape] <;> simp_all

/-- Reading the entities of an escaped text back gives the text. -/
theorem unescape_escape (text : String) :
    unescape (escape text).toList = text.toList := by
  rw [toList_escape]
  induction text.toList with
  | nil => rfl
  | cons character rest inductionHypothesis =>
      rw [List.flatMap_cons, unescape_entity, inductionHypothesis]

/-- A character is written as an entity with no ampersand but its first
character, or as itself. -/
theorem entity_cases (character : Char) :
    (∃ tail, entity character = '&' :: tail ∧ '&' ∉ tail ∧
        entity character ∈ entities) ∨
      (character ≠ '&' ∧ entity character = [character]) := by
  unfold entity
  split
  · exact .inl ⟨_, rfl, by decide, by decide⟩
  · exact .inl ⟨_, rfl, by decide, by decide⟩
  · exact .inl ⟨_, rfl, by decide, by decide⟩
  · exact .inl ⟨_, rfl, by decide, by decide⟩
  · exact .inl ⟨_, rfl, by decide, by decide⟩
  · next plain _ _ _ _ => exact .inr ⟨plain, rfl⟩

theorem OnlyEntities.append_left
    {front rest : List Char}
    (plain : '&' ∉ front)
    (others : OnlyEntities rest) :
    OnlyEntities (front ++ rest) := by
  induction front with
  | nil => exact others
  | cons character front inductionHypothesis =>
      rw [List.mem_cons, not_or] at plain
      exact
        ⟨fun ampersand => absurd ampersand.symm plain.1,
          inductionHypothesis plain.2⟩

theorem onlyEntities_entity
    (character : Char)
    {rest : List Char}
    (others : OnlyEntities rest) :
    OnlyEntities (entity character ++ rest) := by
  rcases entity_cases character with
    ⟨tail, written, plain, isEntity⟩ | ⟨plain, itself⟩
  · rw [written] at isEntity ⊢
    refine ⟨fun _ => ⟨'&' :: tail, isEntity, ?_⟩, others.append_left plain⟩
    exact List.prefix_append ('&' :: tail) rest
  · rw [itself]
    exact ⟨fun ampersand => absurd ampersand plain, others⟩

theorem onlyEntities_flatMap (text : List Char) :
    OnlyEntities (text.flatMap entity) := by
  induction text with
  | nil => trivial
  | cons character rest inductionHypothesis =>
      rw [List.flatMap_cons]
      exact onlyEntities_entity character inductionHypothesis

theorem OnlyEntities.begins
    {before rest : List Char}
    (only : OnlyEntities (before ++ '&' :: rest)) :
    ∃ entity ∈ entities, entity <+: '&' :: rest := by
  induction before with
  | nil => exact only.1 rfl
  | cons character before inductionHypothesis => exact inductionHypothesis only.2

/-- Every ampersand of an escaped text begins an entity. -/
theorem entity_of_ampersand
    {text : String}
    {before rest : List Char}
    (parts : (escape text).toList = before ++ '&' :: rest) :
    ∃ entity ∈ entities, entity <+: '&' :: rest := by
  have only := onlyEntities_flatMap text.toList
  rw [← toList_escape, parts] at only
  exact only.begins

theorem replace_eq_flatMap (target : Char) (written text : List Char) :
    replace target written text =
      text.flatMap fun character =>
        if character = target then written else [character] :=
  rfl

theorem replace_of_ne
    {target character : Char}
    {written : List Char}
    (different : character ≠ target) :
    replace target written [character] = [character] := by
  rw [replace_eq_flatMap, List.flatMap_singleton, if_neg different]

theorem replace_flatMap
    (target : Char)
    (written : List Char)
    (write : Char → List Char)
    (text : List Char) :
    replace target written (text.flatMap write) =
      text.flatMap fun character => replace target written (write character) :=
  List.flatMap_assoc

/-- No replacement touches what an earlier one has written. -/
theorem escape_eq_escapeInTurn (text : String) :
    (escape text).toList = escapeInTurn text.toList := by
  rw [toList_escape, escapeInTurn]
  rw [replace_eq_flatMap '&', replace_flatMap, replace_flatMap, replace_flatMap,
    replace_flatMap]
  congr 1
  funext character
  unfold entity
  split
  · decide
  · decide
  · decide
  · decide
  · decide
  · next plain less greater doubleQuote singleQuote =>
      rw [if_neg plain, replace_of_ne less, replace_of_ne greater,
        replace_of_ne doubleQuote, replace_of_ne singleQuote]

end Text
end Templating
