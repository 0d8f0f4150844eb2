import Mathlib.Data.List.Basic
import Mathlib.Data.List.DropRight
import Mathlib.Data.List.TakeWhile
import Templating.Text.Character

/-!
# Texts of one class

Where the characters of a class end in a text, and what is left when they are cut
from its ends.
-/

namespace Templating
namespace Text

/-- A blank is cut from the ends of an expression. -/
theorem isSeparator_of_isBlank
    (character : Char)
    (blank : isBlank character = true) :
    isSeparator character = true := by
  simp only [isBlank, Bool.or_eq_true, decide_eq_true_eq] at blank
  rcases blank with ((((rfl | rfl) | rfl) | rfl) | rfl) | rfl <;> decide

/-- The form feed is the only blank that is no margin. -/
theorem isMargin_of_isBlank
    {character : Char}
    (blank : isBlank character = true)
    (notFormFeed : character ≠ '\x0c') :
    isMargin character = true := by
  simp only [isBlank, Bool.or_eq_true, decide_eq_true_eq] at blank
  rcases blank with ((((rfl | rfl) | rfl) | rfl) | rfl) | rfl
  all_goals first
    | decide
    | exact absurd rfl notFormFeed

theorem not_isWord_of_isBlank
    (character : Char)
    (blank : isBlank character = true) :
    isWord character = false := by
  simp only [isBlank, Bool.or_eq_true, decide_eq_true_eq] at blank
  rcases blank with ((((rfl | rfl) | rfl) | rfl) | rfl) | rfl <;> decide

/-- A word character is no blank. -/
theorem not_isBlank_of_isWord
    {character : Char}
    (word : isWord character = true) :
    isBlank character = false := by
  cases blank : isBlank character with
  | false => rfl
  | true =>
      rw [not_isWord_of_isBlank character blank] at word
      cases word

/-- A word character is no margin. -/
theorem not_isMargin_of_isWord
    {character : Char}
    (word : isWord character = true) :
    isMargin character = false := by
  cases margin : isMargin character with
  | false => rfl
  | true =>
      simp only [isMargin, Bool.or_eq_true, decide_eq_true_eq] at margin
      rcases margin with ((((rfl | rfl) | rfl) | rfl) | rfl) | rfl <;> cases word

theorem isWord_of_isDigit
    {character : Char}
    (digit : character.isDigit = true) :
    isWord character = true := by
  simp [isWord, Char.isAlphanum, digit]

theorem isDigit_eq_true {character : Char} :
    character.isDigit = true ↔ '0'.val ≤ character.val ∧ character.val ≤ '9'.val := by
  have ranges :
      character.isDigit =
        (decide ('0'.val ≤ character.val) && decide (character.val ≤ '9'.val)) :=
    rfl
  simp only [ranges, Bool.and_eq_true, decide_eq_true_eq]

theorem isAlpha_eq_true {character : Char} :
    character.isAlpha = true ↔
      ('A'.val ≤ character.val ∧ character.val ≤ 'Z'.val) ∨
        ('a'.val ≤ character.val ∧ character.val ≤ 'z'.val) := by
  have ranges :
      character.isAlpha =
        (decide ('A'.val ≤ character.val ∧ character.val ≤ 'Z'.val) ||
          (decide ('a'.val ≤ character.val) && decide (character.val ≤ 'z'.val))) :=
    rfl
  simp only [ranges, Bool.or_eq_true, Bool.and_eq_true, decide_eq_true_eq]

theorem not_isDigit_of_isNameStart
    {character : Char}
    (starts : isNameStart character = true) :
    character.isDigit = false := by
  cases digit : character.isDigit with
  | false => rfl
  | true =>
      simp only [isNameStart, Bool.or_eq_true, decide_eq_true_eq] at starts
      have atMost : character.val ≤ '9'.val := (isDigit_eq_true.1 digit).2
      rcases starts with letter | rfl
      · rcases isAlpha_eq_true.1 letter with upper | lower
        · exact absurd (UInt32.le_trans upper.1 atMost) (by decide)
        · exact absurd (UInt32.le_trans lower.1 atMost) (by decide)
      · exact absurd digit (by decide)

/-- Characters of the class in front of a text do not change what is left when it
is cut. -/
theorem trim_append_of_drops
    {drops : Char → Bool}
    {front : List Char}
    (dropped : ∀ character ∈ front, drops character = true)
    (text : List Char) :
    trim drops (front ++ text) = trim drops text := by
  rw [trim, trim, List.dropWhile_append_of_pos dropped]

/-- Characters of the class behind a text do not change what is left either. -/
theorem trim_append_of_drops_back
    {drops : Char → Bool}
    {back : List Char}
    (dropped : ∀ character ∈ back, drops character = true)
    (text : List Char) :
    trim drops (text ++ back) = trim drops text := by
  rw [trim, trim, List.dropWhile_append]
  split
  · next nothing =>
      rw [List.isEmpty_iff.1 nothing, List.dropWhile_eq_nil_iff.2 dropped]
  · rw [List.reverse_append,
      List.dropWhile_append_of_pos fun character inside =>
        dropped character (List.mem_reverse.1 inside)]

/-- The first character that is not of the class is the first one that is left. -/
theorem head?_trim (drops : Char → Bool) (text : List Char) :
    (trim drops text).head? = (text.dropWhile drops).head? := by
  have front : trim drops text <+: text.dropWhile drops := List.rdropWhile_prefix drops _
  cases begins : text.dropWhile drops with
  | nil => rw [trim, begins]; rfl
  | cons first others =>
      have kept := List.head?_dropWhile_not drops text
      rw [begins] at kept front
      cases left : trim drops text with
      | nil =>
          have all := List.rdropWhile_eq_nil_iff.1 left
          rw [begins] at all
          simp [all first List.mem_cons_self] at kept
      | cons next more =>
          rw [left] at front
          rw [List.head?_cons, List.head?_cons, (List.cons_prefix_cons.1 front).1]

/-- A character that is not of the class is left as often as it was. -/
theorem count_trim
    {drops : Char → Bool}
    {character : Char}
    (kept : drops character = false)
    (text : List Char) :
    (trim drops text).count character = text.count character := by
  have cut (text : List Char) :
      (text.dropWhile drops).count character = text.count character := by
    have none : (text.takeWhile drops).count character = 0 := by
      refine List.count_eq_zero.2 fun inside => ?_
      cases kept.symm.trans (List.mem_takeWhile_imp inside)
    have whole := congrArg (List.count character)
      (List.takeWhile_append_dropWhile (p := drops) (l := text))
    rwa [List.count_append, none, Nat.zero_add] at whole
  rw [trim, List.count_reverse, cut, List.count_reverse, cut]

/-- Blanks in front of an expression do not matter when it is cut. -/
theorem trim_dropWhile_isBlank (text : List Char) :
    trim isSeparator (text.dropWhile isBlank) = trim isSeparator text := by
  have dropped :
      ∀ character ∈ text.takeWhile isBlank, isSeparator character = true :=
    fun character inside =>
      isSeparator_of_isBlank character (List.mem_takeWhile_imp inside)
  have same := trim_append_of_drops dropped (text.dropWhile isBlank)
  rw [List.takeWhile_append_dropWhile] at same
  exact same.symm

/-- A prefix of one class is determined by the text when another class goes on
behind it. -/
theorem takeWhile_append_of_head
    {holds : Char → Bool}
    {front rest : List Char}
    (inside : ∀ character ∈ front, holds character = true)
    (outside : ∀ character ∈ rest.head?, holds character = false) :
    (front ++ rest).takeWhile holds = front ∧
      (front ++ rest).dropWhile holds = rest := by
  rw [List.takeWhile_append_of_pos inside, List.dropWhile_append_of_pos inside]
  cases rest with
  | nil => simp
  | cons character rest => simp [outside character rfl]

/-- A text between characters of the class is what is left when it is cut, as long
as it neither begins nor ends with one. -/
theorem trim_between
    {drops : Char → Bool}
    {front text back : List Char}
    (frontDropped : ∀ character ∈ front, drops character = true)
    (backDropped : ∀ character ∈ back, drops character = true)
    (nonempty : text ≠ [])
    (first : ∀ character ∈ text.head?, drops character = false)
    (last : ∀ character ∈ text.getLast?, drops character = false) :
    trim drops (front ++ text ++ back) = text := by
  have cutFront : (front ++ (text ++ back)).dropWhile drops = text ++ back := by
    refine (takeWhile_append_of_head frontDropped ?_).2
    rwa [List.head?_append_of_ne_nil text nonempty]
  have cutBack : (back.reverse ++ text.reverse).dropWhile drops = text.reverse := by
    refine (takeWhile_append_of_head ?_ ?_).2
    · simpa using backDropped
    · rwa [List.head?_reverse]
  rw [trim, List.append_assoc, cutFront, List.reverse_append, cutBack,
    List.reverse_reverse]

/-- Of a text that is cut, only the back loses anything when the front begins and ends
with characters that are kept. -/
theorem trim_append
    {drops : Char → Bool}
    {front : List Char}
    (nonempty : front ≠ [])
    (first : ∀ character ∈ front.head?, drops character = false)
    (last : ∀ character ∈ front.getLast?, drops character = false)
    (back : List Char) :
    trim drops (front ++ back) = front ++ back.rdropWhile drops := by
  have cutFront : (front ++ back).dropWhile drops = front ++ back :=
    (@takeWhile_append_of_head drops [] (front ++ back) (by simp)
      (by rwa [List.head?_append_of_ne_nil front nonempty])).2
  have cutBack : front.reverse.dropWhile drops = front.reverse :=
    (@takeWhile_append_of_head drops [] front.reverse (by simp)
      (by rwa [List.head?_reverse])).2
  rw [trim, cutFront, List.reverse_append, List.dropWhile_append, cutBack]
  split
  · next nothing => simp [List.rdropWhile, List.isEmpty_iff.1 nothing]
  · simp [List.rdropWhile]

/-- Nothing is cut from a text without characters of the class. -/
theorem trim_eq_self
    {drops : Char → Bool}
    {text : List Char}
    (kept : ∀ character ∈ text, drops character = false) :
    trim drops text = text := by
  by_cases nonempty : text = []
  · rw [nonempty, trim_nil]
  · have whole :=
      @trim_between drops [] text [] (by simp) (by simp) nonempty
        (fun character first => kept character (List.mem_of_mem_head? first))
        (fun character last => kept character (List.mem_of_getLast? last))
    rwa [List.nil_append, List.append_nil] at whole

/-- Where a character stands for the last time is where a text can be split at it. -/
theorem split_at_last
    {character : Char}
    {front back otherFront otherBack : List Char}
    (absent : character ∉ back)
    (otherAbsent : character ∉ otherBack)
    (same : front ++ character :: back = otherFront ++ character :: otherBack) :
    front = otherFront ∧ back = otherBack := by
  have behind {front back : List Char} (absent : character ∉ back) :
      (front ++ character :: back).reverse.takeWhile (· ≠ character) = back.reverse := by
    rw [List.reverse_append, List.reverse_cons, List.append_assoc, List.singleton_append]
    refine (takeWhile_append_of_head (fun found inside => ?_) ?_).1
    · rw [decide_eq_true_eq]
      rintro rfl
      exact absent (List.mem_reverse.1 inside)
    · rintro _ ⟨⟩
      simp
  have sameBack : back = otherBack := by
    rw [← List.reverse_inj, ← behind absent, same, behind otherAbsent]
  subst sameBack
  exact ⟨List.append_cancel_right same, rfl⟩

end Text
end Templating
