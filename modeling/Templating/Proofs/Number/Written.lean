import Templating.Proofs.Number.Form
import Templating.Proofs.Outcome
import Templating.Proofs.Token.Lexemes

/-!
# Numbers in expressions

The text of a number token is a run of digits, or two with a point between them.
Every such text is a numeral, so that a number token is always read as a double.
-/

namespace Templating
namespace Numeral

/-- Digits, and behind a point the further digits, if there are any. -/
def written (whole fraction : List Char) : List Char :=
  whole ++ if fraction = [] then [] else '.' :: fraction

theorem of_mem_written
    {whole fraction : List Char}
    (wholeDigits : ∀ character ∈ whole, character.isDigit = true)
    (fractionDigits : ∀ character ∈ fraction, character.isDigit = true) :
    ∀ character ∈ written whole fraction, character.isDigit = true ∨ character = '.' := by
  intro character inside
  rcases List.mem_append.1 inside with inWhole | behind
  · exact .inl (wholeDigits character inWhole)
  · split at behind
    · cases behind
    · rcases List.mem_cons.1 behind with isPoint | inFraction
      · exact .inr isPoint
      · exact .inl (fractionDigits character inFraction)

/-- A run of digits, or two with a point between them, is a numeral of just these
digits. -/
theorem read?_written
    {whole fraction : List Char}
    (nonempty : whole ≠ [])
    (wholeDigits : ∀ character ∈ whole, character.isDigit = true)
    (fractionDigits : ∀ character ∈ fraction, character.isDigit = true) :
    read? (written whole fraction) =
      some { negative := false, whole, fraction, exponent := 0 } := by
  have kept : ∀ character ∈ written whole fraction, Text.isBlank character = false := by
    intro character inside
    rcases of_mem_written wholeDigits fractionDigits character inside with digit | rfl
    · exact Text.not_isBlank_of_isWord (Text.isWord_of_isDigit digit)
    · decide
  have unsigned : readSign (written whole fraction) = (false, written whole fraction) := by
    obtain ⟨first, others, rfl⟩ := List.exists_cons_of_ne_nil nonempty
    have digit := wholeDigits first List.mem_cons_self
    unfold readSign written
    split
    · next begins =>
        cases begins
        cases digit
    · next begins =>
        cases begins
        cases digit
    · rfl
  have ends : ∀ character ∈ (if fraction = [] then [] else '.' :: fraction).head?,
      Char.isDigit character = false := by
    intro character first
    split at first
    · cases first
    · cases first
      decide
  obtain ⟨front, back⟩ := Text.takeWhile_append_of_head wholeDigits ends
  rw [read?, Text.trim_eq_self kept]
  unfold readCore?
  simp only [unsigned]
  rw [written, front, back]
  by_cases pointless : fraction = []
  · simp [pointless, readFraction, nonempty, readExponent?]
  · simp [pointless, readFraction, nonempty, readExponent?,
      List.takeWhile_eq_self_iff.2 fractionDigits,
      List.dropWhile_eq_nil_iff.2 fractionDigits]

/-- A run of digits, or two with a point between them, is read as the double of its
numeral. -/
theorem ofText?_written
    {whole fraction : List Char}
    (nonempty : whole ≠ [])
    (wholeDigits : ∀ character ∈ whole, character.isDigit = true)
    (fractionDigits : ∀ character ∈ fraction, character.isDigit = true) :
    Double.ofText? (written whole fraction) =
      some (toDouble { negative := false, whole, fraction, exponent := 0 }) :=
  (read?_eq_some_iff.1 (read?_written nonempty wholeDigits fractionDigits)).ofText?

end Numeral

namespace Token

/-- A run of digits, or two with a point between them, is a lexeme of a number. -/
theorem lexical_written
    {whole fraction : List Char}
    (nonempty : whole ≠ [])
    (wholeDigits : ∀ character ∈ whole, character.isDigit = true)
    (fractionDigits : ∀ character ∈ fraction, character.isDigit = true) :
    Lexical (Numeral.written whole fraction) .number (Numeral.written whole fraction) := by
  obtain ⟨first, others, rfl⟩ := List.exists_cons_of_ne_nil nonempty
  cases fraction with
  | nil =>
      rw [Numeral.written, if_pos rfl, List.append_nil]
      exact .whole wholeDigits
  | cons next further =>
      rw [Numeral.written, if_neg (List.cons_ne_nil _ _), List.cons_append]
      exact .decimal wholeDigits fractionDigits

/-- A lexeme of a number is read as a double. -/
theorem Lexical.ofText?_isSome
    {spelling text : List Char}
    (lexical : Lexical spelling .number text) :
    (Double.ofText? text).isSome := by
  generalize isNumber : TokenKind.number = kind at lexical
  cases lexical with
  | string closes => cases isNumber
  | operator isOperator =>
      subst isNumber
      simp [operators] at isOperator
  | @whole first others digits =>
      have read :=
        @Numeral.ofText?_written (first :: others) [] (List.cons_ne_nil _ _) digits (by simp)
      rw [Numeral.written, if_pos rfl, List.append_nil] at read
      rw [read]
      rfl
  | @decimal first next others further digits decimals =>
      have read :=
        @Numeral.ofText?_written (first :: others) (next :: further) (List.cons_ne_nil _ _)
          digits decimals
      rw [Numeral.written, if_neg (List.cons_ne_nil _ _), List.cons_append] at read
      rw [read]
      rfl
  | keyword isKeyword =>
      subst isNumber
      simp [TokenKind.keywords] at isKeyword
  | name begins goesOn noKeyword => cases isNumber

/-- Every number token of an expression is read as a double. -/
theorem ofText?_of_scanFrom
    {source : String}
    {position : Nat}
    {text : List Char}
    {tokens : List Token}
    (scanned : scanFrom source position text = .ok tokens) :
    ∀ token ∈ tokens, token.kind = .number →
      (Double.ofText? token.text.toList).isSome := by
  fun_induction scanFrom source position text generalizing tokens with
  | case1 =>
      cases scanned
      simp
  | case2 _ _ _ _ inductionHypothesis => exact inductionHypothesis scanned
  | case3 => cases scanned
  | case4 position first rest _ found read inductionHypothesis =>
      obtain ⟨others, scannedOthers, made⟩ := (bind_eq_ok ..).1 scanned
      cases made
      refine List.forall_mem_cons.2 ⟨fun number => ?_, inductionHypothesis scannedOthers⟩
      obtain ⟨more, behind, -, -, lexical⟩ := lexical_of_lexeme read
      dsimp only at number
      rw [number] at lexical
      rw [String.toList_ofList]
      exact lexical.ofText?_isSome

end Token
end Templating
