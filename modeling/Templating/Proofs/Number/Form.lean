import Templating.Proofs.Number.Spelling
import Templating.Proofs.Text.Pattern
import Templating.Value.Basic

/-!
# Numeric texts are read as doubles

The texts that have the form of a numeral are the spellings of numerals, and each of them
is read as a double, the one of its numeral. So every numeric value is a number.
-/

namespace Templating
namespace Numeral

open Text.Pattern

variable {text : List Char}

theorem describes_signForm_iff :
    signForm.Describes text ↔ ∃ negative, Sign negative text := by
  simp only [signForm, describes_optional_iff, describes_one_iff, Bool.or_eq_true,
    decide_eq_true_eq]
  constructor
  · rintro (⟨_, rfl | rfl, rfl⟩ | rfl)
    · exact ⟨false, .plus⟩
    · exact ⟨true, .minus⟩
    · exact ⟨false, .absent⟩
  · rintro ⟨_, _ | _ | _⟩ <;> simp

theorem describes_digitsForm_iff :
    digitsForm.Describes text ↔
      ∃ whole fraction point,
        (∀ character ∈ whole, character.isDigit = true) ∧ Point fraction point ∧
          (whole ≠ [] ∨ fraction ≠ []) ∧ text = whole ++ point := by
  simp only [digitsForm, describes_either_iff, describes_behind_iff, describes_some_iff,
    describes_optional_iff, describes_one_iff, describes_many_iff, decide_eq_true_eq]
  constructor
  · rintro (⟨whole, point, ⟨nonempty, digits⟩, pointed, rfl⟩ |
      ⟨_, fraction, ⟨_, rfl, rfl⟩, ⟨nonempty, digits⟩, rfl⟩)
    · rcases pointed with ⟨_, fraction, ⟨_, rfl, rfl⟩, fractionDigits, rfl⟩ | rfl
      · exact ⟨whole, fraction, _, digits, .present fractionDigits, .inl nonempty, rfl⟩
      · exact ⟨whole, [], [], digits, .absent, .inl nonempty, rfl⟩
    · exact ⟨[], fraction, _, by simp, .present digits, .inr nonempty, rfl⟩
  · rintro ⟨whole, fraction, point, digits, pointed, nonempty, rfl⟩
    by_cases noWhole : whole = []
    · subst noWhole
      have some := nonempty.resolve_left (fun whole => whole rfl)
      cases pointed with
      | absent => exact absurd rfl some
      | present fractionDigits =>
          exact .inr ⟨['.'], fraction, ⟨'.', rfl, rfl⟩, ⟨some, fractionDigits⟩, rfl⟩
    · refine .inl ⟨whole, point, ⟨noWhole, digits⟩, ?_, rfl⟩
      cases pointed with
      | absent => exact .inr rfl
      | present fractionDigits =>
          exact .inl ⟨['.'], fraction, ⟨'.', rfl, rfl⟩, fractionDigits, rfl⟩

theorem describes_optional_exponentForm_iff :
    (optional exponentForm).Describes text ↔ ∃ exponent, Power exponent text := by
  simp only [exponentForm, Text.Pattern.sequence, List.foldr_cons, List.foldr_nil,
    describes_optional_iff, describes_behind_iff, describes_one_iff, describes_some_iff,
    describes_nothing_iff, describes_signForm_iff, Bool.or_eq_true, decide_eq_true_eq]
  constructor
  · rintro (⟨_, _, ⟨mark, isMark, rfl⟩, ⟨sign, _, ⟨negative, signed⟩,
      ⟨digits, _, ⟨nonempty, allDigits⟩, rfl, rfl⟩, rfl⟩, rfl⟩ | rfl)
    · have powered := @Power.present mark negative sign digits isMark signed allDigits nonempty
      exact ⟨_, by simpa using powered⟩
    · exact ⟨0, .absent⟩
  · rintro ⟨_, _ | ⟨isMark, signed, allDigits, nonempty⟩⟩
    · exact .inr rfl
    · next mark negative sign digits =>
        exact .inl ⟨[mark], sign ++ digits, ⟨mark, isMark, rfl⟩,
          ⟨sign, digits, ⟨negative, signed⟩,
            ⟨digits, [], ⟨nonempty, allDigits⟩, rfl, (List.append_nil _).symm⟩, rfl⟩, rfl⟩

/-- A text has the form of a numeral exactly when it spells one. -/
theorem isNumeral_iff : isNumeral text = true ↔ ∃ numeral : Numeral, numeral.Spells text := by
  rw [isNumeral, isMatch_iff, form, Text.Pattern.sequence]
  simp only [List.foldr_cons, List.foldr_nil, describes_behind_iff, describes_many_iff,
    describes_nothing_iff, describes_signForm_iff, describes_digitsForm_iff,
    describes_optional_exponentForm_iff]
  constructor
  · rintro ⟨before, _, blankBefore, ⟨sign, _, ⟨negative, signed⟩,
      ⟨_, _, ⟨whole, fraction, point, digits, pointed, nonempty, rfl⟩,
        ⟨power, _, ⟨exponent, powered⟩, ⟨after, _, blankAfter, rfl, rfl⟩, rfl⟩, rfl⟩, rfl⟩, rfl⟩
    refine ⟨⟨negative, whole, fraction, exponent⟩, ?_⟩
    have spelling :=
      Spells.mk blankBefore
        (@Plain.mk ⟨negative, whole, fraction, exponent⟩ sign point power signed digits
          pointed powered nonempty)
        blankAfter
    simpa using spelling
  · rintro ⟨numeral, ⟨blankBefore, ⟨signed, digits, pointed, powered, nonempty⟩, blankAfter⟩⟩
    next before after sign point power =>
      exact ⟨before, _, blankBefore,
        ⟨sign, _, ⟨_, signed⟩,
          ⟨numeral.whole ++ point, _, ⟨_, _, point, digits, pointed, nonempty, rfl⟩,
            ⟨power, after, ⟨_, powered⟩,
              ⟨after, [], blankAfter, rfl, (List.append_nil _).symm⟩, rfl⟩, rfl⟩, rfl⟩,
        by simp⟩

/-! ## Spellings have no groups of digits -/

theorem ungrouped?_eq_self (noGroups : '_' ∉ text) : ungrouped? text = some text := by
  fun_induction ungrouped? text with
  | case1 => rfl
  | case2 => simp at noGroups
  | case3 => simp at noGroups
  | case4 => simp at noGroups
  | case5 character rest _ _ inductionHypothesis =>
      rw [inductionHypothesis fun inside => noGroups (List.mem_cons_of_mem _ inside)]
      rfl

theorem underscore_notMem_of_digits (allDigits : ∀ character ∈ text, character.isDigit = true) :
    '_' ∉ text :=
  fun inside => absurd (allDigits _ inside) (by decide)

theorem Sign.underscore_notMem {negative : Bool} (signed : Sign negative text) : '_' ∉ text := by
  cases signed <;> decide

theorem Point.underscore_notMem {fraction : List Char} (pointed : Point fraction text) :
    '_' ∉ text := by
  cases pointed with
  | absent => exact List.not_mem_nil
  | present digits => simpa using underscore_notMem_of_digits digits

theorem Power.underscore_notMem {exponent : Int} (powered : Power exponent text) :
    '_' ∉ text := by
  cases powered with
  | absent => exact List.not_mem_nil
  | present isMark signed allDigits =>
      simp only [List.mem_cons, List.mem_append, not_or]
      refine ⟨?_, signed.underscore_notMem, underscore_notMem_of_digits allDigits⟩
      rcases isMark with rfl | rfl <;> decide

variable {numeral : Numeral}

theorem Plain.underscore_notMem (plain : numeral.Plain text) : '_' ∉ text := by
  obtain ⟨signed, digits, pointed, powered, -⟩ := plain
  simp only [List.mem_append, not_or]
  exact ⟨signed.underscore_notMem, underscore_notMem_of_digits digits,
    pointed.underscore_notMem, powered.underscore_notMem⟩

/-- What spells a numeral is read as the double of this numeral. -/
theorem Spells.ofText? (spells : numeral.Spells text) :
    Double.ofText? text = some numeral.toDouble := by
  have read := read?_eq_some_iff.2 spells
  rw [read?] at read
  have noGroups := (readCore?_eq_some_iff.1 read).underscore_notMem
  simp only [Double.ofText?, ungrouped?_eq_self noGroups, Option.bind_some, read]

/-- A text of the form of a numeral is read as a double. -/
theorem ofText?_isSome_of_isNumeral (numeric : isNumeral text = true) :
    (Double.ofText? text).isSome := by
  obtain ⟨numeral, spells⟩ := isNumeral_iff.1 numeric
  rw [spells.ofText?]
  rfl

end Numeral

namespace Value

/-- Every numeric value is a number or is read as one. -/
theorem reading?_isSome_of_isNumeric
    {value : Value}
    (numeric : value.isNumeric = true) :
    value.reading?.isSome := by
  cases value with
  | integer whole => rfl
  | double double => rfl
  | string text =>
      rw [reading?, Option.isSome_map]
      exact Numeral.ofText?_isSome_of_isNumeral numeric
  | _ => cases numeric

theorem isNumeric_iff (value : Value) :
    value.isNumeric = true ↔ ∃ number, value.number? = some number := by
  rw [number?, ← Option.isSome_iff_exists]
  constructor
  · intro numeric
    rw [if_pos numeric]
    exact reading?_isSome_of_isNumeric numeric
  · intro found
    by_contra notNumeric
    rw [if_neg notNumeric] at found
    cases found

@[simp] theorem number?_integer (whole : Int) :
    (Value.integer whole).number? = some (.integer whole) := rfl

@[simp] theorem number?_double (double : Double) :
    (Value.double double).number? = some (.double double) := rfl

/-- The number of a string is the double of the numeral that it spells. -/
theorem number?_string (text : String) :
    (Value.string text).number? =
      (Numeral.read? text.toList).map fun numeral => .double numeral.toDouble := by
  rw [number?, isNumeric, reading?]
  cases read : Numeral.read? text.toList with
  | none =>
      rw [if_neg]
      · rfl
      · intro numeric
        obtain ⟨numeral, spells⟩ := Numeral.isNumeral_iff.1 numeric
        cases read.symm.trans (Numeral.read?_eq_some_iff.2 spells)
  | some numeral =>
      have spells := Numeral.read?_eq_some_iff.1 read
      rw [if_pos (Numeral.isNumeral_iff.2 ⟨numeral, spells⟩), spells.ofText?]
      rfl

end Value
end Templating
