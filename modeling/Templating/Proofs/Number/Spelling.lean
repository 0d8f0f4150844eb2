import Mathlib.Data.List.DropRight
import Templating.Number.Numeral
import Templating.Proofs.Text.Classes

/-!
# The spelling of numerals

A numeral is spelled with blanks around it, a sign that may be missing, digits with a point
among them or at one of their ends, and an exponent that may be missing. There is a digit
in front of the point or behind it. Reading accepts just these texts, and each one is read
as the only numeral that it spells.
-/

namespace Templating
namespace Numeral

/-- A sign, which may be missing. -/
inductive Sign : (negative : Bool) → List Char → Prop
  | minus : Sign true ['-']
  | plus : Sign false ['+']
  | absent : Sign false []

/-- A point with the digits behind it, or nothing. -/
inductive Point : (fraction : List Char) → List Char → Prop
  | absent : Point [] []
  | present
      {fraction : List Char}
      (digits : ∀ character ∈ fraction, character.isDigit = true) :
      Point fraction ('.' :: fraction)

/-- An exponent behind its mark, or nothing. -/
inductive Power : (exponent : Int) → List Char → Prop
  | absent : Power 0 []
  | present
      {mark : Char}
      {negative : Bool}
      {sign digits : List Char}
      (isMark : mark = 'e' ∨ mark = 'E')
      (signed : Sign negative sign)
      (allDigits : ∀ character ∈ digits, character.isDigit = true)
      (nonempty : digits ≠ []) :
      Power (if negative then -(digitsValue digits : Int) else digitsValue digits)
        (mark :: (sign ++ digits))

/-- A text spells a numeral without blanks around it. -/
inductive Plain (numeral : Numeral) : List Char → Prop
  | mk
      {sign point power : List Char}
      (signed : Sign numeral.negative sign)
      (digits : ∀ character ∈ numeral.whole, character.isDigit = true)
      (pointed : Point numeral.fraction point)
      (powered : Power numeral.exponent power)
      (nonempty : numeral.whole ≠ [] ∨ numeral.fraction ≠ []) :
      Plain numeral (sign ++ (numeral.whole ++ (point ++ power)))

/-- A text spells a numeral. -/
inductive Spells (numeral : Numeral) : List Char → Prop
  | mk
      {before text after : List Char}
      (blankBefore : ∀ character ∈ before, Text.isBlank character = true)
      (plain : numeral.Plain text)
      (blankAfter : ∀ character ∈ after, Text.isBlank character = true) :
      Spells numeral (before ++ text ++ after)

theorem not_isBlank_of_isDigit
    {character : Char}
    (digit : character.isDigit = true) :
    Text.isBlank character = false :=
  Text.not_isBlank_of_isWord (Text.isWord_of_isDigit digit)

theorem ne_of_isDigit
    {character other : Char}
    (digit : character.isDigit = true)
    (noDigit : other.isDigit = false) :
    character ≠ other := by
  rintro rfl
  exact Bool.false_ne_true (noDigit.symm.trans digit)

variable {negative : Bool} {sign point power fraction rest : List Char} {exponent : Int}

/-! ## The parts of a numeral have no blanks and end where the next one begins -/

theorem Sign.not_isBlank (signed : Sign negative sign) :
    ∀ character ∈ sign, Text.isBlank character = false := by
  cases signed <;> simp [Text.isBlank]

theorem Point.not_isBlank (pointed : Point fraction point) :
    ∀ character ∈ point, Text.isBlank character = false := by
  cases pointed with
  | absent => simp
  | present digits =>
      exact List.forall_mem_cons.2
        ⟨by decide, fun character inside => not_isBlank_of_isDigit (digits character inside)⟩

theorem Power.not_isBlank (powered : Power exponent power) :
    ∀ character ∈ power, Text.isBlank character = false := by
  cases powered with
  | absent => simp
  | present isMark signed allDigits nonempty =>
      refine List.forall_mem_cons.2 ⟨by rcases isMark with rfl | rfl <;> decide, ?_⟩
      exact List.forall_mem_append.2 ⟨signed.not_isBlank,
        fun character inside => not_isBlank_of_isDigit (allDigits character inside)⟩

theorem Point.allDigits (pointed : Point fraction point) :
    ∀ character ∈ fraction, character.isDigit = true := by
  cases pointed with
  | absent => simp
  | present digits => exact digits

theorem Point.eq_nil (pointed : Point fraction []) : fraction = [] := by
  cases pointed
  rfl

/-- An exponent begins neither with a digit nor with a point. -/
theorem Power.head?
    (powered : Power exponent power) :
    ∀ character ∈ power.head?, character.isDigit = false ∧ character ≠ '.' := by
  cases powered with
  | absent => simp
  | present isMark =>
      rintro _ ⟨⟩
      rcases isMark with rfl | rfl <;> decide

/-- Behind the digits in front of the point no digit follows at once. -/
theorem Point.head?
    (pointed : Point fraction point)
    (powered : Power exponent power) :
    ∀ character ∈ (point ++ power).head?, character.isDigit = false := by
  cases pointed with
  | absent => exact fun character first => (powered.head? character first).1
  | present =>
      rintro _ ⟨⟩
      decide

/-- The digits of a numeral and its point do not begin with a sign. -/
theorem Point.not_sign
    {whole : List Char}
    (pointed : Point fraction point)
    (power : List Char)
    (digits : ∀ character ∈ whole, character.isDigit = true)
    (nonempty : whole ≠ [] ∨ fraction ≠ []) :
    ∀ character ∈ (whole ++ (point ++ power)).head?, character ≠ '-' ∧ character ≠ '+' := by
  cases whole with
  | nil =>
      cases pointed with
      | absent => simp at nonempty
      | present =>
          rintro _ ⟨⟩
          decide
  | cons digit others =>
      rintro _ ⟨⟩
      have isDigit := digits digit List.mem_cons_self
      exact ⟨ne_of_isDigit isDigit (by decide), ne_of_isDigit isDigit (by decide)⟩

/-! ## Reading the parts -/

theorem readSign_append
    (signed : Sign negative sign)
    (unsigned : ∀ character ∈ rest.head?, character ≠ '-' ∧ character ≠ '+') :
    readSign (sign ++ rest) = (negative, rest) := by
  cases signed with
  | minus => rfl
  | plus => rfl
  | absent =>
      rw [List.nil_append]
      unfold readSign
      split
      · exact absurd rfl (unsigned '-' rfl).1
      · exact absurd rfl (unsigned '+' rfl).2
      · rfl

theorem exists_sign (text : List Char) :
    ∃ sign, Sign (readSign text).1 sign ∧ text = sign ++ (readSign text).2 := by
  unfold readSign
  split
  · exact ⟨['-'], .minus, rfl⟩
  · exact ⟨['+'], .plus, rfl⟩
  · exact ⟨[], .absent, rfl⟩

theorem readFraction_append
    (pointed : Point fraction point)
    (powered : Power exponent power) :
    readFraction (point ++ power) = (fraction, power) := by
  cases pointed with
  | absent =>
      rw [List.nil_append]
      unfold readFraction
      split
      · exact absurd rfl (powered.head? '.' rfl).2
      · rfl
  | present digits =>
      obtain ⟨front, back⟩ := Text.takeWhile_append_of_head digits
        fun character first => (powered.head? character first).1
      rw [List.cons_append, readFraction, front, back]

theorem exists_point (text : List Char) :
    ∃ point, Point (readFraction text).1 point ∧ text = point ++ (readFraction text).2 := by
  unfold readFraction
  split
  · next rest =>
      refine ⟨_, .present fun character => List.mem_takeWhile_imp, ?_⟩
      rw [List.cons_append, List.takeWhile_append_dropWhile]
  · exact ⟨[], .absent, rfl⟩

/-- An exponent is read as the number that its digits name behind their sign. -/
theorem readExponent?_eq_some_iff (text : List Char) (exponent : Int) :
    readExponent? text = some exponent ↔ Power exponent text := by
  constructor
  · intro read
    unfold readExponent? at read
    split at read
    · cases read
      exact .absent
    · next mark rest =>
        obtain ⟨sign, signed, split⟩ := exists_sign rest
        generalize readSign rest = parts at read signed split
        obtain ⟨negative, digits⟩ := parts
        simp only [Bool.and_eq_true, Bool.or_eq_true, decide_eq_true_eq, List.all_eq_true,
          Option.ite_none_right_eq_some, Option.some.injEq] at read
        obtain ⟨⟨⟨isMark, allDigits⟩, nonempty⟩, rfl⟩ := read
        subst split
        exact .present isMark signed allDigits nonempty
  · rintro (_ | ⟨isMark, signed, allDigits, nonempty⟩)
    · rfl
    · next mark negative sign digits =>
        have unsigned : ∀ character ∈ digits.head?, character ≠ '-' ∧ character ≠ '+' :=
          fun character first =>
            have digit := allDigits character (List.mem_of_mem_head? first)
            ⟨ne_of_isDigit digit (by decide), ne_of_isDigit digit (by decide)⟩
        have noMore : digits.all Char.isDigit = true := List.all_eq_true.2 allDigits
        simp [readExponent?, readSign_append signed unsigned, isMark, noMore, nonempty]

variable {numeral : Numeral} {text : List Char}

theorem Plain.spells (plain : numeral.Plain text) : numeral.Spells text := by
  have spelling := @Spells.mk numeral [] text [] (by simp) plain (by simp)
  simpa using spelling

theorem Spells.allDigits (spells : numeral.Spells text) :
    ∀ character ∈ numeral.whole ++ numeral.fraction, character.isDigit = true := by
  obtain ⟨-, ⟨-, digits, pointed, -, -⟩, -⟩ := spells
  exact List.forall_mem_append.2 ⟨digits, pointed.allDigits⟩

theorem Plain.not_isBlank (plain : numeral.Plain text) :
    ∀ character ∈ text, Text.isBlank character = false := by
  obtain ⟨signed, digits, pointed, powered, -⟩ := plain
  simp only [List.forall_mem_append]
  exact ⟨signed.not_isBlank, fun character inside => not_isBlank_of_isDigit (digits _ inside),
    pointed.not_isBlank, powered.not_isBlank⟩

theorem Plain.ne_nil (plain : numeral.Plain text) : text ≠ [] := by
  obtain ⟨-, -, pointed, -, nonempty⟩ := plain
  intro empty
  simp only [List.append_eq_nil_iff] at empty
  obtain ⟨-, noWhole, rfl, -⟩ := empty
  exact nonempty.elim (fun whole => whole noWhole) fun fraction => fraction pointed.eq_nil

/-- Without blanks around it, a text is read as the numeral that it spells. -/
theorem readCore?_eq_some_iff : readCore? text = some numeral ↔ numeral.Plain text := by
  constructor
  · intro read
    unfold readCore? at read
    obtain ⟨sign, signed, split⟩ := exists_sign text
    generalize readSign text = parts at read signed split
    obtain ⟨negative, unsigned⟩ := parts
    obtain ⟨point, pointed, pointSplit⟩ := exists_point (unsigned.dropWhile Char.isDigit)
    dsimp only at read signed split
    generalize readFraction (unsigned.dropWhile Char.isDigit) = parts
      at read pointed pointSplit
    obtain ⟨fraction, power⟩ := parts
    simp only [Option.ite_none_left_eq_some, not_and_or, Option.map_eq_some_iff,
      readExponent?_eq_some_iff] at read
    obtain ⟨nonempty, exponent, powered, rfl⟩ := read
    have parts :
        text = sign ++ (unsigned.takeWhile Char.isDigit ++ (point ++ power)) := by
      rw [split, ← pointSplit, List.takeWhile_append_dropWhile]
    rw [parts]
    exact .mk signed (fun character => List.mem_takeWhile_imp) pointed powered nonempty
  · rintro ⟨signed, digits, pointed, powered, nonempty⟩
    next sign point power =>
      have unsigned := pointed.not_sign power digits nonempty
      obtain ⟨front, back⟩ :=
        Text.takeWhile_append_of_head digits (pointed.head? powered)
      have exponent := (readExponent?_eq_some_iff power numeral.exponent).2 powered
      unfold readCore?
      simp only [readSign_append signed unsigned, front, back,
        readFraction_append pointed powered, exponent]
      rw [if_neg (not_and_or.2 nonempty)]
      rfl

/-- A text is a numeral exactly when it is read as one. -/
theorem read?_eq_some_iff : read? text = some numeral ↔ numeral.Spells text := by
  rw [read?, readCore?_eq_some_iff]
  constructor
  · intro plain
    have cut := List.takeWhile_append_dropWhile (p := Text.isBlank) (l := text)
    rw [← List.rdropWhile_append_rtakeWhile (p := Text.isBlank)
      (l := text.dropWhile Text.isBlank), ← List.append_assoc] at cut
    rw [← cut]
    exact .mk (fun character => List.mem_takeWhile_imp) plain
      fun character => List.mem_rtakeWhile_imp
  · rintro ⟨blankBefore, plain, blankAfter⟩
    rwa [Text.trim_between blankBefore blankAfter plain.ne_nil
      (fun character first => plain.not_isBlank character (List.mem_of_mem_head? first))
      (fun character last => plain.not_isBlank character (List.mem_of_getLast? last))]

end Numeral
end Templating
