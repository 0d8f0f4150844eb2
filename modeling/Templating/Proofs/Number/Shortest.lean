import Templating.Number.Shortest
import Templating.Proofs.Number.Reading

/-!
# The text of a double reads back

The decimal chosen for a magnitude is nearest to that magnitude and to no other one. Its
digits without the zeros at the end, laid out around their point or with an exponent, are a
numeral of the same number. So the text of a finite double is read as that double, its sign
included, and it always has a mark that no whole number has: a point or an exponent.
-/

namespace Templating

open Numeral (digitsValue)

/-- The number that a decimal is. -/
def Decimal.value (decimal : Decimal) : ℚ := decimal.coefficient * 10 ^ decimal.exponent

/-! ## The shortest decimal -/

namespace Magnitude

variable {magnitude : Magnitude}

/-- No magnitude overflows. -/
theorem exact_lt_overflow (magnitude : Magnitude) : magnitude.exact < Double.overflow := by
  have room : magnitude.significand < 2 ^ 53 := magnitude.significand_lt
  have largest : (magnitude.significand : ℚ) ≤ 2 ^ 53 - 1 := by
    exact_mod_cast (by omega : (magnitude.significand : ℤ) ≤ 2 ^ 53 - 1)
  rw [exact, units, Nat.pow_eq, Nat.cast_mul, Nat.cast_pow, Nat.cast_ofNat, mul_div_assoc]
  exact Double.mul_lt_overflow magnitude.exponent_le (by linarith) fun _ => by linarith

/-- A finite double is the one nearest to the number that it is. -/
theorem isNearest_exact (negative : Bool) (magnitude : Magnitude) :
    (Double.finite negative magnitude).IsNearest negative magnitude.exact :=
  .finite magnitude.exact_lt_overflow (.self magnitude)

theorem value_exactDecimal (magnitude : Magnitude) :
    magnitude.exactDecimal.value = magnitude.exact := by
  obtain ⟨power, isUnits, isPower⟩ :
      ∃ power, unitsInOne = Nat.pow 2 power ∧ power = 1074 := ⟨_, rfl, rfl⟩
  have split : (10 : ℚ) ^ power = 5 ^ power * 2 ^ power := by
    rw [← mul_pow]
    norm_num
  rw [Decimal.value, exactDecimal, exact, isUnits, ← isPower,
    show (-1074 : Int) = -(power : Int) by rw [isPower]; rfl, zpow_neg, zpow_natCast, split]
  simp only [Nat.pow_eq]
  push_cast
  field_simp

/-- The shortest decimal of a magnitude reads back as the magnitude. -/
theorem shortest_isNearest (negative : Bool) (magnitude : Magnitude) :
    (Double.finite negative magnitude).IsNearest negative magnitude.shortest.value := by
  unfold shortest
  dsimp only
  generalize (List.range 17).flatMap _ = candidates
  cases found : candidates.find? magnitude.isReadBackFrom with
  | none =>
      rw [Option.getD_none, value_exactDecimal]
      exact isNearest_exact ..
  | some decimal =>
      have readBack := List.find?_some found
      have nearest :=
        Double.ofDecimal_isNearest false decimal.coefficient decimal.exponent
      rw [isReadBackFrom, decide_eq_true_eq] at readBack
      rw [readBack] at nearest
      obtain ⟨bounded, nearest⟩ | _ := nearest
      exact .finite bounded nearest

/-- Zero is the only magnitude nearest to zero. -/
theorem IsNearest.units_eq_zero (nearest : magnitude.IsNearest 0) : magnitude.units = 0 := by
  have closer := nearest.nearest zero
  rw [exact_zero, sub_self, abs_zero, zero_sub, abs_neg,
    abs_nonpos_iff, exact, div_eq_zero_iff, Nat.cast_eq_zero] at closer
  exact closer.resolve_right unitsInOne_cast_pos.ne'

theorem shortest_value_ne_zero (nonzero : magnitude.units ≠ 0) :
    magnitude.shortest.value ≠ 0 := by
  intro zero
  obtain ⟨-, nearest⟩ | _ := shortest_isNearest false magnitude
  rw [zero] at nearest
  exact nonzero nearest.units_eq_zero

end Magnitude

/-! ## Its digits -/

theorem Numeral.digitsValue_zeros_append (count : Nat) (digits : List Char) :
    digitsValue (List.replicate count '0' ++ digits) = digitsValue digits := by
  rw [digitsValue_append, digitsValue, Nat.ofDigitChars_replicate_zero, Nat.mul_zero,
    Nat.zero_mul, Nat.zero_add]

theorem Numeral.digitsValue_append_zeros (digits : List Char) (count : Nat) :
    digitsValue (digits ++ List.replicate count '0') = digitsValue digits * 10 ^ count := by
  rw [digitsValue_append, digitsValue, digitsValue, Nat.ofDigitChars_replicate_zero,
    Nat.mul_zero, Nat.add_zero, List.length_replicate]

theorem Numeral.digitsValue_toDigits (number : Nat) :
    digitsValue (Nat.toDigits 10 number) = number :=
  Nat.ofDigitChars_toDigits (by decide) (by decide)

theorem isDigit_of_mem_replicate
    {count : Nat}
    {character : Char}
    (inside : character ∈ List.replicate count '0') :
    character.isDigit = true := by
  rw [List.eq_of_mem_replicate inside]
  decide

namespace Decimal

/-- Only zeros are left out of the digits of a decimal. -/
theorem toDigits_eq (decimal : Decimal) :
    ∃ zeros,
      Nat.toDigits 10 decimal.coefficient = decimal.digits ++ List.replicate zeros '0' := by
  have split := List.rdropWhile_append_rtakeWhile (p := (· = '0'))
    (l := Nat.toDigits 10 decimal.coefficient)
  generalize isEnd : List.rtakeWhile _ _ = zeros at split
  have allZeros : ∀ character ∈ zeros, character = '0' := by
    intro character inside
    rw [← isEnd] at inside
    simpa using List.mem_rtakeWhile_imp inside
  refine ⟨zeros.length, ?_⟩
  rw [← List.eq_replicate_of_mem allZeros]
  exact split.symm

theorem isDigit_of_mem_digits
    {decimal : Decimal}
    {character : Char}
    (inside : character ∈ decimal.digits) :
    character.isDigit = true := by
  obtain ⟨zeros, split⟩ := decimal.toDigits_eq
  refine Nat.isDigit_of_mem_toDigits (b := 10) (n := decimal.coefficient) (by decide)
    (by decide) ?_
  rw [split]
  exact List.mem_append_left _ inside

/-- The digits of a decimal and the place of their point give its value. -/
theorem digitsValue_digits (decimal : Decimal) :
    digitsValue decimal.digits * (10 : ℚ) ^ (decimal.place - decimal.digits.length) =
      decimal.value := by
  obtain ⟨zeros, split⟩ := decimal.toDigits_eq
  have coefficient : digitsValue decimal.digits * 10 ^ zeros = decimal.coefficient := by
    rw [← Numeral.digitsValue_append_zeros, ← split, Numeral.digitsValue_toDigits]
  have place : decimal.place - decimal.digits.length = zeros + decimal.exponent := by
    rw [Decimal.place, split, List.length_append, List.length_replicate]
    push_cast
    ring
  rw [place, zpow_add₀ (by norm_num), zpow_natCast, ← mul_assoc, value, ← coefficient]
  push_cast
  rfl

theorem digits_ne_nil {decimal : Decimal} (nonzero : decimal.value ≠ 0) :
    decimal.digits ≠ [] := by
  intro empty
  refine nonzero ?_
  rw [← digitsValue_digits, empty]
  simp [digitsValue]

end Decimal

/-! ## Their layout -/

namespace Layout

variable {negative : Bool} {sign digits : List Char}

theorem isDigit_of_mem_padded
    {width number : Nat}
    {character : Char}
    (inside : character ∈ padded width number) :
    character.isDigit = true := by
  rcases List.mem_append.1 inside with inFront | inDigits
  · exact isDigit_of_mem_replicate inFront
  · exact Nat.isDigit_of_mem_toDigits (by decide) (by decide) inDigits

theorem padded_ne_nil (width number : Nat) : padded width number ≠ [] := by
  intro empty
  exact Nat.toDigits_ne_nil (List.append_eq_nil_iff.1 empty).2

theorem digitsValue_padded (width number : Nat) :
    digitsValue (padded width number) = number := by
  dsimp only [padded]
  rw [Numeral.digitsValue_zeros_append, Numeral.digitsValue_toDigits]

/-- Digits around a point are a numeral of the number that they name. -/
theorem positional_denotes
    (signed : Numeral.Sign negative sign)
    (allDigits : ∀ character ∈ digits, character.isDigit = true)
    (nonempty : digits ≠ [])
    (place : Int) :
    Numeral.Denotes negative
      (digitsValue digits * 10 ^ (place - digits.length))
      (sign ++ positional digits place) := by
  have pointed {whole fraction : List Char}
      (wholeDigits : ∀ character ∈ whole, character.isDigit = true)
      (fractionDigits : ∀ character ∈ fraction, character.isDigit = true)
      (wholeNonempty : whole ≠ [])
      (same : (digitsValue digits : ℚ) * 10 ^ (place - digits.length) =
        digitsValue (whole ++ fraction) * 10 ^ (0 - fraction.length : Int)) :
      Numeral.Denotes negative (digitsValue digits * 10 ^ (place - digits.length))
        (sign ++ (whole ++ '.' :: fraction)) := by
    rw [same, ← List.append_nil ('.' :: fraction)]
    exact Numeral.denotes_append signed wholeDigits (.present fractionDigits) .absent
      (Or.inl wholeNonempty)
  unfold positional
  split_ifs with small inside
  · -- The number is less than one, and zeros stand between the point and its digits.
    refine @pointed ['0'] _ (fun _ => @isDigit_of_mem_replicate 1 _)
      (List.forall_mem_append.2 ⟨fun _ => isDigit_of_mem_replicate, allDigits⟩)
      (List.cons_ne_nil _ _) ?_
    rw [List.singleton_append, Numeral.digitsValue_cons, Nat.sub_self, Nat.zero_mul,
      Nat.zero_add, Numeral.digitsValue_zeros_append, List.length_append,
      List.length_replicate]
    congr 2
    omega
  · refine pointed (fun character inTake => allDigits character (List.mem_of_mem_take inTake))
      (fun character inDrop => allDigits character (List.mem_of_mem_drop inDrop)) ?_ ?_
    · rw [Ne, List.take_eq_nil_iff, not_or]
      exact ⟨by omega, nonempty⟩
    · rw [List.take_append_drop, List.length_drop]
      congr 2
      omega
  · refine pointed (List.forall_mem_append.2 ⟨allDigits, fun _ => isDigit_of_mem_replicate⟩)
      (fun _ => @isDigit_of_mem_replicate 1 _) (by simp [nonempty]) ?_
    have place_eq : place = (place.toNat - digits.length : Nat) + digits.length := by omega
    generalize place.toNat - digits.length = zeros at place_eq ⊢
    rw [place_eq, add_sub_cancel_right, zpow_natCast, List.append_assoc,
      show List.replicate zeros '0' ++ ['0'] = List.replicate (zeros + 1) '0' from
        List.replicate_succ'.symm,
      Numeral.digitsValue_append_zeros]
    push_cast
    simp [pow_succ, mul_assoc]

/-- Digits with an exponent are a numeral of the number that they name. -/
theorem scientific_denotes
    (layout : Layout)
    (signed : Numeral.Sign negative sign)
    (allDigits : ∀ character ∈ digits, character.isDigit = true)
    (nonempty : digits ≠ [])
    (place : Int) :
    Numeral.Denotes negative
      (digitsValue digits * 10 ^ (place - digits.length))
      (sign ++ layout.scientific digits place) := by
  have pointed :
      Numeral.Point (digits.drop 1)
        (if digits.length ≤ 1 then [] else '.' :: digits.drop 1) := by
    split_ifs with short
    · rw [List.drop_eq_nil_of_le short]
      exact .absent
    · exact .present fun character inDrop => allDigits character (List.mem_of_mem_drop inDrop)
  have powered (power : Int) :
      Numeral.Power power
        ('e' :: (if power < 0 then '-' else '+') ::
          padded layout.exponentDigits power.natAbs) := by
    have powerSigned : Numeral.Sign (power < 0) [if power < 0 then '-' else '+'] := by
      split_ifs with below
      · simpa [below] using Numeral.Sign.minus
      · simpa [below] using Numeral.Sign.plus
    have spelled := Numeral.Power.present (Or.inl rfl) powerSigned
      (fun _ => isDigit_of_mem_padded) (padded_ne_nil layout.exponentDigits power.natAbs)
    rw [digitsValue_padded] at spelled
    have size : (if decide (power < 0) = true then -(power.natAbs : Int) else power.natAbs) =
        power := by
      simp only [decide_eq_true_eq]
      omega
    rwa [size, List.singleton_append] at spelled
  have first : digits.take 1 ≠ [] := by simpa using nonempty
  have spelled := Numeral.denotes_append signed
    (fun character inTake => allDigits character (List.mem_of_mem_take inTake)) pointed
    (powered (place - 1)) (Or.inl first)
  have split : sign ++ layout.scientific digits place =
      sign ++ (digits.take 1 ++
        ((if digits.length ≤ 1 then [] else '.' :: digits.drop 1) ++
          'e' :: (if place - 1 < 0 then '-' else '+') ::
            padded layout.exponentDigits (place - 1).natAbs)) := by
    rw [scientific, List.append_assoc]
  have positive := List.length_pos_iff.2 nonempty
  have behind : place - 1 - ((digits.drop 1).length : Int) = place - digits.length := by
    rw [List.length_drop]
    omega
  rw [List.take_append_drop, behind] at spelled
  rw [split]
  exact spelled

/-- However digits are laid out, they are a numeral of the number that they name. -/
theorem arrange_denotes
    (layout : Layout)
    (signed : Numeral.Sign negative sign)
    (allDigits : ∀ character ∈ digits, character.isDigit = true)
    (nonempty : digits ≠ [])
    (place : Int) :
    Numeral.Denotes negative
      (digitsValue digits * 10 ^ (place - digits.length))
      (sign ++ layout.arrange digits place) := by
  unfold arrange
  split_ifs
  · exact positional_denotes signed allDigits nonempty place
  · exact layout.scientific_denotes signed allDigits nonempty place

/-- Digits that are laid out always have a point or an exponent. -/
theorem exists_mark (layout : Layout) (digits : List Char) (place : Int) :
    ∃ mark ∈ layout.arrange digits place, mark = '.' ∨ mark = 'e' := by
  unfold arrange
  split_ifs
  · refine ⟨'.', ?_, Or.inl rfl⟩
    unfold positional
    split_ifs <;> simp
  · exact ⟨'e', by simp [scientific], Or.inr rfl⟩

end Layout

/-! ## Reading it back -/

namespace Double

theorem sign_if (negative : Bool) :
    Numeral.Sign negative (if negative then ['-'] else []) := by
  cases negative
  · exact .absent
  · exact .minus

theorem toList_text (negative : Bool) (magnitude : Magnitude) :
    (text (.finite negative magnitude)).toList =
      (if negative then ['-'] else []) ++ magnitude.text := by
  rw [text, String.toList_ofList]
  cases negative <;> rfl

/-- The text of a magnitude is a numeral of a number to which the magnitude is nearest. -/
theorem exists_text_denotes (negative : Bool) (magnitude : Magnitude) :
    ∃ size : ℚ,
      (Double.finite negative magnitude).IsNearest negative size ∧
        Numeral.Denotes negative size (text (.finite negative magnitude)).toList := by
  rw [toList_text]
  by_cases zero : magnitude.units = 0
  · refine ⟨magnitude.exact, magnitude.isNearest_exact negative, ?_⟩
    have isZero (digit : Char) := @isDigit_of_mem_replicate 1 digit
    have spelled := @Numeral.denotes_append _ _ ['0'] ['0'] _ _ _ (sign_if negative)
      isZero (.present isZero) .absent (Or.inl (List.cons_ne_nil _ _))
    rw [Magnitude.text, if_pos zero, Magnitude.exact, zero, Nat.cast_zero, zero_div]
    simpa [digitsValue, Nat.ofDigitChars] using spelled
  · refine ⟨magnitude.shortest.value, magnitude.shortest_isNearest negative, ?_⟩
    have nonempty := Decimal.digits_ne_nil (Magnitude.shortest_value_ne_zero zero)
    rw [Magnitude.text, if_neg zero, ← Decimal.digitsValue_digits]
    exact layout.arrange_denotes (sign_if negative) (fun _ => Decimal.isDigit_of_mem_digits)
      nonempty _

/-- The text of a finite double is read as this double. -/
theorem read?_text (negative : Bool) (magnitude : Magnitude) :
    ∃ numeral,
      Numeral.read? (text (.finite negative magnitude)).toList = some numeral ∧
        numeral.toDouble = .finite negative magnitude := by
  obtain ⟨size, nearest, denotes⟩ := exists_text_denotes negative magnitude
  exact denotes.exists_read nearest

/-- The text of a double has a character that no whole number has. -/
theorem exists_mark_text (double : Double) :
    ∃ mark ∈ double.text.toList, mark.isDigit = false ∧ mark ≠ '-' := by
  rcases double with _ | negative | ⟨negative, magnitude⟩
  · exact ⟨'n', by decide⟩
  · exact ⟨'i', by cases negative <;> decide⟩
  · rw [toList_text, Magnitude.text]
    by_cases zero : magnitude.units = 0
    · exact ⟨'.', by simp [zero], by decide⟩
    · rw [if_neg zero]
      obtain ⟨mark, inside, rfl | rfl⟩ :=
        layout.exists_mark magnitude.shortest.digits magnitude.shortest.place
      · exact ⟨'.', List.mem_append_right _ inside, by decide⟩
      · exact ⟨'e', List.mem_append_right _ inside, by decide⟩

end Double

end Templating
