import DeliveryTrace.Proofs.Text.Word
import DeliveryTrace.Text.Numeral
import Mathlib.Data.List.TakeWhile

/-! # Reading numerals back

A numeral is a run of digits. It is a word, and each reader of numbers takes it as a whole. The
decimal digits of a number are a numeral of the number.
-/

namespace DeliveryTrace.Text

variable {word digits : Text} {width bound value : Nat}

theorem toNat_of_isDigit {c : Char} (digit : c.isDigit = true) :
    48 ≤ c.toNat ∧ c.toNat ≤ 57 := by
  simp only [Char.isDigit, Bool.and_eq_true, decide_eq_true_eq] at digit
  exact digit

theorem ofDigits_three (a b c : Char) :
    ofDigits [a, b, c] = 100 * (a.toNat - 48) + 10 * (b.toNat - 48) + (c.toNat - 48) := by
  simp [ofDigits]
  omega

/-! ## Unsigned numbers -/

theorem unsigned?_of_isDigit (nonempty : word ≠ []) (numeral : word.all Char.isDigit = true)
    (below : ofDigits word < bound) : unsigned? bound word = some (ofDigits word) := by
  have bare : behind? ['+'] word = none := by
    rw [behind?_eq_none_iff]
    rintro ⟨rest, rfl⟩
    cases numeral
  rw [unsigned?, bare]
  exact if_pos ⟨nonempty, numeral, below⟩

theorem isPlainWord_of_unsigned? (found : unsigned? bound word = some value) :
    IsPlainWord word := by
  obtain ⟨⟨nonempty, numeral, _⟩, _⟩ := Option.ite_none_right_eq_some.mp found
  have plain := isPlainWord_of_isDigit nonempty numeral
  cases signed : behind? ['+'] word with
  | some digits =>
      rw [signed, Option.getD_some] at plain
      rw [behind?_eq_some_iff.mp signed]
      exact .append (by decide) plain
  | none => rwa [signed, Option.getD_none] at plain

/-! ## Numerals of a fixed width -/

/-- A numeral of a fixed number of digits. -/
structure IsNumeral (width : Nat) (digits : Text) : Prop where
  length_eq : digits.length = width
  numeral : digits.all Char.isDigit = true

instance (width : Nat) (digits : Text) : Decidable (IsNumeral width digits) :=
  decidable_of_iff (digits.length = width ∧ digits.all Char.isDigit = true)
    ⟨fun ⟨length_eq, numeral⟩ => ⟨length_eq, numeral⟩,
      fun isNumeral => ⟨isNumeral.length_eq, isNumeral.numeral⟩⟩

namespace IsNumeral

theorem isPlainWord (isNumeral : IsNumeral (width + 1) digits) : IsPlainWord digits :=
  isPlainWord_of_isDigit (List.ne_nil_of_length_eq_add_one isNumeral.length_eq) isNumeral.numeral

theorem leadingNumber? (isNumeral : IsNumeral width digits) {least : Nat} (enough : least ≤ width)
    (rest : Text) :
    Text.leadingNumber? least width (digits ++ rest) = some (ofDigits digits, rest) := by
  have taken : (digits ++ rest).take width = digits := by
    rw [← isNumeral.length_eq, List.take_left]
  have kept : digits.takeWhile Char.isDigit = digits :=
    List.takeWhile_eq_self_iff.mpr (List.all_eq_true.mp isNumeral.numeral)
  have long : ¬ digits.length < least := by
    rw [isNumeral.length_eq]
    omega
  simp only [Text.leadingNumber?, taken, kept, if_neg long, List.drop_left]

end IsNumeral

/-! ## Decimal digits -/

theorem ofDigits_decimal (value : Nat) : ofDigits (decimal value) = value :=
  Nat.ofDigitChars_toDigits (by decide) (by decide)

theorem isDigit_decimal (value : Nat) : (decimal value).all Char.isDigit = true := by
  rw [List.all_eq_true]
  intro digit member
  exact Nat.isDigit_of_mem_toDigits (by decide) (by decide) member

theorem isPlainWord_decimal (value : Nat) : IsPlainWord (decimal value) :=
  isPlainWord_of_isDigit Nat.toDigits_ne_nil (isDigit_decimal value)

theorem isNumeral_decimal (least : 100 ≤ value) (most : value ≤ 999) :
    IsNumeral 3 (decimal value) := by
  have short := @Nat.length_toDigits_le_iff 10 value 3 (by decide) (by decide)
  have shorter := @Nat.length_toDigits_le_iff 10 value 2 (by decide) (by decide)
  have length_eq : (decimal value).length = 3 := by
    unfold decimal
    omega
  exact ⟨length_eq, isDigit_decimal value⟩

end DeliveryTrace.Text
