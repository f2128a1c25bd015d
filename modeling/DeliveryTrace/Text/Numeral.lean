import DeliveryTrace.Text.Cut

/-! # Decimal numerals

Reading takes ASCII digits only; an unsigned number may carry a plus sign and leading zeros, but it
must stay below a bound. Writing pads with zeros.
-/

namespace DeliveryTrace.Text

/-- The number that a run of digits denotes. -/
def ofDigits (digits : Text) : Nat :=
  digits.foldl (fun value c => 10 * value + (c.toNat - '0'.toNat)) 0

/-- The unsigned number below `bound` that a text denotes. -/
def unsigned? (bound : Nat) (text : Text) : Option Nat :=
  let digits := (behind? ['+'] text).getD text
  if digits ≠ [] ∧ digits.all Char.isDigit ∧ ofDigits digits < bound then
    some (ofDigits digits)
  else none

/-- A number of at least `least` and at most `most` digits at the start of a text, and the rest. -/
def leadingNumber? (least most : Nat) (text : Text) : Option (Nat × Text) :=
  let digits := (text.take most).takeWhile Char.isDigit
  if digits.length < least then none else some (ofDigits digits, text.drop digits.length)

/-- The decimal digits of a number. -/
def decimal (value : Nat) : Text := Nat.toDigits 10 value

/-- The decimal digits of a number, filled with leading zeros up to a width. -/
def zeroPadded (width value : Nat) : Text := (decimal value).leftpad width '0'

end DeliveryTrace.Text
