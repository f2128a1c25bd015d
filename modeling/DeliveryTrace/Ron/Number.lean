import DeliveryTrace.Ron.Token
import DeliveryTrace.Text.Numeral

/-! # Numbers in object notation

Integers are decimal or carry the mark of base two, eight or sixteen; underscores may separate
digits but not open them, and a type suffix narrows the range. Where no type is asked for, a byte
between apostrophes, a fractional number and a range of numbers may stand as well.
-/

namespace DeliveryTrace.Ron

open Text

variable {ε : Type}

/-- The characters that a run of digits is made of, whatever its base. -/
def isDigitRunChar (c : Char) : Bool := isHexDigit c || c = '_'

/-- The magnitude that a run denotes in a base, if all its digits belong to the base. -/
def magnitude? (base : Nat) (digitRun : Text) : Option Nat :=
  let digits := digitRun.filter (· ≠ '_')
  if digitRun ≠ [] ∧ digitRun.head? ≠ some '_' ∧ digits.all (hexDigit · < base) then
    some (ofBaseDigits base digits)
  else none

/-- The marks of the bases other than ten, with the base. -/
def baseMarks : List (Text × Nat) := [(['0', 'b'], 2), (['0', 'o'], 8), (['0', 'x'], 16)]

/-- Take the mark of a base; without one the base is ten. -/
def base : List (Text × Nat) → Reader ε Nat
  | [] => return 10
  | (mark, value) :: marks => do
    if ← Reader.takesMark mark then return value else base marks

/-- Bounds of an integer type, both included. -/
structure IntegerRange where
  least : Int
  most : Int

/-- The range of 64 bits with a sign. -/
def signed64 : IntegerRange := ⟨-9223372036854775808, 9223372036854775807⟩

/-- The range of 64 bits without a sign. -/
def unsigned64 : IntegerRange := ⟨0, 18446744073709551615⟩

/-- Whether a range holds a number. -/
def IntegerRange.holds (range : IntegerRange) (value : Int) : Bool :=
  range.least ≤ value && value ≤ range.most

/-- The suffix of the unsigned type of 64 bits with its range. -/
def unsigned64Suffix : Text × IntegerRange := ("u64".toList, unsigned64)

/-- The type suffixes with their ranges. -/
def typeSuffixes : List (Text × IntegerRange) :=
  [("i8".toList, ⟨-128, 127⟩),
    ("u8".toList, ⟨0, 255⟩),
    ("i16".toList, ⟨-32768, 32767⟩),
    ("u16".toList, ⟨0, 65535⟩),
    ("i32".toList, ⟨-2147483648, 2147483647⟩),
    ("u32".toList, ⟨0, 4294967295⟩),
    ("i64".toList, signed64),
    unsigned64Suffix]

/-- Take one of some type suffixes, if one comes next. -/
def typeSuffix : List (Text × IntegerRange) → Reader ε (Option IntegerRange)
  | [] => return none
  | (suffix, range) :: suffixes => do
    if ← takesName suffix then return some range else typeSuffix suffixes

/-- Take a sign; say whether it is a minus. -/
def sign : Reader ε Bool := do
  if ← Reader.takesMark ['-'] then return true
  else
    let _ ← Reader.takesMark ['+']
    return false

/-- A character of ASCII. -/
def asciiChar : Reader ε Char := do
  let c ← Reader.next
  Reader.require (c.toNat < 0x80)
  return c

/-- The value of a byte between apostrophes, from behind the mark. -/
def byteBody : Reader ε Int := do
  let c ← if ← Reader.takesMark ['\\'] then escape .byte else asciiChar
  Reader.char '\''
  return c.toNat

/-- An integer, which may carry one of the given type suffixes. The suffix starts behind all
hexadecimal digits, whatever the base. -/
def signedInteger (suffixes : List (Text × IntegerRange)) : Reader ε Int := do
  let negative ← sign
  let base ← base baseMarks
  let digitRun ← Reader.run isDigitRunChar
  match magnitude? base digitRun with
  | none => Reader.malformed
  | some magnitude =>
    let value : Int := if negative then -magnitude else magnitude
    let range? ← typeSuffix suffixes
    Reader.require (range?.all fun range => range.holds value)
    return value

/-- An unsigned number of 64 bits. It may carry the suffix of its type, and no other one. -/
def natural : Reader ε Nat := do
  let value ← signedInteger [unsigned64Suffix]
  Reader.require (unsigned64.holds value)
  return value.toNat

/-- An integer that some type of 64 bits holds, or a byte. -/
def anyInteger : Reader ε Unit := do
  let value ← if ← Reader.takesMark ['b', '\''] then byteBody else signedInteger typeSuffixes
  Reader.require (signed64.holds value || unsigned64.holds value)

/-! ## Fractional numbers -/

/-- The characters that a fractional number is made of. -/
def isFractionalChar (c : Char) : Bool :=
  c.isDigit || c = 'e' || c = 'E' || c = '.' || c = '+' || c = '-' || c = '_'

/-- How many of the first characters may belong to a fractional number. The two points of a range
do not. -/
def fractionalLength : Text → Nat
  | [] => 0
  | '.' :: '.' :: _ => 0
  | c :: rest => if isFractionalChar c then fractionalLength rest + 1 else 0

/-- Whether a fractional number comes next: behind an optional sign it runs further than any
integer. -/
def startsFractional (text : Text) : Bool :=
  let unsigned :=
    match text with
    | '+' :: rest | '-' :: rest => rest
    | _ => text
  (unsigned.takeWhile isDigitRunChar).length < fractionalLength unsigned

/-- Whether every underscore follows a digit, an exponent letter or another such underscore. -/
def underscoresSeparate : (allowed : Bool) → Text → Bool
  | _, [] => true
  | allowed, c :: rest =>
    if c = '_' then allowed && underscoresSeparate allowed rest
    else if c.isDigit || c = 'e' || c = 'E' then underscoresSeparate true rest
    else if c = '.' then underscoresSeparate false rest
    else underscoresSeparate allowed rest

/-- A text without one leading sign. -/
def withoutSign : Text → Text
  | '+' :: rest | '-' :: rest => rest
  | text => text

/-- Whether a text is an exponent, or nothing. -/
def isExponent : Text → Bool
  | [] => true
  | c :: rest =>
    (c = 'e' || c = 'E') && withoutSign rest ≠ [] && (withoutSign rest).all Char.isDigit

/-- Whether a text is a number with a point: at least one digit on either side of it, and an
optional exponent. -/
def isFractional (text : Text) : Bool :=
  let unsigned := withoutSign text
  let whole := unsigned.takeWhile Char.isDigit
  match unsigned.dropWhile Char.isDigit with
  | '.' :: rest =>
    (whole ≠ [] || rest.takeWhile Char.isDigit ≠ []) && isExponent (rest.dropWhile Char.isDigit)
  | rest => whole ≠ [] && isExponent rest

/-- The names of the numbers beyond all digits, without a sign. -/
def unboundedNames : List Text :=
  ["inf", "NaN"].flatMap fun name => ["", "f32", "f64"].map fun suffix => (name ++ suffix).toList

/-- The names of the numbers beyond all digits, with and without a sign. -/
def signedUnboundedNames : List Text :=
  unboundedNames ++ ['+', '-'].flatMap fun sign => unboundedNames.map (sign :: ·)

/-- Take one of some names if it comes next; say whether one was taken. -/
def takesOneOf : List Text → Reader ε Bool
  | [] => return false
  | name :: names => do if ← takesName name then return true else takesOneOf names

/-- A fractional number, whose value nothing here needs. -/
def fractional : Reader ε Unit := do
  if ← takesOneOf signedUnboundedNames then return ()
  else
    let digits ← Reader.first fractionalLength
    Reader.require (underscoresSeparate false digits && isFractional (digits.filter (· ≠ '_')))
    let _ ← takesOneOf ["f32".toList, "f64".toList]
    return ()

/-! ## Numbers of any kind -/

/-- A number of any kind, whose value nothing here needs. What is no integer, such as one that is
out of range, may still be read as a fractional number. -/
def anyNumber : Reader ε Unit := do
  if ← Reader.ahead startsFractional then fractional
  else Reader.orElse anyInteger fractional

/-- What a range has behind its start, if one comes next: two points with an optional end, or two
points and the sign `=` with an end. No blank stands between the parts of a range. -/
def rangeTail : Reader ε Unit := do
  if ← Reader.takesMark ['.', '.'] then
    if ← Reader.takesMark ['='] then anyNumber else Reader.orElse anyNumber (return ())

/-- A number or a range of numbers, whose start may be missing. -/
def numberOrRange : Reader ε Unit := do
  unless ← Reader.ahead (startsWith ['.', '.']) do anyNumber
  rangeTail

end DeliveryTrace.Ron
