import DeliveryTrace.Calendar.Moment

/-! # Reading dates and times

Two families of written dates are read: those of a log line, where blanks may precede each number,
and those of RFC 3339, once with fixed digit counts and once in a lenient form that allows blanks
between the parts. Each reader takes what it can from the start of a text and returns the rest.
-/

namespace DeliveryTrace.Reading

open Text

/-- The rest of a text behind a given character. -/
def mark? (c : Char) : Text → Option Text
  | [] => none
  | first :: rest => if first = c then some rest else none

/-- A year after optional blanks: up to four digits, or any number of digits after a sign. -/
def year? (text : Text) : Option (Int × Text) :=
  match trimStart text with
  | '-' :: rest => (leadingNumber? 1 rest.length rest).map fun (value, rest) => (-value, rest)
  | '+' :: rest => (leadingNumber? 1 rest.length rest).map fun (value, rest) => (value, rest)
  | rest => (leadingNumber? 1 4 rest).map fun (value, rest) => (value, rest)

/-- A number of one or two digits after optional blanks. -/
def short? (text : Text) : Option (Nat × Text) := leadingNumber? 1 2 (trimStart text)

/-- A date whose hyphens stand after what `gap` drops. -/
def date? (gap : Text → Text) (text : Text) : Option (Date × Text) := do
  let (year, text) ← year? text
  let text ← mark? '-' (gap text)
  let (month, text) ← short? text
  let text ← mark? '-' (gap text)
  let (day, text) ← short? text
  let date ← Date.ofParts? year month day
  return (date, text)

/-- A fraction of a second in nanoseconds: a point and at least one digit, of which nine count. A
text without a point has the fraction zero. -/
def fraction? : Text → Option (Nat × Text)
  | '.' :: text =>
    let digits := text.takeWhile Char.isDigit
    if digits = [] then none
    else some (ofDigits ((digits.take 9).rightpad 9 '0'), text.dropWhile Char.isDigit)
  | text => some (0, text)

/-- A time of day whose colons stand after what `gap` drops; `fraction` reads what follows the
seconds. -/
def clock? (gap : Text → Text) (fraction : Text → Option (Nat × Text)) (text : Text) :
    Option (Clock × Text) := do
  let (hour, text) ← short? text
  let text ← mark? ':' (gap text)
  let (minute, text) ← short? text
  let text ← mark? ':' (gap text)
  let (second, text) ← short? text
  let (nanos, text) ← fraction text
  let clock ← Clock.ofShown? hour minute second nanos
  return (clock, text)

/-- What a reader finds if it takes the whole text. -/
def whole? {α : Type} (found : Option (α × Text)) : Option α :=
  match found with
  | some (value, []) => some value
  | _ => none

/-- A word that is a date of a log line. -/
def dateWord? (word : Text) : Option Date := whole? (date? id word)

/-- A word that is a time of day in whole seconds. -/
def clockWord? (word : Text) : Option Clock :=
  whole? (clock? id (fun text => some (0, text)) word)

/-- A word that is a time of day with an optional fraction. -/
def fineClockWord? (word : Text) : Option Clock := whole? (clock? id fraction? word)

/-- The character between date and time: the letter T or one blank. -/
def dateTimeMark? : Text → Option Text
  | c :: rest => if c = 'T' || c = 't' || c = ' ' then some rest else none
  | [] => none

/-- An offset from universal time in seconds: the letter Z, or a sign, two digits of hours, what
`between` drops, and two digits of minutes. The sign may be the minus of U+2212. Offsets stay below
one day. -/
def offset? (between : Text → Option Text) (text : Text) : Option (Int × Text) :=
  match text with
  | [] => none
  | c :: rest =>
    if c = 'Z' || c = 'z' then some (0, rest)
    else if c = '+' || c = '-' || c = '\u2212' then do
      let (hours, rest) ← leadingNumber? 2 2 rest
      let rest ← between rest
      let (minutes, rest) ← leadingNumber? 2 2 rest
      if hours < 24 ∧ minutes < 60 then
        let ahead : Int := 3600 * hours + 60 * minutes
        some (if c = '+' then ahead else -ahead, rest)
      else none
    else none

/-- The moment of an RFC 3339 text, as it is written there. -/
def rfc3339? (text : Text) : Option Moment := do
  let (year, text) ← leadingNumber? 4 4 text
  let text ← mark? '-' text
  let (month, text) ← leadingNumber? 2 2 text
  let text ← mark? '-' text
  let (day, text) ← leadingNumber? 2 2 text
  let text ← dateTimeMark? text
  let (hour, text) ← leadingNumber? 2 2 text
  let text ← mark? ':' text
  let (minute, text) ← leadingNumber? 2 2 text
  let text ← mark? ':' text
  let (second, text) ← leadingNumber? 2 2 text
  let (nanos, text) ← fraction? text
  let _ ← whole? (offset? (mark? ':') text)
  let date ← Date.ofParts? year month day
  let clock ← Clock.ofShown? hour minute second nanos
  return ⟨date, clock⟩

/-- Drop blanks and colons, of which there may be none. -/
def dropBlanksAndColons (text : Text) : Option Text :=
  some (text.dropWhile fun c => c = ':' || isBlank c)

/-- An offset, or the letters UTC in any case. -/
def lenientOffset? (text : Text) : Option (Int × Text) :=
  if (text.take 3).map Char.toLower = "utc".toList then some (0, text.drop 3)
  else offset? dropBlanksAndColons text

/-- The instant of a lenient RFC 3339 text. -/
def instant? (text : Text) : Option Instant := do
  let (date, text) ← date? trimStart text
  let text ← dateTimeMark? text
  let (clock, text) ← clock? trimStart fraction? text
  let (offset, rest) ← lenientOffset? (trimStart text)
  if trimStart rest = [] then (⟨date, clock⟩ : Moment).instant? offset else none

end DeliveryTrace.Reading
