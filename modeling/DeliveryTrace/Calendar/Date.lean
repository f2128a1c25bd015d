import DeliveryTrace.Text.Numeral

/-! # Dates

Dates of the Gregorian calendar, extended to all years from -262143 to 262142. Day numbers count
from 1 January 1970.
-/

namespace DeliveryTrace

/-- Every fourth year is a leap year, except for centuries that 400 does not divide. -/
def isLeapYear (year : Int) : Bool :=
  year % 4 = 0 && (year % 100 ≠ 0 || year % 400 = 0)

/-- The length of a month; a month that does not exist has no days. -/
def daysInMonth (year : Int) (month : Nat) : Nat :=
  match month with
  | 2 => if isLeapYear year then 29 else 28
  | 4 | 6 | 9 | 11 => 30
  | 1 | 3 | 5 | 7 | 8 | 10 | 12 => 31
  | _ => 0

namespace Date

/-- The first and the last year of the calendar. -/
def firstYear : Int := -262143

@[inherit_doc firstYear]
def lastYear : Int := 262142

/-- The day exists in the calendar. -/
def Exists (year : Int) (month day : Nat) : Prop :=
  firstYear ≤ year ∧ year ≤ lastYear ∧ 1 ≤ day ∧ day ≤ daysInMonth year month

instance (year : Int) (month day : Nat) : Decidable (Exists year month day) :=
  inferInstanceAs (Decidable (_ ∧ _))

end Date

/-- A day of the calendar. -/
structure Date where
  year : Int
  month : Nat
  day : Nat
  day_exists : Date.Exists year month day
deriving DecidableEq

namespace Date

/-- The day with these parts, if the calendar has it. -/
def ofParts? (year : Int) (month day : Nat) : Option Date :=
  if day_exists : Exists year month day then some ⟨year, month, day, day_exists⟩ else none

/-- Days from the start of the calendar's year 1 to the start of a year. -/
def daysBeforeYear (year : Int) : Int :=
  let elapsed := year - 1
  365 * elapsed + elapsed / 4 - elapsed / 100 + elapsed / 400

/-- The number of a day, counted from 1 January 1970. -/
def dayNumber (date : Date) : Int :=
  let daysBeforeMonth :=
    (List.range date.month).foldl (fun days month => days + daysInMonth date.year month) 0
  daysBeforeYear date.year - daysBeforeYear 1970 + daysBeforeMonth + (date.day - 1)

/-- The year of the day with a given number. A mean year has 146097 / 400 days, which misses the
year by one at most. -/
def yearOfDay (number : Int) : Int :=
  let guess := 1970 + 400 * number / 146097
  let days := number + daysBeforeYear 1970
  if days < daysBeforeYear guess then guess - 1
  else if daysBeforeYear (guess + 1) ≤ days then guess + 1
  else guess

/-- The number of the calendar's first day. -/
def firstDayNumber : Int := daysBeforeYear firstYear - daysBeforeYear 1970

/-- The number of the calendar's last day. -/
def lastDayNumber : Int := daysBeforeYear (lastYear + 1) - daysBeforeYear 1970 - 1

/-- A year in four digits; outside the years 0 to 9999 it carries a sign. -/
def yearText (year : Int) : Text :=
  if 0 ≤ year ∧ year ≤ 9999 then Text.zeroPadded 4 year.toNat
  else (if year < 0 then '-' else '+') :: Text.zeroPadded 4 year.natAbs

/-- The date as year, month and day with hyphens between. -/
def text (date : Date) : Text :=
  yearText date.year ++ ['-'] ++ Text.zeroPadded 2 date.month ++ ['-'] ++
    Text.zeroPadded 2 date.day

end Date

end DeliveryTrace
