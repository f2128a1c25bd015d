import DeliveryTrace.Calendar.Date
import DeliveryTrace.Calendar.Clock

/-! # Moments and instants

A moment is a date with a time of day, in no particular time zone. An instant counts seconds from
the start of 1970 in universal time; a moment and its offset from universal time give an instant,
provided that its day is still in the calendar.
-/

namespace DeliveryTrace

/-- A date with a time of day. -/
structure Moment where
  date : Date
  clock : Clock
deriving DecidableEq

/-- A point in time: whole seconds since 1970 and nanoseconds, a thousand million or more of them
in a leap second. -/
structure Instant where
  seconds : Int
  nanos : Nat
deriving DecidableEq

/-- The year of an instant in universal time. -/
def Instant.year (instant : Instant) : Int := Date.yearOfDay (instant.seconds / 86400)

namespace Moment

/-- Date and time with a blank between, without the fraction. -/
def text (moment : Moment) : Text := moment.date.text ++ [' '] ++ moment.clock.text

/-- Date and time with a `T` between, with the fraction. -/
def fullText (moment : Moment) : Text := moment.date.text ++ ['T'] ++ moment.clock.fullText

/-- The instant of a moment that is `offset` seconds ahead of universal time. -/
def instant? (offset : Int) (moment : Moment) : Option Instant :=
  let seconds := 86400 * moment.date.dayNumber + moment.clock.secondOfDay - offset
  let day := seconds / 86400
  if Date.firstDayNumber ≤ day ∧ day ≤ Date.lastDayNumber then
    some ⟨seconds, moment.clock.nanos⟩
  else none

end Moment

end DeliveryTrace
