import DeliveryTrace.Calendar.Moment

/-! # Time stamps of log lines

The classic syslog stamp has no year. It is kept as written and resolved once a year is known.
-/

namespace DeliveryTrace

/-- The time stamp of a log line. -/
inductive Stamp where
  | exact (moment : Moment)
  | yearless (month day : Nat) (clock : Clock)
deriving DecidableEq

namespace Stamp

/-- The moment in a given year. Exact stamps have their own year; a year without the day has no
such moment. -/
def inYear? (year : Int) : Stamp → Option Moment
  | exact moment => some moment
  | yearless month day clock => (Date.ofParts? year month day).map fun date => ⟨date, clock⟩

/-- The stamp as shown, without fractions of a second. -/
def text : Stamp → Text
  | exact moment => moment.text
  | yearless month day clock =>
    Text.zeroPadded 2 month ++ ['-'] ++ Text.zeroPadded 2 day ++ [' '] ++ clock.text

end Stamp

end DeliveryTrace
