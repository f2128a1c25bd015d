import DeliveryTrace.Text.Numeral

/-! # Times of day

A time of day has nanoseconds. A leap second is the second 59 of its minute with a thousand million
nanoseconds or more, and it is written as second 60.
-/

namespace DeliveryTrace

namespace Clock

/-- The nanoseconds of one second. -/
def nanosPerSecond : Nat := 1000000000

/-- The time exists on the clock, leap seconds included. -/
def Exists (hour minute second nanos : Nat) : Prop :=
  hour < 24 ∧ minute < 60 ∧ second < 60 ∧ nanos < 2 * nanosPerSecond ∧
    (nanosPerSecond ≤ nanos → second = 59)

instance (hour minute second nanos : Nat) : Decidable (Exists hour minute second nanos) :=
  inferInstanceAs (Decidable (_ ∧ _))

end Clock

/-- A time of day. -/
structure Clock where
  hour : Nat
  minute : Nat
  second : Nat
  nanos : Nat
  time_exists : Clock.Exists hour minute second nanos
deriving DecidableEq

namespace Clock

/-- The time with these parts, if the clock has it. -/
def ofParts? (hour minute second nanos : Nat) : Option Clock :=
  if time_exists : Exists hour minute second nanos then
    some ⟨hour, minute, second, nanos, time_exists⟩
  else none

/-- The time that a clock shows as these numbers, where second 60 is the leap second. -/
def ofShown? (hour minute second nanos : Nat) : Option Clock :=
  if second = 60 then ofParts? hour minute 59 (nanosPerSecond + nanos)
  else ofParts? hour minute second nanos

/-- The second as it is shown: 60 for a leap second. -/
def shownSecond (clock : Clock) : Nat :=
  if nanosPerSecond ≤ clock.nanos then clock.second + 1 else clock.second

/-- Hours, minutes and seconds with colons between, without the fraction. -/
def text (clock : Clock) : Text :=
  Text.zeroPadded 2 clock.hour ++ [':'] ++ Text.zeroPadded 2 clock.minute ++ [':'] ++
    Text.zeroPadded 2 clock.shownSecond

/-- The fraction of the second in three, six or nine digits, whichever is enough; none if the
fraction is zero. -/
def fractionText (clock : Clock) : Text :=
  let nanos := clock.nanos % nanosPerSecond
  if nanos = 0 then []
  else if nanos % 1000000 = 0 then '.' :: Text.zeroPadded 3 (nanos / 1000000)
  else if nanos % 1000 = 0 then '.' :: Text.zeroPadded 6 (nanos / 1000)
  else '.' :: Text.zeroPadded 9 nanos

/-- The time with its fraction. -/
def fullText (clock : Clock) : Text := clock.text ++ clock.fractionText

/-- Whole seconds since midnight. -/
def secondOfDay (clock : Clock) : Nat :=
  3600 * clock.hour + 60 * clock.minute + clock.second

end Clock

end DeliveryTrace
