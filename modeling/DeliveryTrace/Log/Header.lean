import DeliveryTrace.Calendar.Reading
import DeliveryTrace.Log.Stamp
import DeliveryTrace.Text.Word

/-! # Syslog headers

A syslog line opens with a stamp, a host and a tag: `Jun 15 16:02:40 host postfix/qmgr[5216]:` or
`2024-06-15T16:02:40.123456+00:00 host postfix/qmgr[5216]:`. The message is what follows the tag.
-/

namespace DeliveryTrace

/-- The header of a syslog line and the message behind it. -/
structure Header where
  stamp : Stamp
  /-- The tag without the process number. -/
  program : Text
  message : Text

namespace Header

open Text

/-- Month names in calendar order. -/
def monthNames : List Text :=
  ["Jan", "Feb", "Mar", "Apr", "May", "Jun", "Jul", "Aug", "Sep", "Oct", "Nov", "Dec"].map
    String.toList

/-- The numbers that an unsigned field of 32 bits can hold lie below this bound. -/
def fieldBound : Nat := 4294967296

/-- The classic stamp behind its month name: day and time. -/
def classicStamp? (month : Nat) (text : Text) : Option (Stamp × Text) := do
  let (dayWord, text) ← splitWord? text
  let day ← unsigned? fieldBound dayWord
  let (clockWord, text) ← splitWord? text
  let clock ← Reading.clockWord? clockWord
  if 1 ≤ day ∧ day ≤ 31 then some (.yearless month day clock, text) else none

/-- The stamp at the start of a line. A word that is a month name opens a classic stamp. -/
def stamp? (text : Text) : Option (Stamp × Text) := do
  let (first, rest) ← splitWord? text
  match monthNames.idxOf? first with
  | some index => classicStamp? (index + 1) rest
  | none => (Reading.rfc3339? first).map fun moment => (.exact moment, rest)

/-- The program that a tag names. A bracket opens the process number, which must be one. -/
def program? (tag : Text) : Option Text := do
  let tag ← withoutEnd? ':' tag
  let program ←
    match cut? ['['] tag with
    | none => some tag
    | some (program, process) => do
      let number ← withoutEnd? ']' process
      let _ ← unsigned? fieldBound number
      return program
  if program = [] then none else some program

/-- The header of a line, if the line has one. -/
def ofLine? (line : Text) : Option Header := do
  let (stamp, text) ← stamp? line
  let (_, text) ← splitWord? text
  let (tag, message) ← splitWord? text
  let program ← program? tag
  return ⟨stamp, program, message⟩

end Header

end DeliveryTrace
