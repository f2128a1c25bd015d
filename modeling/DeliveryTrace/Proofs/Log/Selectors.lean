import DeliveryTrace.Proofs.Log.Exim

/-! # Optional parts of an Exim line

The settings of the server decide whether an Exim line has a time zone and a process number behind
its time, and whether a syslog header stands in front of it. The main statement says that the line
tells the same with all of these as without them, whatever its event is.
-/

namespace DeliveryTrace.Exim

open Text

/-- The opening without a time zone and a process number. -/
def Opening.bare (opening : Opening) : Opening :=
  { opening with
    zone? := none
    process? := none
    isTimezone_zone := nofun
    isProcessNumber_process := nofun }

/-- **Optional parts do not change what a line tells.** Behind a wrapper or without one, with or
without a time zone and a process number, and between blanks, the line tells what it tells with none
of these: its own moment, its own transaction and the same event. -/
theorem parse_wrapped (opening : Opening) {lead wrapper trail : Text}
    (leading : ∀ c ∈ lead, isBlank c = true) (isWrapper : IsWrapper wrapper)
    (trailing : ∀ c ∈ trail, isBlank c = true) (rest : Text) :
    let raw := lead ++ (wrapper ++ (opening.text ++ ' ' :: (rest ++ trail)))
    parse raw = { parse (opening.bare.text ++ ' ' :: rest) with raw } ∧
      (parse raw).stamp = some (.exact opening.moment) ∧
      (parse raw).transaction = some opening.identifier := by
  intro raw
  have entry : IsEntry raw opening.moment opening.identifier
      (trimStart (trimEnd (' ' :: (rest ++ trail)))) :=
    opening.isEntry_wrapped isWrapper leading (endsWord_cons _)
  have trimmed : trimEnd (' ' :: (rest ++ trail)) = trimEnd (' ' :: rest) :=
    trimEnd_append_of_isBlank trailing (' ' :: rest)
  rw [trimmed] at entry
  refine ⟨?_, stamp_parse entry, transaction_parse entry⟩
  rw [parse_eq_event entry, opening.bare.parse_text (endsWord_cons rest), ← event_withRaw]
  rfl

/-- An opening with all optional words and a fraction of a second. -/
def selectedOpening : Opening where
  dateWord := "2017-01-03".toList
  clockWord := "10:00:00.5".toList
  zone? := some "-0330".toList
  process? := some "[7714]".toList
  identifier := "1rVxTH-00000000BQf-2Ydw".toList
  moment := ⟨⟨2017, 1, 3, by decide⟩, ⟨10, 0, 0, 500000000, by decide⟩⟩
  isWord_dateWord := IsPlainWord.isWord (by decide)
  isWord_clockWord := IsPlainWord.isWord (by decide)
  readsDate := rfl
  readsClock := rfl
  isTimezone_zone := by decide
  isProcessNumber_process := by decide
  isMessageId_identifier := rfl

/-- A header of an Exim program. -/
def wrapperHeading : Heading where
  first := "Jan".toList
  others := ["3".toList, "10:00:01".toList]
  stamp := .yearless 1 3 ⟨10, 0, 1, 0, by decide⟩
  host := "relay".toList
  program := "exim4".toList
  process? := some "7706".toList
  stampWords := .classic rfl rfl (by decide) (IsPlainWord.isWord (by decide)) rfl
  isWord_host := IsPlainWord.isWord (by decide)
  isWord_program := IsPlainWord.isWord (by decide)
  unbracketed := by decide
  isNumber_process := by
    rintro process ⟨⟩
    exact ⟨7706, rfl⟩

/-- The header with two spaces in front of a day of one digit. -/
theorem gapped_wrapperHeading :
    Gapped wrapperHeading.words "Jan  3 10:00:01 relay exim4[7706]: ".toList :=
  gapped_padded (by decide)

/-- A wrapped arrival with an open quote says what it says on its own. -/
theorem parse_wrapped_arrival :
    let lead := "\u00a0".toList
    let wrapper := "Jan  3 10:00:01 relay exim4[7706]: ".toList
    let rest := "<= r@localhost id=first@localhost T=\"open".toList
    let trail := " \u3000\r".toList
    let raw := lead ++ (wrapper ++ (selectedOpening.text ++ ' ' :: (rest ++ trail)))
    (∀ c ∈ lead, isBlank c = true) ∧ IsWrapper wrapper ∧ (∀ c ∈ trail, isBlank c = true) ∧
      parse raw = { parse (selectedOpening.bare.text ++ ' ' :: rest) with raw } ∧
      (parse raw).messageId = some "first@localhost".toList := by
  intro lead wrapper rest trail raw
  have leading : ∀ c ∈ lead, isBlank c = true := List.all_eq_true.mp rfl
  have trailing : ∀ c ∈ trail, isBlank c = true := List.all_eq_true.mp rfl
  have isWrapper : IsWrapper wrapper := .syslog gapped_wrapperHeading ⟨"4".toList, rfl⟩
  have told := (parse_wrapped selectedOpening leading isWrapper trailing rest).1
  exact ⟨leading, isWrapper, trailing, told, by decide +kernel⟩

end DeliveryTrace.Exim
