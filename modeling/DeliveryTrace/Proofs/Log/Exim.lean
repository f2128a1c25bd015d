import DeliveryTrace.Proofs.Calendar.Reading
import DeliveryTrace.Proofs.Log.Heading
import DeliveryTrace.Proofs.Log.WellFormed

/-! # Exim lines as they are written

An Exim line opens with a date, a time, an optional time zone, an optional process number and the
identifier of its transaction; a syslog header may stand in front of it. The main statement says
that the line is read as the event behind this opening, whatever the event is.
-/

namespace DeliveryTrace

open Text

namespace Exim

variable {word rest : Text}

/-! ## The words of an opening -/

theorem exists_sign_of_isTimezone (zone : isTimezone word = true) :
    ∃ sign digits, word = [sign] ++ digits ∧ (sign = '+' ∨ sign = '-') ∧ IsPlainWord digits := by
  cases word with
  | nil => cases zone
  | cons sign digits =>
      simp only [isTimezone, Bool.and_eq_true, Bool.or_eq_true, decide_eq_true_eq] at zone
      obtain ⟨⟨signed, four⟩, numeral⟩ := zone
      have nonempty : digits ≠ [] := List.ne_nil_of_length_eq_add_one four
      exact ⟨sign, digits, rfl, signed, isPlainWord_of_isDigit nonempty numeral⟩

theorem exists_digits_of_isProcessNumber (process : isProcessNumber word = true) :
    ∃ digits, word = ['['] ++ (digits ++ [']']) ∧ IsPlainWord digits := by
  unfold isProcessNumber at process
  split at process
  · next digits bracketed =>
    simp only [Bool.and_eq_true, decide_eq_true_eq] at process
    unfold inside? at bracketed
    split at bracketed
    · cases bracketed
    · obtain ⟨rfl, closed⟩ := Option.ite_none_right_eq_some.mp bracketed
      rw [withoutEnd?_eq_some_iff] at closed
      exact ⟨digits, congrArg _ closed, isPlainWord_of_isDigit process.1 process.2⟩
  · cases process

/-- An identifier starts with a letter or a digit. -/
theorem exists_alnum_of_isMessageId (valid : isMessageId word = true) :
    ∃ c tail, word = c :: tail ∧ isAsciiAlnum c = true := by
  obtain ⟨nonempty, marks⟩ := Reply.isIdentifier_iff.mp (isIdentifier_of_isMessageId valid)
  obtain ⟨c, tail, rfl⟩ := List.exists_cons_of_ne_nil nonempty
  refine ⟨c, tail, rfl, (marks c List.mem_cons_self).resolve_right ?_⟩
  -- No part of an identifier is empty.
  rintro rfl
  simp [isMessageId, identifierShapes, pieces] at valid

theorem isPlainWord_of_isTimezone (zone : isTimezone word = true) : IsPlainWord word := by
  obtain ⟨sign, digits, rfl, signed, plain⟩ := exists_sign_of_isTimezone zone
  rcases signed with rfl | rfl
  · exact .append (by decide) plain
  · exact .append (by decide) plain

theorem isPlainWord_of_isProcessNumber (process : isProcessNumber word = true) :
    IsPlainWord word := by
  obtain ⟨digits, rfl, plain⟩ := exists_digits_of_isProcessNumber process
  exact .append (by decide) (plain.append (by decide))

theorem isPlainWord_of_isMessageId (valid : isMessageId word = true) : IsPlainWord word := by
  obtain ⟨nonempty, marks⟩ := Reply.isIdentifier_iff.mp (isIdentifier_of_isMessageId valid)
  refine ⟨nonempty, ?_, ?_⟩
  · intro c member
    rcases marks c member with alnum | rfl
    · exact isBlank_of_isAsciiAlnum alnum
    · decide
  · intro quote
    exact absurd (marks '"' quote) (by decide)

theorem isTimezone_of_isProcessNumber (process : isProcessNumber word = true) :
    isTimezone word = false := by
  obtain ⟨digits, rfl, _⟩ := exists_digits_of_isProcessNumber process
  rfl

/-- An identifier is neither a time zone nor a process number. -/
theorem not_optional_of_isMessageId (valid : isMessageId word = true) :
    isTimezone word = false ∧ isProcessNumber word = false := by
  obtain ⟨c, tail, rfl, alnum⟩ := exists_alnum_of_isMessageId valid
  have plus : c ≠ '+' := ne_of_isAsciiAlnum alnum (by decide)
  have minus : c ≠ '-' := ne_of_isAsciiAlnum alnum (by decide)
  have bracket : c ≠ '[' := ne_of_isAsciiAlnum alnum (by decide)
  simp [isTimezone, isProcessNumber, inside?, plus, minus, bracket]

/-- No date is the name of a month, and none is a moment of a syslog header. -/
theorem ofLine?_of_splitWord? {line word rest : Text} {date : Date}
    (first : splitWord? line = some (word, rest)) (read : Reading.dateWord? word = some date) :
    Header.ofLine? line = none := by
  have unnamed : word ∉ Header.monthNames := by
    intro named
    have undated : ∀ name ∈ Header.monthNames, Reading.dateWord? name = none := by decide
    cases (undated word named).symm.trans read
  have unstamped : Header.stamp? line = none := by
    simp only [Header.stamp?, first, Option.bind_eq_bind, Option.bind_some]
    rw [List.idxOf?_eq_none_iff.mpr unnamed]
    simp only [Reading.rfc3339?_eq_none_of_dateWord? read, Option.map_none]
  simp only [Header.ofLine?, unstamped, Option.bind_eq_bind, Option.bind_none]

/-! ## The opening -/

/-- The opening of a line, word by word. -/
structure Opening where
  dateWord : Text
  clockWord : Text
  zone? : Option Text
  process? : Option Text
  identifier : Text
  moment : Moment
  isWord_dateWord : IsWord dateWord
  isWord_clockWord : IsWord clockWord
  readsDate : Reading.dateWord? dateWord = some moment.date
  readsClock : Reading.fineClockWord? clockWord = some moment.clock
  isTimezone_zone : ∀ zone ∈ zone?, isTimezone zone = true
  isProcessNumber_process : ∀ process ∈ process?, isProcessNumber process = true
  isMessageId_identifier : isMessageId identifier = true

/-- An optional word is skipped if it passes the test and the word behind it does not. -/
theorem skipWord?_gapped {test : Text → Bool} {optional : Option Text} {later : List Text}
    {text behind : Text} (passes : ∀ word ∈ optional, test word = true)
    (other : ∀ tail, Gapped later tail →
      ∃ word rest, splitWord? (tail ++ behind) = some (word, rest) ∧ test word = false)
    (gapped : Gapped (optional.toList ++ later) text) :
    ∃ tail, Gapped later tail ∧
      skipWord? test (trimStart (text ++ behind)) = some (trimStart (tail ++ behind)) := by
  unfold skipWord?
  cases optional with
  | none =>
      obtain ⟨word, rest, split, fails⟩ := other text gapped
      refine ⟨text, gapped, ?_⟩
      rw [splitWord?_trimStart, split]
      simp [fails]
  | some word =>
      obtain ⟨tail, others, split⟩ := splitWord?_gapped gapped
      refine ⟨tail, others, ?_⟩
      rw [splitWord?_trimStart, split]
      simp [passes word rfl]

theorem opening?_append_of_isBlank {lead : Text} (leading : ∀ c ∈ lead, isBlank c = true)
    (body : Text) : opening? (lead ++ body) = opening? body := by
  unfold opening?
  rw [splitWord?_append_of_isBlank leading]

namespace Opening

variable (opening : Opening)

/-- The words behind the time. -/
def later : List Text :=
  opening.zone?.toList ++ (opening.process?.toList ++ [opening.identifier])

/-- The opening as it is written. -/
def text : Text := opening.dateWord ++ spaced (opening.clockWord :: opening.later)

/-- The words in front of the identifier. -/
def words : List Text :=
  opening.dateWord :: opening.clockWord :: (opening.zone?.toList ++ opening.process?.toList)

theorem isWord_identifier : IsWord opening.identifier :=
  (isPlainWord_of_isMessageId opening.isMessageId_identifier).isWord

theorem isWord_of_mem_words : ∀ word ∈ opening.words, IsWord word := by
  simp only [words, List.forall_mem_cons, List.forall_mem_append, Option.mem_toList]
  refine ⟨opening.isWord_dateWord, opening.isWord_clockWord, ?_, ?_⟩
  · intro zone given
    exact (isPlainWord_of_isTimezone (opening.isTimezone_zone zone given)).isWord
  · intro process given
    exact (isPlainWord_of_isProcessNumber (opening.isProcessNumber_process process given)).isWord

/-- Written with spaces between its words an opening is its words with gaps behind them, in front
of the identifier. -/
theorem exists_gapped_text :
    ∃ head, Gapped opening.words head ∧
      ∀ rest, opening.text ++ rest = head ++ (opening.identifier ++ rest) := by
  refine ⟨_, gapped_spaced opening.isWord_of_mem_words, fun rest => ?_⟩
  simp [text, later, spaced]

/-- Neither a process number nor the identifier is taken for a time zone. -/
theorem exists_splitWord?_not_isTimezone (ends : EndsWord rest) (tail : Text)
    (gapped : Gapped opening.process?.toList tail) :
    ∃ word behind, splitWord? (tail ++ (opening.identifier ++ rest)) = some (word, behind) ∧
      isTimezone word = false := by
  have named := splitWord?_append opening.isWord_identifier ends
  cases given : opening.process? with
  | none =>
      rw [given] at gapped
      cases gapped
      exact ⟨_, _, named, (not_optional_of_isMessageId opening.isMessageId_identifier).1⟩
  | some process =>
      rw [given] at gapped
      obtain ⟨_, _, split⟩ := splitWord?_gapped gapped
      have numbered := opening.isProcessNumber_process process given
      exact ⟨_, _, split _, isTimezone_of_isProcessNumber numbered⟩

/-- **The words of an opening are read as they are written**, whatever gaps there are between
them. -/
theorem opening?_gapped {head : Text} (gapped : Gapped opening.words head) (ends : EndsWord rest) :
    opening? (head ++ (opening.identifier ++ rest)) =
      some (opening.moment, opening.identifier, trimStart rest) := by
  have named := splitWord?_append opening.isWord_identifier ends
  have notNumbered : ∀ tail, Gapped [] tail →
      ∃ word behind, splitWord? (tail ++ (opening.identifier ++ rest)) = some (word, behind) ∧
        isProcessNumber word = false := by
    rintro _ ⟨⟩
    exact ⟨_, _, named, (not_optional_of_isMessageId opening.isMessageId_identifier).2⟩
  obtain ⟨behindDate, times, dated⟩ := splitWord?_gapped gapped
  obtain ⟨behindClock, optional, timed⟩ := splitWord?_gapped times
  obtain ⟨behindZone, numbers, zoned⟩ := skipWord?_gapped opening.isTimezone_zone
    (opening.exists_splitWord?_not_isTimezone ends) optional
  rw [← List.append_nil opening.process?.toList] at numbers
  obtain ⟨_, nothing, numbered⟩ :=
    skipWord?_gapped opening.isProcessNumber_process notNumbered numbers
  cases nothing
  simp only [opening?, Option.bind_eq_bind, Option.bind_some, splitWord?_trimStart, dated, timed,
    opening.readsDate, opening.readsClock, zoned, numbered, List.nil_append, named,
    opening.isMessageId_identifier, if_true]

end Opening

/-! ## Lines -/

/-- What may stand in front of a line: nothing, or a syslog header of an Exim program with gaps
between its words. -/
inductive IsWrapper : Text → Prop
  | bare : IsWrapper []
  | syslog {heading : Heading} {text : Text} (gapped : Gapped heading.words text)
      (isExim : "exim".toList <+: heading.program) : IsWrapper text

namespace Opening

variable (opening : Opening) {lead wrapper head : Text}

/-- A wrapper is taken off, and blanks in front of a line do not matter. -/
theorem opening?_wrapped (isWrapper : IsWrapper wrapper) (leading : ∀ c ∈ lead, isBlank c = true)
    (gapped : Gapped opening.words head) (ends : EndsWord rest) :
    (body? (lead ++ (wrapper ++ (head ++ (opening.identifier ++ rest))))).bind opening? =
      some (opening.moment, opening.identifier, trimStart rest) := by
  have opened := opening.opening?_gapped gapped ends
  cases isWrapper with
  | bare =>
      obtain ⟨_, _, dated⟩ := splitWord?_gapped gapped
      rw [List.nil_append, body?, Header.ofLine?_append_of_isBlank leading,
        ofLine?_of_splitWord? (dated _) opening.readsDate]
      exact (opening?_append_of_isBlank leading _).trans opened
  | syslog wrapped isExim =>
      obtain ⟨c, tail, rfl, shown⟩ := gapped.exists_cons
      rw [body?, Header.ofLine?_append_of_isBlank leading, Heading.ofLine?_gapped _ wrapped]
      dsimp only
      rw [if_pos (startsWith_iff.mpr isExim)]
      exact (congrArg opening? (trimStart_of_visible (startsVisible_cons shown _))).trans opened

/-- **An opening is read as it is written**, behind a wrapper or without one and whatever gaps there
are between its words, and the line is an entry with the event behind it. -/
theorem isEntry_gapped (isWrapper : IsWrapper wrapper) (leading : ∀ c ∈ lead, isBlank c = true)
    (gapped : Gapped opening.words head) (ends : EndsWord rest) :
    IsEntry (lead ++ (wrapper ++ (head ++ (opening.identifier ++ rest)))) opening.moment
      opening.identifier (trimStart (trimEnd rest)) := by
  have opened := opening.opening?_wrapped isWrapper leading gapped ends.trimEnd
  have plain := isPlainWord_of_isMessageId opening.isMessageId_identifier
  have trimmed := trimEnd_append plain (lead ++ (wrapper ++ head)) rest
  simp only [List.append_assoc] at trimmed
  rwa [← trimmed] at opened

theorem isEntry_unwrapped (gapped : Gapped opening.words head) (ends : EndsWord rest) :
    IsEntry (head ++ (opening.identifier ++ rest)) opening.moment opening.identifier
      (trimStart (trimEnd rest)) :=
  @isEntry_gapped rest opening [] [] head .bare nofun gapped ends

theorem isEntry_wrapped (isWrapper : IsWrapper wrapper) (leading : ∀ c ∈ lead, isBlank c = true)
    (ends : EndsWord rest) :
    IsEntry (lead ++ (wrapper ++ (opening.text ++ rest))) opening.moment opening.identifier
      (trimStart (trimEnd rest)) := by
  obtain ⟨head, gapped, whole⟩ := opening.exists_gapped_text
  rw [whole]
  exact opening.isEntry_gapped isWrapper leading gapped ends

theorem parse_text (ends : EndsWord rest) :
    parse (opening.text ++ rest) =
      event
        { raw := opening.text ++ rest
          stamp := some (.exact opening.moment)
          transaction := some opening.identifier }
        (trimStart (trimEnd rest)) := by
  obtain ⟨head, gapped, whole⟩ := opening.exists_gapped_text
  rw [whole]
  exact parse_eq_event (opening.isEntry_unwrapped gapped ends)

end Opening

/-! ## Arrivals -/

/-- A message other than a notification carries the identifier of its first `id` field. -/
theorem event_identified (line : LogLine) {text sender identifier : Text} {fields : List Text}
    (gapped : Gapped (['<', '='] :: sender :: fields) text) (named : sender ≠ ['<', '>'])
    (foreign : ∀ field ∈ fields, ¬ "id=".toList <+: field)
    (isWord : IsWord ("id=".toList ++ identifier)) (ends : EndsWord rest) :
    event line (trimStart (text ++ ("id=".toList ++ identifier ++ rest))) =
      { line with
        direction := .inboundAccept
        messageId := (some (unwrap '<' '>' (unwrap '"' '"' identifier))).filter (· ≠ []) } := by
  obtain ⟨behindFlag, senders, flagged⟩ := splitWord?_gapped gapped
  obtain ⟨behindSender, others, sent⟩ := splitWord?_gapped senders
  have arrives : Event.ofFlag? ['<', '='] = some .arrival := rfl
  have carried : field? ['i', 'd'] (behindSender ++ ("id=".toList ++ identifier ++ rest)) =
      some (unwrap '"' '"' identifier) :=
    field?_gapped others foreign isWord ends
  simp only [event, splitWord?_trimStart, flagged, arrives, sent, arrival, if_neg named,
    field?_trimStart, carried, Option.map_some]

end Exim

end DeliveryTrace
