import DeliveryTrace.Log.Header
import DeliveryTrace.Proofs.Calendar.Written
import DeliveryTrace.Proofs.Text.Cut
import DeliveryTrace.Proofs.Text.Gap

/-! # Syslog headers as they are written

A header is a stamp, a host and a tag; the stamp is a month name, a day and a time, or an RFC 3339
moment. The main statement says that a line which opens with these words has this header, and that
the rest of the line is its message.
-/

namespace DeliveryTrace

open Text

variable {word rest : Text}

/-- Blanks in front of a line do not matter for its header. -/
theorem Header.ofLine?_append_of_isBlank {lead : Text} (leading : ∀ c ∈ lead, isBlank c = true)
    (line : Text) : ofLine? (lead ++ line) = ofLine? line := by
  unfold ofLine? stamp?
  rw [splitWord?_append_of_isBlank leading]

/-- The words of a stamp: month name, day and time, or an RFC 3339 moment. -/
inductive StampWords : Text → List Text → Stamp → Prop
  | classic {name dayWord clockWord : Text} {month day : Nat} {clock : Clock}
      (named : Header.monthNames.idxOf? name = some month)
      (counted : unsigned? Header.fieldBound dayWord = some day) (inMonth : 1 ≤ day ∧ day ≤ 31)
      (isWord : IsWord clockWord) (timed : Reading.clockWord? clockWord = some clock) :
      StampWords name [dayWord, clockWord] (.yearless (month + 1) day clock)
  | rfc3339 {word : Text} {moment : Moment} (isWord : IsWord word)
      (read : Reading.rfc3339? word = some moment) : StampWords word [] (.exact moment)

theorem isPlainWord_of_idxOf?_monthNames {month : Nat}
    (named : Header.monthNames.idxOf? word = some month) : IsPlainWord word := by
  have member : word ∈ Header.monthNames := by
    refine Decidable.of_not_not fun unnamed => ?_
    cases named.symm.trans (List.idxOf?_eq_none_iff.mpr unnamed)
  have plain : ∀ name ∈ Header.monthNames, IsPlainWord name := by decide
  exact plain word member

variable {first : Text} {others more : List Text} {stamp : Stamp}

theorem StampWords.isWord (written : StampWords first others stamp) :
    ∀ word ∈ first :: others, IsWord word := by
  cases written with
  | classic named counted _ isWord _ =>
      simp only [List.forall_mem_cons]
      exact ⟨(isPlainWord_of_idxOf?_monthNames named).isWord,
        (isPlainWord_of_unsigned? counted).isWord, isWord, nofun⟩
  | rfc3339 isWord _ => exact List.forall_mem_singleton.mpr isWord

/-- A stamp is read off the words in front of others. -/
theorem StampWords.stamp? {text : Text} (written : StampWords first others stamp)
    (gapped : Gapped (first :: (others ++ more)) text) :
    ∃ tail, Gapped more tail ∧
      ∀ rest, Header.stamp? (text ++ rest) = some (stamp, trimStart (tail ++ rest)) := by
  cases written with
  | classic named counted inMonth _ timed =>
      obtain ⟨behindName, days, start⟩ := splitWord?_gapped gapped
      obtain ⟨behindDay, times, day⟩ := splitWord?_gapped days
      obtain ⟨tail, later, time⟩ := splitWord?_gapped times
      refine ⟨tail, later, fun rest => ?_⟩
      simp only [Header.stamp?, Header.classicStamp?, Option.bind_eq_bind, Option.bind_some,
        splitWord?_trimStart, start, named, day, counted, time, timed, if_pos inMonth]
  | rfc3339 _ read =>
      have unnamed : first ∉ Header.monthNames := by
        intro named
        have undated : ∀ name ∈ Header.monthNames, Reading.rfc3339? name = none := by decide
        cases (undated first named).symm.trans read
      obtain ⟨tail, later, start⟩ := splitWord?_gapped gapped
      refine ⟨tail, later, fun rest => ?_⟩
      simp only [Header.stamp?, Option.bind_eq_bind, Option.bind_some, start,
        List.idxOf?_eq_none_iff.mpr unnamed, read, Option.map_some]

/-- A stamp as a daemon writes it: month name, day and time of day, or an RFC 3339 moment. -/
inductive WrittenStamp : Text → List Text → Stamp → Prop
  | classic {name dayWord clockWord : Text} {month : Nat} {clock : Clock}
      (named : Header.monthNames[month]? = some name) (nonempty : dayWord ≠ [])
      (numeral : dayWord.all Char.isDigit = true)
      (inMonth : 1 ≤ ofDigits dayWord ∧ ofDigits dayWord ≤ 31)
      (timed : Reading.IsClock clockWord clock) :
      WrittenStamp name [dayWord, clockWord] (.yearless (month + 1) (ofDigits dayWord) clock)
  | rfc3339 {word : Text} {moment : Moment} (written : Reading.IsRfc3339 word moment) :
      WrittenStamp word [] (.exact moment)

theorem idxOf?_monthNames {name : Text} {month : Nat}
    (named : Header.monthNames[month]? = some name) :
    Header.monthNames.idxOf? name = some month := by
  obtain ⟨bounded, _⟩ := List.getElem?_eq_some_iff.mp named
  have distinct : ∀ month < Header.monthNames.length, ∀ name ∈ Header.monthNames[month]?,
      Header.monthNames.idxOf? name = some month := by decide
  exact distinct month bounded name named

theorem WrittenStamp.stampWords (written : WrittenStamp first others stamp) :
    StampWords first others stamp := by
  cases written with
  | classic named nonempty numeral inMonth timed =>
      have counted := unsigned?_of_isDigit nonempty numeral
        (inMonth.2.trans_lt (by decide : 31 < Header.fieldBound))
      exact .classic (idxOf?_monthNames named) counted inMonth timed.isPlainWord.isWord
        timed.clockWord?
  | rfc3339 written => exact .rfc3339 written.isPlainWord.isWord written.rfc3339?

/-- The header of a line, word by word. -/
structure Heading where
  first : Text
  others : List Text
  stamp : Stamp
  host : Text
  program : Text
  process? : Option Text
  stampWords : StampWords first others stamp
  isWord_host : IsWord host
  isWord_program : IsWord program
  unbracketed : '[' ∉ program
  isNumber_process : ∀ process ∈ process?, ∃ number,
    unsigned? Header.fieldBound process = some number

namespace Heading

/-- The process number of a tag in brackets. -/
def bracketed (process? : Option Text) : Text :=
  match process? with
  | none => []
  | some process => '[' :: (process ++ [']'])

variable (heading : Heading)

/-- The tag in front of its colon. -/
def label : Text := heading.program ++ bracketed heading.process?

/-- The header as it is written. -/
def text : Text :=
  heading.first ++ spaced (heading.others ++ [heading.host, heading.label ++ [':']])

theorem program?_label : Header.program? (heading.label ++ [':']) = some heading.program := by
  have closed : withoutEnd? ':' (heading.label ++ [':']) = some heading.label :=
    withoutEnd?_eq_some_iff.mpr rfl
  have nonempty := heading.isWord_program.nonempty
  have unbracketed := occurs_singleton_of_not_mem heading.unbracketed
  simp only [Header.program?, closed, Option.bind_eq_bind, Option.bind_some]
  cases given : heading.process? with
  | none =>
      have bare : heading.label = heading.program := by
        rw [label, given, bracketed, List.append_nil]
      have uncut : cut? ['['] heading.program = none := by
        rwa [occurs, Option.isSome_eq_false_iff, Option.isNone_iff_eq_none] at unbracketed
      simp only [bare, uncut, if_neg nonempty]
  | some process =>
      obtain ⟨number, counted⟩ := heading.isNumber_process process given
      have first : occurs ['['] (heading.program ++ ['['].dropLast) = false := by
        rwa [List.dropLast_singleton, List.append_nil]
      have cut := cut?_append (List.cons_ne_nil '[' []) first (process ++ [']'])
      have numbered : heading.label = heading.program ++ ['['] ++ (process ++ [']']) := by
        rw [label, given, bracketed, List.append_assoc, List.singleton_append]
      rw [← numbered] at cut
      have inner : withoutEnd? ']' (process ++ [']']) = some process :=
        withoutEnd?_eq_some_iff.mpr rfl
      simp only [cut, inner, counted, Option.bind_some, Option.pure_def]

theorem isWord_label : IsWord (heading.label ++ [':']) := by
  rw [label, List.append_assoc]
  refine heading.isWord_program.append (IsComplete.append ?_ isPlainWord_colon.isComplete)
  cases given : heading.process? with
  | none => exact .nil
  | some process =>
      obtain ⟨number, counted⟩ := heading.isNumber_process process given
      have opening : IsPlainWord ['['] := by decide
      have inner := (isPlainWord_of_unsigned? counted).append (by decide : IsPlainWord [']'])
      exact (opening.append inner).isComplete

/-- The words of the header. -/
def words : List Text :=
  heading.first :: (heading.others ++ [heading.host, heading.label ++ [':']])

theorem gapped_text : Gapped heading.words (heading.text ++ [' ']) := by
  rw [text, List.append_assoc]
  apply gapped_spaced
  rw [← List.cons_append, List.forall_mem_append]
  refine ⟨heading.stampWords.isWord, ?_⟩
  simp only [List.forall_mem_cons]
  exact ⟨heading.isWord_host, heading.isWord_label, nofun⟩

/-- **A header is read as it is written**, whatever gaps there are between its words, and the rest
of the line is its message. -/
theorem ofLine?_gapped {text : Text} (gapped : Gapped heading.words text) (rest : Text) :
    Header.ofLine? (text ++ rest) = some ⟨heading.stamp, heading.program, trimStart rest⟩ := by
  obtain ⟨behindStamp, hosts, stamped⟩ := heading.stampWords.stamp? gapped
  obtain ⟨behindHost, tags, hosted⟩ := splitWord?_gapped hosts
  obtain ⟨tail, nothing, tagged⟩ := splitWord?_gapped tags
  cases nothing
  simp only [Header.ofLine?, Option.bind_eq_bind, Option.bind_some, splitWord?_trimStart,
    stamped, hosted, tagged, heading.program?_label, List.nil_append, Option.pure_def]

end Heading

end DeliveryTrace
