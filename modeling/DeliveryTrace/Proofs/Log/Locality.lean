import DeliveryTrace.Proofs.Log.Exim
import DeliveryTrace.Proofs.Text.Gap

/-! # Openings are read on their own

The opening of a line is read word by word and ends in front of the text of its event. The main
statement says that a line stays an entry of the same transaction, at the same moment, whatever
event is put in place of its own.
-/

namespace DeliveryTrace

open Text

/-! ## Headers -/

namespace Header

theorem isLocal_classicStamp? (month : Nat) : IsLocal (classicStamp? month) := by
  apply isLocal_splitWord?.bind
  intro dayWord
  apply IsLocal.test (unsigned? fieldBound dayWord)
  intro day
  apply isLocal_splitWord?.bind
  intro clockWord
  apply IsLocal.test (Reading.clockWord? clockWord)
  intro clock
  split
  · exact .pure _
  · exact .fail

theorem isLocal_stamp? : IsLocal stamp? := by
  apply isLocal_splitWord?.bind
  intro first
  cases named : monthNames.idxOf? first with
  | some index =>
      simp only [named]
      exact isLocal_classicStamp? (index + 1)
  | none =>
      simp only [named]
      cases Reading.rfc3339? first with
      | none => exact .fail
      | some moment => exact .pure _

/-- The header of a line, with the message as what is left to read. -/
def readOff? (line : Text) : Option ((Stamp × Text) × Text) :=
  (ofLine? line).map fun header => ((header.stamp, header.program), header.message)

theorem readOff?_eq_some_iff {line program message : Text} {stamp : Stamp} :
    readOff? line = some ((stamp, program), message) ↔
      ofLine? line = some ⟨stamp, program, message⟩ := by
  unfold readOff?
  cases ofLine? line with
  | none => exact iff_of_false nofun nofun
  | some header =>
      constructor
      · rintro ⟨⟩
        rfl
      · rintro ⟨⟩
        rfl

theorem isLocal_readOff? : IsLocal readOff? := by
  have parts : readOff? = fun line => (stamp? line).bind fun stamp =>
      (splitWord? stamp.2).bind fun host =>
        (splitWord? host.2).bind fun tag =>
          (program? tag.1).bind fun program => some ((stamp.1, program), tag.2) := by
    funext line
    simp only [readOff?, ofLine?, Option.bind_eq_bind, Option.map_bind, Function.comp_def]
    rfl
  rw [parts]
  apply isLocal_stamp?.bind
  intro stamp
  dsimp only
  apply isLocal_splitWord?.bind
  intro host
  dsimp only
  apply isLocal_splitWord?.bind
  intro tag
  apply IsLocal.test (program? tag)
  intro program
  exact .pure _

end Header

namespace Exim

variable {body text other before transaction : Text} {moment : Moment}

/-! ## Bodies -/

/-- To skip an optional word is to read on if the word that was read is optional. -/
theorem skipWord?_bind {α : Type} (test : Text → Bool) (next : Text × Text → Option α)
    (text : Text) :
    ((skipWord? test text).bind fun rest => (splitWord? rest).bind next) =
      (splitWord? text).bind fun (word, rest) =>
        (if test word then splitWord? rest else some (word, rest)).bind next := by
  unfold skipWord?
  cases found : splitWord? text with
  | none => rfl
  | some parts =>
      cases passed : test parts.1 with
      | true => simp [passed]
      | false => simp [passed, found]

theorem isLocal_optional (test : Text → Bool) (word : Text) :
    IsLocal fun text => if test word then splitWord? text else some (word, text) := by
  cases test word with
  | true => exact isLocal_splitWord?
  | false => exact .pure word

/-- The opening of a body, with the text of the event as what is left to read. -/
def readOff? (body : Text) : Option ((Moment × Text) × Text) :=
  (opening? body).map fun (moment, transaction, text) => ((moment, transaction), text)

theorem isLocal_readOff? : IsLocal readOff? := by
  have parts : readOff? = fun body => (splitWord? body).bind fun (dateWord, text) =>
      (splitWord? text).bind fun (clockWord, text) =>
        (Reading.dateWord? dateWord).bind fun date =>
          (Reading.fineClockWord? clockWord).bind fun clock =>
            (splitWord? text).bind fun (word, text) =>
              (if isTimezone word then splitWord? text else some (word, text)).bind
                fun (word, text) =>
                  (if isProcessNumber word then splitWord? text else some (word, text)).bind
                    fun (word, text) =>
                      if isMessageId word then some ((⟨date, clock⟩, word), text) else none := by
    funext body
    simp only [readOff?, opening?, Option.bind_eq_bind, Option.map_bind, Function.comp_def,
      skipWord?_bind, apply_ite (Option.map _), Option.map_some, Option.map_none]
  rw [parts]
  apply isLocal_splitWord?.bind
  intro dateWord
  apply isLocal_splitWord?.bind
  intro clockWord
  apply IsLocal.test (Reading.dateWord? dateWord)
  intro date
  apply IsLocal.test (Reading.fineClockWord? clockWord)
  intro clock
  apply isLocal_splitWord?.bind
  intro word
  apply (isLocal_optional isTimezone word).bind
  intro word
  apply (isLocal_optional isProcessNumber word).bind
  intro word
  change IsLocal fun text => if isMessageId word then some ((_, word), text) else none
  cases isMessageId word with
  | true => exact .pure _
  | false => exact .fail

theorem readOff?_eq_some_iff :
    readOff? body = some ((moment, transaction), text) ↔
      opening? body = some (moment, transaction, text) := by
  unfold readOff?
  cases opening? body with
  | none => exact iff_of_false nofun nofun
  | some found =>
      constructor
      · rintro ⟨⟩
        rfl
      · rintro ⟨⟩
        rfl

/-! ## Lines -/

theorem ofLine?_of_opening? (opened : opening? body = some (moment, transaction, text)) :
    Header.ofLine? body = none := by
  simp only [opening?, Option.bind_eq_bind, Option.bind_eq_some_iff] at opened
  obtain ⟨first, split, _, _, _, dated, _⟩ := opened
  exact ofLine?_of_splitWord? split dated

/-- A body that opens an entry still stands behind the same header if the event is replaced. -/
theorem body?_replace {front rest : Text} (bodied : body? (before ++ rest) = some (front ++ rest))
    (unheaded : Header.ofLine? (front ++ other) = none) (follows : rest ≠ [])
    (visible : StartsVisible other) : body? (before ++ other) = some (front ++ other) := by
  unfold body? at bodied ⊢
  cases headed : Header.ofLine? (before ++ rest) with
  | none =>
      rw [headed] at bodied
      have same : before = front := List.append_cancel_right (Option.some.inj bodied)
      rw [same, unheaded]
  | some header =>
      obtain ⟨stamp, program, message⟩ := header
      rw [headed] at bodied
      obtain ⟨isExim, same⟩ := Option.ite_none_right_eq_some.mp bodied
      cases same
      have read := Header.isLocal_readOff?.replace (Header.readOff?_eq_some_iff.mpr headed) follows
        visible
      rw [Header.readOff?_eq_some_iff.mp read]
      exact if_pos isExim

/-- **An entry keeps its opening whatever its event is.** If a text stands behind the opening of an
entry, then any other text may stand there. -/
theorem IsEntry.replace (entry : IsEntry (before ++ text) moment transaction (trimEnd text))
    (follows : text ≠ []) (shown : StartsVisible text) (nonempty : other ≠ [])
    (visible : StartsVisible other) :
    IsEntry (before ++ other) moment transaction (trimEnd other) := by
  obtain ⟨c, tail, rfl⟩ := List.exists_cons_of_ne_nil follows
  obtain ⟨d, rest, rfl⟩ := List.exists_cons_of_ne_nil nonempty
  have trimmed := trimEnd_append_cons (shown c rfl) [] tail
  have retrimmed := trimEnd_append_cons (visible d rfl) [] rest
  rw [List.nil_append, List.nil_append] at trimmed retrimmed
  obtain ⟨body, bodied, opened⟩ := Option.bind_eq_some_iff.mp entry
  rw [trimEnd_append_cons (shown c rfl)] at bodied
  rw [trimmed] at opened
  obtain ⟨front, rfl⟩ := isLocal_readOff?.suffix (readOff?_eq_some_iff.mpr opened)
  have starts := startsVisible_cons (visible d rfl) (trimEnd rest)
  have reread : readOff? (front ++ d :: trimEnd rest) =
      some ((moment, transaction), [] ++ d :: trimEnd rest) :=
    isLocal_readOff?.replace (readOff?_eq_some_iff.mpr opened) (List.cons_ne_nil _ _) starts
  have reopened := readOff?_eq_some_iff.mp reread
  rw [List.nil_append] at reopened
  refine Option.bind_eq_some_iff.mpr ⟨front ++ d :: trimEnd rest, ?_, by rw [reopened, retrimmed]⟩
  rw [trimEnd_append_cons (visible d rfl)]
  exact body?_replace bodied (ofLine?_of_opening? reopened) (List.cons_ne_nil _ _) starts

end Exim

end DeliveryTrace
