import DeliveryTrace.Proofs.Correlation.Exclusive
import DeliveryTrace.Proofs.Log.Locality

/-! # Every entry of a log has a digit

A date has a digit in its year, and a queue identifier has one by its shape. Reading a line passes
on nothing but parts of it, so the line has that digit too. The main statement says that a text
without ASCII digits is recognised in neither format, and that a window of such texts holds nothing
of any message; digits of other scripts count for nothing.
-/

namespace DeliveryTrace

open Text

/-- The text has an ASCII digit. -/
def Text.HasDigit (text : Text) : Prop := ∃ c ∈ text, c.isDigit = true

variable {text word rest : Text}

theorem Text.HasDigit.mono (digits : HasDigit word) (within : word ⊆ text) : HasDigit text := by
  obtain ⟨c, member, digit⟩ := digits
  exact ⟨c, within member, digit⟩

theorem Text.subset_of_splitWord? (found : splitWord? text = some (word, rest)) : word ⊆ text := by
  obtain ⟨lead, gap, rfl, _⟩ := exists_of_splitWord? found
  intro c member
  exact List.mem_append_right lead (List.mem_append_left _ member)

/-! ## Dates -/

namespace Reading

/-- A number that must have digits has one. -/
theorem hasDigit_of_leadingNumber? {least most value : Nat} (some_digit : 1 ≤ least)
    (found : leadingNumber? least most text = some (value, rest)) : HasDigit text := by
  obtain ⟨digits, numeral, enough, rfl⟩ := exists_digits_of_leadingNumber? found
  have nonempty : 0 < digits.length := Nat.lt_of_lt_of_le some_digit enough
  obtain ⟨c, member⟩ := List.exists_mem_of_length_pos nonempty
  exact ⟨c, List.mem_append_left rest member, numeral c member⟩

theorem hasDigit_of_year? {year : Int} (found : year? text = some (year, rest)) :
    HasDigit text := by
  have within : trimStart text ⊆ text := List.dropWhile_subset isBlank
  unfold year? at found
  split at found
  · next digits signed =>
    obtain ⟨_, number, _⟩ := Option.map_eq_some_iff.mp found
    rw [signed] at within
    exact (hasDigit_of_leadingNumber? le_rfl number).mono (List.subset_of_cons_subset within)
  · next digits signed =>
    obtain ⟨_, number, _⟩ := Option.map_eq_some_iff.mp found
    rw [signed] at within
    exact (hasDigit_of_leadingNumber? le_rfl number).mono (List.subset_of_cons_subset within)
  · obtain ⟨_, number, _⟩ := Option.map_eq_some_iff.mp found
    exact (hasDigit_of_leadingNumber? le_rfl number).mono within

theorem hasDigit_of_dateWord? {date : Date} (read : dateWord? word = some date) :
    HasDigit word := by
  unfold dateWord? whole? at read
  split at read
  · next found =>
    obtain ⟨_, year, _⟩ := Option.bind_eq_some_iff.mp found
    exact hasDigit_of_year? year
  · cases read

end Reading

/-! ## Lines -/

theorem Header.message_subset {line : Text} {header : Header}
    (headed : ofLine? line = some header) : header.message ⊆ line :=
  (isLocal_readOff?.suffix (readOff?_eq_some_iff.mpr headed)).subset

namespace Exim

variable {raw body transaction : Text} {moment : Moment}

theorem subset_of_body? (bodied : body? text = some body) : body ⊆ text := by
  unfold body? at bodied
  split at bodied
  · cases bodied
    exact List.Subset.refl text
  · next header headed =>
    obtain ⟨_, same⟩ := Option.ite_none_right_eq_some.mp bodied
    cases same
    exact Header.message_subset headed

/-- An entry has a digit in its date. -/
theorem hasDigit_of_isEntry (entry : IsEntry raw moment transaction text) : HasDigit raw := by
  obtain ⟨body, bodied, opened⟩ := Option.bind_eq_some_iff.mp entry
  obtain ⟨⟨dateWord, _⟩, split, opened⟩ := Option.bind_eq_some_iff.mp opened
  obtain ⟨_, _, opened⟩ := Option.bind_eq_some_iff.mp opened
  obtain ⟨_, dated, _⟩ := Option.bind_eq_some_iff.mp opened
  have inBody : HasDigit body :=
    (Reading.hasDigit_of_dateWord? dated).mono (subset_of_splitWord? split)
  have kept : trimEnd raw <+: raw := trimEnd_prefix raw
  exact (inBody.mono (subset_of_body? bodied)).mono kept.subset

end Exim

namespace Postfix

variable {raw daemon transaction : Text} {header : Header}

/-- An entry has a digit in its queue identifier. -/
theorem hasDigit_of_isEntry (entry : IsEntry raw header daemon transaction text) :
    HasDigit raw := by
  have digits : HasDigit transaction := by
    have valid := isQueueId_of_isEntry entry
    rw [isQueueId, Bool.and_eq_true] at valid
    exact List.any_eq_true.mp valid.2
  obtain ⟨⟨word, _⟩, split, opened⟩ := Option.bind_eq_some_iff.mp entry.opened
  obtain ⟨identifier, closed, named⟩ := Option.bind_eq_some_iff.mp opened
  obtain ⟨_, same⟩ := Option.ite_none_right_eq_some.mp named
  cases same
  have within : transaction ⊆ word := by
    rw [withoutEnd?_eq_some_iff.mp closed]
    exact List.subset_append_left transaction [':']
  have inMessage : HasDigit header.message :=
    (digits.mono within).mono (subset_of_splitWord? split)
  have kept : trimEnd raw <+: raw := trimEnd_prefix raw
  exact (inMessage.mono (Header.message_subset entry.headed)).mono kept.subset

end Postfix

/-- A line of a transaction has a digit. -/
theorem LogLine.hasDigit_of_transaction_ne_none {format : LogFormat} {raw : Text}
    (owned : (ofText format raw).transaction ≠ none) : HasDigit raw := by
  cases format with
  | eximLog =>
      cases opened : (Exim.body? (trimEnd raw)).bind Exim.opening? with
      | none =>
          refine absurd ?_ owned
          rw [ofText, Exim.parse, opened]
          rfl
      | some found => exact Exim.hasDigit_of_isEntry opened
  | postfixLog =>
      rcases Postfix.isEntry_or_unrecognised raw with ⟨_, _, _, _, entry⟩ | unread
      · exact Postfix.hasDigit_of_isEntry entry
      · refine absurd ?_ owned
        rw [ofText, unread]
        rfl

namespace MailLog

/-- **Text without digits is never recognised.** In either format a line without an ASCII digit
keeps its text and says nothing else; a window of such lines has no line of any message. -/
theorem ofText_of_not_isDigit :
    (∀ (format : LogFormat) (raw : Text), (∀ c ∈ raw, c.isDigit = false) →
      LogLine.ofText format raw =
        { raw
          stamp := none
          transaction := none
          messageId := none
          direction := .unparseable
          replyCode := none
          related := none }) ∧
    ∀ (format : LogFormat) (window : Window),
      (∀ raw ∈ window.lines, ∀ c ∈ raw, c.isDigit = false) →
      ∀ (limit : Nat) (attempts : List Attempt),
        (ofWindow format window).correlate limit attempts = [] := by
  have bare (format : LogFormat) (raw : Text) (digitless : ∀ c ∈ raw, c.isDigit = false) :
      (LogLine.ofText format raw).transaction = none := by
    by_contra owned
    obtain ⟨c, member, digit⟩ := LogLine.hasDigit_of_transaction_ne_none owned
    cases (digitless c member).symm.trans digit
  constructor
  · intro format raw digitless
    exact LogLine.ofText_of_transaction_eq_none (bare format raw digitless)
  · intro format window digitless limit attempts
    apply (isRead_ofWindow format window).correlate_eq_nil
    intro line member
    obtain ⟨raw, logged, rfl⟩ := List.mem_map.mp member
    exact bare format raw (digitless raw logged)

/-- Digits of another script make no stamp and no identifier. -/
theorem ofText_of_not_isDigit_arabic :
    let raw := "Jun ١٥ ١٦:٠٢:٤٠ mx postfix/qmgr[٥٢]: BA٦A٢F: removed".toList
    (∀ c ∈ raw, c.isDigit = false) ∧
      (∀ format, LogLine.ofText format raw = .unrecognised raw) ∧
      (ofWindow .postfixLog (.ofLines [raw])).correlate 8 [deliveredAttempt] = [] := by
  intro raw
  have digitless : ∀ c ∈ raw, c.isDigit = false := by simp [raw]
  obtain ⟨unread, nothing⟩ := ofText_of_not_isDigit
  refine ⟨digitless, fun format => unread format raw digitless, ?_⟩
  exact nothing .postfixLog (.ofLines [raw]) (List.forall_mem_singleton.mpr digitless) 8 _

end MailLog

end DeliveryTrace
