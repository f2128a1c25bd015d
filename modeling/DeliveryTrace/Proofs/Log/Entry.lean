import DeliveryTrace.Log.Parse

/-! # Entries of a log

A line is an entry of its log if its opening names a transaction; any other line is unrecognised.
Whatever the event or the record behind the opening says, it leaves the opening alone. So a line
that says anything at all belongs to a transaction.
-/

namespace DeliveryTrace

/-- What the opening of a line says: its text, its stamp and its transaction. -/
def LogLine.opening (line : LogLine) : Text × Option Stamp × Option Text :=
  (line.raw, line.stamp, line.transaction)

namespace Exim

theorem opening_arrival (line : LogLine) (sender fields : Text) :
    (arrival line sender fields).opening = line.opening := by
  unfold arrival
  split <;> rfl

theorem opening_unflagged (line : LogLine) (text : Text) :
    (unflagged line text).opening = line.opening := by
  unfold unflagged
  split
  · rfl
  · split <;> rfl

/-- The event of a line leaves its opening alone. -/
theorem opening_event (line : LogLine) (text : Text) :
    (event line text).opening = line.opening := by
  unfold event
  split
  · exact opening_unflagged line text
  · split
    · exact opening_unflagged line text
    · split <;> exact opening_arrival line _ _
    all_goals rfl

/-- The text of a line is of no account for its event. -/
theorem event_withRaw (line : LogLine) (raw text : Text) :
    event { line with raw } text = { event line text with raw } := by
  have noted : unflagged { line with raw } text = { unflagged line text with raw } := by
    unfold unflagged
    split
    · rfl
    · split <;> rfl
  have arrived (sender fields : Text) :
      arrival { line with raw } sender fields = { arrival line sender fields with raw } := by
    unfold arrival
    split <;> rfl
  unfold event
  split
  · exact noted
  · split
    · exact noted
    · split
      · exact arrived _ _
      · exact arrived _ _
    all_goals rfl

theorem isMessageId_of_opening? {body identifier text : Text} {moment : Moment}
    (opened : opening? body = some (moment, identifier, text)) : isMessageId identifier = true := by
  simp only [opening?, Option.bind_eq_bind, Option.bind_eq_some_iff] at opened
  obtain ⟨_, _, _, _, _, _, _, _, _, _, _, _, ⟨word, _⟩, _, last⟩ := opened
  split at last
  · next valid =>
    cases last
    exact valid
  · cases last

/-- The line is an entry of a transaction, with its moment and the text of its event. -/
def IsEntry (raw : Text) (moment : Moment) (transaction text : Text) : Prop :=
  (body? (Text.trimEnd raw)).bind opening? = some (moment, transaction, text)

instance (raw : Text) (moment : Moment) (transaction text : Text) :
    Decidable (IsEntry raw moment transaction text) :=
  inferInstanceAs (Decidable (_ = _))

theorem parse_eq_event {raw transaction text : Text} {moment : Moment}
    (entry : IsEntry raw moment transaction text) :
    parse raw =
      event { raw, stamp := some (.exact moment), transaction := some transaction } text := by
  unfold parse
  rw [show (body? (Text.trimEnd raw)).bind opening? = _ from entry]

theorem stamp_parse {raw transaction text : Text} {moment : Moment}
    (entry : IsEntry raw moment transaction text) :
    (parse raw).stamp = some (.exact moment) := by
  rw [parse_eq_event entry]
  exact congrArg (fun opening => opening.2.1) (opening_event _ text)

theorem transaction_parse {raw transaction text : Text} {moment : Moment}
    (entry : IsEntry raw moment transaction text) : (parse raw).transaction = some transaction := by
  rw [parse_eq_event entry]
  exact congrArg (fun opening => opening.2.2) (opening_event _ text)

/-- A line tells an event of the transaction that its opening names, or it is unrecognised. -/
theorem parse_cases (raw : Text) :
    (∃ moment identifier text, isMessageId identifier = true ∧
      parse raw =
        event { raw, stamp := some (.exact moment), transaction := some identifier } text) ∨
    parse raw = .unrecognised raw := by
  cases opened : (body? (Text.trimEnd raw)).bind opening? with
  | none =>
      refine .inr ?_
      unfold parse
      rw [opened]
  | some found =>
      obtain ⟨body, _, named⟩ := Option.bind_eq_some_iff.mp opened
      exact .inl ⟨found.1, found.2.1, found.2.2, isMessageId_of_opening? named,
        parse_eq_event opened⟩

end Exim

namespace Postfix

/-- The line is an entry of a transaction, with the daemon that wrote it and its record. -/
structure IsEntry (raw : Text) (header : Header) (daemon transaction text : Text) : Prop where
  headed : Header.ofLine? (Text.trimEnd raw) = some header
  tagged : daemon? header.program = some daemon
  opened : opening? header.message = some (transaction, text)

variable {raw daemon transaction text : Text} {header : Header}

/-- Whether a line is such an entry can be computed. -/
theorem exists_isEntry_iff :
    (∃ header, IsEntry raw header daemon transaction text) ↔
      (Header.ofLine? (Text.trimEnd raw)).any fun header =>
        daemon? header.program = some daemon ∧
          opening? header.message = some (transaction, text) := by
  rw [Option.any_eq_true]
  refine exists_congr fun header => ?_
  rw [decide_eq_true_eq]
  exact ⟨fun entry => ⟨entry.headed, entry.tagged, entry.opened⟩,
    fun ⟨headed, tagged, opened⟩ => ⟨headed, tagged, opened⟩⟩

theorem parse_of_isEntry (entry : IsEntry raw header daemon transaction text) :
    parse raw =
      record { raw, stamp := some header.stamp, transaction := some transaction } daemon text := by
  simp [parse, entry.headed, entry.tagged, entry.opened]

theorem opening_delivery (line : LogLine) (record : Text) :
    (delivery line record).opening = line.opening := by
  unfold delivery
  split <;> rfl

/-- The record of a line leaves its opening alone. -/
theorem opening_record (line : LogLine) (daemon text : Text) :
    (record line daemon text).opening = line.opening := by
  unfold record
  split
  · rfl
  · split
    · rfl
    · split
      · exact opening_delivery line text
      · split
        · rfl
        · split <;> rfl

/-- The text and the stamp of a line are of no account for its record. -/
theorem record_withHeader (line : LogLine) (daemon text newRaw : Text) (stamp : Option Stamp) :
    record { line with raw := newRaw, stamp } daemon text =
      { record line daemon text with raw := newRaw, stamp } := by
  unfold record
  split
  · rfl
  · split
    · rfl
    · split
      · unfold delivery
        split <;> rfl
      · split
        · rfl
        · split <;> rfl

theorem stamp_parse (entry : IsEntry raw header daemon transaction text) :
    (parse raw).stamp = some header.stamp := by
  rw [parse_of_isEntry entry]
  exact congrArg (fun opening => opening.2.1) (opening_record _ daemon text)

theorem transaction_parse (entry : IsEntry raw header daemon transaction text) :
    (parse raw).transaction = some transaction := by
  rw [parse_of_isEntry entry]
  exact congrArg (fun opening => opening.2.2) (opening_record _ daemon text)

theorem isQueueId_of_isEntry (entry : IsEntry raw header daemon transaction text) :
    isQueueId transaction = true := by
  have opened := entry.opened
  simp only [opening?, Option.bind_eq_bind, Option.bind_eq_some_iff] at opened
  obtain ⟨_, _, identifier, _, last⟩ := opened
  split at last
  · next valid =>
    cases last
    exact valid
  · cases last

/-- A line is an entry or unrecognised. -/
theorem isEntry_or_unrecognised (raw : Text) :
    (∃ header daemon transaction text, IsEntry raw header daemon transaction text) ∨
      parse raw = .unrecognised raw := by
  unfold parse
  cases headed : Header.ofLine? (Text.trimEnd raw) with
  | none => exact .inr rfl
  | some header =>
      cases tagged : daemon? header.program with
      | none => simp [tagged]
      | some daemon =>
          cases opened : opening? header.message with
          | none => simp [tagged, opened]
          | some found => exact .inl ⟨header, daemon, found.1, found.2, headed, tagged, opened⟩

end Postfix

/-- What identifies a transaction in a log of the format. -/
def LogFormat.isTransactionId : LogFormat → Text → Bool
  | .eximLog => Exim.isMessageId
  | .postfixLog => Postfix.isQueueId

namespace LogLine

variable {format : LogFormat} {raw : Text}

/-- The opening of a line has a stamp and names a transaction, or the line is unrecognised. -/
theorem opening_cases (format : LogFormat) (raw : Text) :
    (∃ stamp transaction, (ofText format raw).opening = (raw, some stamp, some transaction) ∧
      format.isTransactionId transaction = true ∧
      (format = .eximLog → ∃ moment, stamp = .exact moment)) ∨
    ofText format raw = .unrecognised raw := by
  cases format with
  | eximLog =>
      refine (Exim.parse_cases raw).imp_left ?_
      rintro ⟨moment, identifier, text, valid, read⟩
      have opened := Exim.opening_event
        { raw, stamp := some (.exact moment), transaction := some identifier } text
      rw [← read] at opened
      exact ⟨.exact moment, identifier, opened, valid, fun _ => ⟨moment, rfl⟩⟩
  | postfixLog =>
      refine (Postfix.isEntry_or_unrecognised raw).imp_left ?_
      rintro ⟨header, daemon, transaction, text, entry⟩
      have opened := Postfix.opening_record
        { raw, stamp := some header.stamp, transaction := some transaction } daemon text
      rw [← Postfix.parse_of_isEntry entry] at opened
      exact ⟨header.stamp, transaction, opened, Postfix.isQueueId_of_isEntry entry, nofun⟩

/-- A transaction is named as the format of the log has it. -/
theorem isTransactionId_of_ofText {transaction : Text}
    (owned : (ofText format raw).transaction = some transaction) :
    format.isTransactionId transaction = true := by
  rcases opening_cases format raw with ⟨stamp, own, opened, valid, _⟩ | unread
  · have named := congrArg (fun opening => opening.2.2) opened
    cases named.symm.trans owned
    exact valid
  · rw [unread] at owned
    cases owned

/-- **Whatever says something belongs to a transaction.** A line without one is unrecognised. -/
theorem ofText_of_transaction_eq_none (bare : (ofText format raw).transaction = none) :
    ofText format raw = .unrecognised raw := by
  refine (opening_cases format raw).resolve_left ?_
  rintro ⟨stamp, transaction, opened, _⟩
  have owned := congrArg (fun opening => opening.2.2) opened
  cases owned.symm.trans bare

theorem raw_ofText (format : LogFormat) (raw : Text) : (ofText format raw).raw = raw := by
  rcases opening_cases format raw with ⟨stamp, transaction, opened, _⟩ | unread
  · exact congrArg Prod.fst opened
  · rw [unread]
    rfl

end LogLine

end DeliveryTrace
