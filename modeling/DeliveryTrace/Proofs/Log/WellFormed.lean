import DeliveryTrace.Proofs.Log.Entry
import DeliveryTrace.Proofs.Text.Cut
import DeliveryTrace.Proofs.Text.Numeral

/-! # Log lines are well formed

The index and the verdict rely on how the fields of a line go together: which directions carry a
message identifier, a reply code or another transaction, and what these look like. The main
statement says that whatever text is read as a line, the fields go together in this way.
-/

namespace DeliveryTrace

open Text

/-! ## Reply codes and identifiers -/

namespace Reply

/-- A reply code has three digits, the first from 2 to 5. -/
theorem code?_bounds {text : Text} {code : Nat} (found : code? text = some code) :
    200 ≤ code ∧ code ≤ 599 := by
  unfold code? at found
  split at found
  · next a b c rest _ =>
    split at found
    · next shape =>
      obtain ⟨least, most, second, third, _⟩ := shape
      have hundreds : 50 ≤ a.toNat ∧ a.toNat ≤ 53 := ⟨least, most⟩
      have tens : 48 ≤ b.toNat ∧ b.toNat ≤ 57 := toNat_of_isDigit second
      have ones : 48 ≤ c.toNat ∧ c.toNat ≤ 57 := toNat_of_isDigit third
      have value := ofDigits_three a b c
      cases found
      omega
    · cases found
  · cases found

theorem isIdentifier_of_queueId? {reply identifier : Text}
    (found : queueId? reply = some identifier) : isIdentifier identifier = true := by
  simp only [queueId?, Option.bind_eq_bind, Option.bind_eq_some_iff] at found
  obtain ⟨named, _, last⟩ := found
  split at last
  · next proper =>
    cases last
    exact proper
  · cases last

theorem isIdentifier_iff {word : Text} :
    isIdentifier word = true ↔ word ≠ [] ∧ ∀ c ∈ word, isAsciiAlnum c = true ∨ c = '-' := by
  simp [isIdentifier]

end Reply

theorem Exim.isIdentifier_of_isMessageId {word : Text} (valid : isMessageId word = true) :
    Reply.isIdentifier word = true := by
  simp only [isMessageId, Bool.and_eq_true, List.all_eq_true] at valid
  obtain ⟨shape, alnum⟩ := valid
  refine Reply.isIdentifier_iff.mpr ⟨?_, ?_⟩
  · rintro rfl
    exact absurd shape (by decide)
  · intro c member
    by_cases hyphen : c = '-'
    · exact .inr hyphen
    · obtain ⟨piece, listed, inside⟩ := mem_pieces member hyphen
      exact .inl (alnum piece listed c inside)

theorem Postfix.isIdentifier_of_isQueueId {word : Text} (valid : isQueueId word = true) :
    Reply.isIdentifier word = true := by
  simp only [isQueueId, Bool.and_eq_true, List.all_eq_true, decide_eq_true_eq] at valid
  obtain ⟨⟨⟨least, _⟩, alnum⟩, _⟩ := valid
  refine Reply.isIdentifier_iff.mpr ⟨?_, fun c member => .inl (alnum c member)⟩
  rintro rfl
  exact absurd least (by decide)

/-! ## The event of a line -/

namespace LogLine

/-- The fields that tell the event of a line go together. -/
structure Coherent (format : LogFormat) (line : LogLine) : Prop where
  messageId : ∀ identifier ∈ line.messageId, line.direction = .inboundAccept ∧ identifier ≠ []
  related : ∀ other ∈ line.related,
    (line.direction = .outboundRelay ∨ line.direction = .bouncedNotify) ∧
      Reply.isIdentifier other = true ∧
      (format = .postfixLog ∨ line.direction = .bouncedNotify →
        format.isTransactionId other = true)
  replyCode : ∀ code ∈ line.replyCode, (200 ≤ code ∧ code ≤ 599) ∧
    line.direction ≠ .inboundAccept ∧ line.direction ≠ .removed

/-- Only the opening of the line was read. -/
structure Opened (line : LogLine) : Prop where
  messageId : line.messageId = none
  related : line.related = none
  replyCode : line.replyCode = none

variable {format : LogFormat} {line : LogLine}

/-- A direction alone is coherent. -/
theorem Opened.coherent (opened : line.Opened) (direction : Direction) :
    { line with direction }.Coherent format where
  messageId := by simp [opened.messageId]
  related := by simp [opened.related]
  replyCode := by simp [opened.replyCode]

theorem Opened.coherent_acceptance (opened : line.Opened) {messageId : Option Text}
    (nonempty : messageId ≠ some []) :
    { line with direction := .inboundAccept, messageId }.Coherent format where
  messageId identifier carried := by
    refine ⟨rfl, ?_⟩
    rintro rfl
    exact nonempty carried
  related := by simp [opened.related]
  replyCode := by simp [opened.replyCode]

theorem Opened.coherent_report (opened : line.Opened) {direction : Direction}
    {replyCode : Option Nat} {related : Option Text}
    (kind : direction ≠ .inboundAccept ∧ direction ≠ .removed)
    (bounded : ∀ code ∈ replyCode, 200 ≤ code ∧ code ≤ 599)
    (pointing : ∀ other ∈ related,
      (direction = .outboundRelay ∨ direction = .bouncedNotify) ∧
        Reply.isIdentifier other = true ∧
        (format = .postfixLog ∨ direction = .bouncedNotify →
          format.isTransactionId other = true)) :
    { line with direction, replyCode, related }.Coherent format where
  messageId := by simp [opened.messageId]
  related := pointing
  replyCode code told := ⟨bounded code told, kind⟩

end LogLine

namespace Exim

variable {line : LogLine}

theorem coherent_arrival (opened : line.Opened) (sender fields : Text) :
    (arrival line sender fields).Coherent .eximLog := by
  unfold arrival
  split
  · refine opened.coherent_report (by decide) (by simp [opened.replyCode]) ?_
    intro other named
    obtain ⟨_, valid⟩ := Option.filter_eq_some_iff.mp named
    exact ⟨.inr rfl, isIdentifier_of_isMessageId valid, fun _ => valid⟩
  · apply opened.coherent_acceptance
    intro empty
    exact absurd (Option.filter_eq_some_iff.mp empty).2 (by decide)

theorem coherent_delivery (opened : line.Opened) (fields : Text) :
    (delivery line fields).Coherent .eximLog := by
  unfold delivery
  refine opened.coherent_report (by decide) ?_ ?_
  · intro code told
    obtain ⟨reply, _, found⟩ := Option.bind_eq_some_iff.mp told
    exact Reply.code?_bounds found
  · intro other told
    obtain ⟨reply, _, found⟩ := Option.bind_eq_some_iff.mp told
    exact ⟨.inl rfl, Reply.isIdentifier_of_queueId? found, by simp⟩

theorem errorDirection_kind (code : Option Nat) :
    errorDirection code ≠ .inboundAccept ∧ errorDirection code ≠ .removed := by
  unfold errorDirection
  split
  · decide
  · split
    · decide
    · split <;> decide

theorem coherent_unflagged (opened : line.Opened) (text : Text) :
    (unflagged line text).Coherent .eximLog := by
  unfold unflagged
  split
  · exact opened.coherent .removed
  · split
    · refine opened.coherent_report (errorDirection_kind _) ?_ (by simp [opened.related])
      intro code told
      obtain ⟨before, _, found⟩ := List.exists_of_findSome?_eq_some told
      exact Reply.code?_bounds found
    · exact opened.coherent line.direction

/-- Every event is coherent. -/
theorem coherent_event (opened : line.Opened) (text : Text) :
    (event line text).Coherent .eximLog := by
  unfold event
  split
  · exact coherent_unflagged opened text
  · next first fields _ =>
    cases Event.ofFlag? first with
    | none => exact coherent_unflagged opened text
    | some kind =>
        cases kind with
        | arrival =>
            cases splitWord? fields with
            | none => exact coherent_arrival opened [] []
            | some parts => exact coherent_arrival opened parts.1 parts.2
        | delivery => exact coherent_delivery opened fields
        | suppressed => exact opened.coherent line.direction
        | deferral => exact opened.coherent .deferred
        | failure => exact opened.coherent .bouncedNotify

end Exim

namespace Postfix

variable {line : LogLine}

theorem statusDirection_kind (status : Text) :
    statusDirection status ≠ .inboundAccept ∧ statusDirection status ≠ .removed := by
  unfold statusDirection
  split
  · decide
  · split
    · decide
    · split <;> decide

theorem coherent_delivery (opened : line.Opened) (text : Text) :
    (delivery line text).Coherent .postfixLog := by
  unfold delivery
  cases cut? "status=".toList text with
  | none => exact opened.coherent line.direction
  | some parts =>
      refine opened.coherent_report (statusDirection_kind _) ?_ ?_
      · intro code told
        obtain ⟨reply, _, found⟩ := Option.bind_eq_some_iff.mp told
        exact Reply.code?_bounds found
      · intro other told
        obtain ⟨relay, named⟩ := Option.ite_none_right_eq_some.mp told
        obtain ⟨_, valid⟩ := Option.filter_eq_some_iff.mp named
        exact ⟨.inl relay, isIdentifier_of_isQueueId valid, fun _ => valid⟩

theorem messageId?_ne_nil (value : Text) : messageId? value ≠ some [] := by
  intro empty
  simp only [messageId?, Option.bind_eq_bind, Option.bind_eq_some_iff] at empty
  obtain ⟨_, _, last⟩ := empty
  split at last
  · cases last
  · next nonempty => exact nonempty (Option.some.inj last)

/-- Every record is coherent. -/
theorem coherent_record (opened : line.Opened) (daemon text : Text) :
    (record line daemon text).Coherent .postfixLog := by
  unfold record
  split
  · exact opened.coherent .removed
  · split
    · exact opened.coherent_acceptance (messageId?_ne_nil _)
    · split
      · exact coherent_delivery opened text
      · split
        · refine opened.coherent_report (by decide) (by simp [opened.replyCode]) ?_
          intro other named
          obtain ⟨_, valid⟩ := Option.filter_eq_some_iff.mp named
          exact ⟨.inr rfl, isIdentifier_of_isQueueId valid, fun _ => valid⟩
        · split
          · exact opened.coherent .inboundAccept
          · exact opened.coherent line.direction

end Postfix

/-! ## Whole lines -/

namespace LogLine

theorem opened_of_opening (raw : Text) (stamp : Option Stamp) (transaction : Option Text) :
    ({ raw, stamp, transaction } : LogLine).Opened :=
  ⟨rfl, rfl, rfl⟩

theorem coherent_ofText (format : LogFormat) (raw : Text) :
    (ofText format raw).Coherent format := by
  have unread : (unrecognised raw).Coherent format :=
    (opened_of_opening raw none none).coherent .unparseable
  cases format with
  | eximLog =>
      rcases Exim.parse_cases raw with ⟨moment, identifier, text, _, read⟩ | bare
      · rw [ofText, read]
        exact Exim.coherent_event (opened_of_opening raw _ _) text
      · rw [ofText, bare]
        exact unread
  | postfixLog =>
      rcases Postfix.isEntry_or_unrecognised raw with
        ⟨header, daemon, transaction, text, entry⟩ | bare
      · rw [ofText, Postfix.parse_of_isEntry entry]
        exact Postfix.coherent_record (opened_of_opening raw _ _) daemon text
      · rw [ofText, bare]
        exact unread

/-- The fields of a line go together: a line without a transaction is bare, and any other line has a
stamp, a proper transaction and a coherent event. -/
structure WellFormed (format : LogFormat) (line : LogLine) : Prop
    extends Coherent format line where
  bare : line.transaction = none → line.direction = .unparseable ∧ line.stamp = none ∧
    line.messageId = none ∧ line.replyCode = none ∧ line.related = none
  identified : ∀ transaction ∈ line.transaction, format.isTransactionId transaction = true
  stamped : line.transaction ≠ none → ∃ stamp, line.stamp = some stamp ∧
    (format = .eximLog → ∃ moment, stamp = .exact moment)

/-- **Every line is well formed**, whatever its text is. -/
theorem wellFormed_ofText (format : LogFormat) (raw : Text) :
    (ofText format raw).raw = raw ∧ (ofText format raw).WellFormed format := by
  refine ⟨raw_ofText format raw, ?_⟩
  refine
    { toCoherent := coherent_ofText format raw
      bare := ?_
      identified := ?_
      stamped := ?_ }
  · intro bare
    rw [ofText_of_transaction_eq_none bare]
    exact ⟨rfl, rfl, rfl, rfl, rfl⟩
  · intro transaction owned
    rcases opening_cases format raw with ⟨stamp, named, opened, valid, _⟩ | unread
    · cases (congrArg (fun opening => opening.2.2) opened).symm.trans owned
      exact valid
    · rw [unread] at owned
      cases owned
  · intro owned
    rcases opening_cases format raw with ⟨stamp, named, opened, _, exact⟩ | unread
    · exact ⟨stamp, congrArg (fun opening => opening.2.1) opened, exact⟩
    · rw [unread] at owned
      exact absurd rfl owned

end LogLine

end DeliveryTrace
