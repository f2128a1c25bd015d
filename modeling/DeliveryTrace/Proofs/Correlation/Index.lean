import DeliveryTrace.Correlation.Index
import DeliveryTrace.Proofs.FirstOccurrence
import Mathlib.Data.List.Induction

/-! # The index against the plain lines

Each table of the index holds what a scan of all lines finds: the lines of a transaction and the
notifications about it in log order, the accepted transactions, and the transactions accepted with
a message identifier in the order of their first such acceptance. Every statement follows the lines
as they are filed, one more line at the end at a time.
-/

namespace DeliveryTrace

namespace LogLine

/-- The line says that a transaction was accepted. -/
def Accepts (line : LogLine) (transaction : Text) : Prop :=
  line.direction = .inboundAccept ∧ line.transaction = some transaction

/-- The line says that one transaction relayed the message and names another one. -/
def Relays (line : LogLine) (source target : Text) : Prop :=
  line.direction = .outboundRelay ∧ line.transaction = some source ∧ line.related = some target

/-- The line is a notification that another transaction than its own bounced. -/
def Notifies (line : LogLine) (bounced : Text) : Prop :=
  line.direction = .bouncedNotify ∧ line.related = some bounced ∧ line.transaction ≠ some bounced

instance (line : LogLine) (bounced : Text) : Decidable (line.Notifies bounced) :=
  inferInstanceAs (Decidable (_ ∧ _))

/-- The transaction of an acceptance that carries a message identifier. -/
def acceptedWith? (line : LogLine) (messageId : Text) : Option Text :=
  if line.direction = .inboundAccept ∧ line.messageId = some messageId then line.transaction
  else none

theorem acceptedWith?_eq_some_iff {line : LogLine} {messageId transaction : Text} :
    line.acceptedWith? messageId = some transaction ↔
      line.Accepts transaction ∧ line.messageId = some messageId := by
  unfold acceptedWith? Accepts
  by_cases accepting : line.direction = .inboundAccept <;>
    by_cases carried : line.messageId = some messageId <;> simp [accepting, carried]

end LogLine

namespace Index

variable {format : LogFormat} {index : Index} {entry : PlacedLine} {own : Text}

/-! ## Filing one line -/

theorem add_of_transaction_eq_none (bare : entry.1.transaction = none) :
    add format index entry = index := by
  unfold add
  rw [bare]

theorem transactions_add (owned : entry.1.transaction = some own) :
    (add format index entry).transactions = index.transactions.file own entry := by
  unfold add
  rw [owned]
  cases entry.1.direction <;> cases format <;> simp

theorem items_transactions_add (transaction : Text) :
    (add format index entry).transactions.items transaction =
      index.transactions.items transaction ++
        [entry].filter fun entry => entry.1.transaction = some transaction := by
  cases owned : entry.1.transaction with
  | none => simp [add_of_transaction_eq_none owned, owned]
  | some own =>
      rw [transactions_add owned, Register.items_file]
      by_cases same : own = transaction <;> simp [same, owned]

theorem mem_accepted_add (transaction : Text) :
    transaction ∈ (add format index entry).accepted ↔
      transaction ∈ index.accepted ∨ entry.1.Accepts transaction := by
  cases owned : entry.1.transaction with
  | none => simp [add_of_transaction_eq_none owned, LogLine.Accepts, owned]
  | some own =>
      unfold add LogLine.Accepts
      rw [owned]
      cases entry.1.direction <;> cases format <;>
        simp [addAcceptance, Std.TreeSet.mem_insert, or_comm]

theorem items_messageIds_add (messageId : Text) :
    (add format index entry).messageIds.items messageId =
      index.messageIds.items messageId ++
        ([entry].filterMap fun entry => entry.1.acceptedWith? messageId).removeAll
          (index.messageIds.items messageId) := by
  unfold LogLine.acceptedWith?
  cases owned : entry.1.transaction with
  | none => simp [add_of_transaction_eq_none owned, owned]
  | some own =>
      unfold add
      rw [owned]
      cases direction : entry.1.direction with
      | inboundAccept =>
          cases carries : entry.1.messageId with
          | none => simp [addAcceptance, direction, carries]
          | some carried =>
              simp only [addAcceptance, Register.items_fileOnce]
              by_cases same : carried = messageId
              · subst carried
                by_cases filed : own ∈ index.messageIds.items messageId <;>
                  simp [direction, carries, owned, filed, List.removeAll]
              · simp [carries, same]
      | bouncedNotify => cases format <;> simp [direction]
      | outboundRelay => simp [direction]
      | removed => simp [direction]
      | deferred => simp [direction]
      | unparseable => simp [direction]

/-- An Exim notification is filed under the transaction that bounced; of a Postfix log none is. -/
theorem items_bounces_add (bounced : Text) :
    (add format index entry).bounces.items bounced =
      index.bounces.items bounced ++ [entry].filter fun entry =>
        format = .eximLog ∧ entry.1.transaction ≠ none ∧ entry.1.Notifies bounced := by
  unfold LogLine.Notifies
  cases owned : entry.1.transaction with
  | none => simp [add_of_transaction_eq_none owned, owned]
  | some own =>
      unfold add
      rw [owned]
      cases direction : entry.1.direction with
      | bouncedNotify =>
          cases format with
          | postfixLog => simp
          | eximLog =>
              unfold addBounce
              cases names : entry.1.related with
              | none => simp [names]
              | some named =>
                  by_cases self : named = own
                  · subst named
                    by_cases same : own = bounced <;> simp [direction, names, owned, same]
                  · by_cases same : named = bounced
                    · subst named
                      simp [direction, names, owned, Register.items_file, self, Ne.symm self]
                    · simp [names, Register.items_file, self, same]
      | inboundAccept => simp [direction]
      | outboundRelay => simp [direction]
      | removed => simp [direction]
      | deferred => simp [direction]
      | unparseable => simp [direction]

/-! ## Filing all lines -/

theorem ofLines_append_singleton (format : LogFormat) (lines : List LogLine) (line : LogLine) :
    ofLines format (lines ++ [line]) = add format (ofLines format lines) (line, lines.length) := by
  simp [ofLines, List.zipIdx_append]

/-- The index files the lines of a transaction in log order. -/
theorem items_transactions (format : LogFormat) (lines : List LogLine) (transaction : Text) :
    (ofLines format lines).transactions.items transaction =
      lines.zipIdx.filter fun entry => entry.1.transaction = some transaction := by
  induction lines using List.reverseRecOn with
  | nil => exact Register.items_empty transaction
  | append_singleton lines line ih =>
      rw [ofLines_append_singleton, items_transactions_add, ih, List.zipIdx_append,
        List.filter_append]
      simp

/-- A transaction counts as accepted if some line of the log says so. -/
theorem mem_accepted (format : LogFormat) (lines : List LogLine) (transaction : Text) :
    transaction ∈ (ofLines format lines).accepted ↔
      ∃ line ∈ lines, line.Accepts transaction := by
  induction lines using List.reverseRecOn with
  | nil => simp [ofLines]
  | append_singleton lines line ih =>
      rw [ofLines_append_singleton, mem_accepted_add, ih]
      simp [or_and_right, exists_or]

private theorem removeAll_eraseDups (transaction : Text) (filed : List Text) :
    [transaction].removeAll filed.eraseDups = ([transaction].removeAll filed).eraseDups := by
  by_cases earlier : transaction ∈ filed <;> simp [List.removeAll, earlier, List.eraseDups_cons]

/-- The index files each transaction once under the identifier of its acceptances, in the order of
the first such acceptances. -/
theorem items_messageIds (format : LogFormat) (lines : List LogLine) (messageId : Text) :
    (ofLines format lines).messageIds.items messageId =
      (lines.filterMap fun line => line.acceptedWith? messageId).eraseDups := by
  induction lines using List.reverseRecOn with
  | nil => exact Register.items_empty messageId
  | append_singleton lines line ih =>
      rw [ofLines_append_singleton, items_messageIds_add, ih, List.filterMap_append,
        List.eraseDups_append]
      cases accepted : line.acceptedWith? messageId with
      | none => simp [accepted]
      | some transaction => simp [accepted, removeAll_eraseDups]

/-- The index files the notifications about a transaction in log order, for Exim alone and unless
they have no transaction themselves. -/
theorem items_bounces (format : LogFormat) (lines : List LogLine) (bounced : Text) :
    (ofLines format lines).bounces.items bounced = lines.zipIdx.filter fun entry =>
      format = .eximLog ∧ entry.1.transaction ≠ none ∧ entry.1.Notifies bounced := by
  induction lines using List.reverseRecOn with
  | nil => exact Register.items_empty bounced
  | append_singleton lines line ih =>
      rw [ofLines_append_singleton, items_bounces_add, ih, List.zipIdx_append,
        List.filter_append]
      simp

end Index

end DeliveryTrace
