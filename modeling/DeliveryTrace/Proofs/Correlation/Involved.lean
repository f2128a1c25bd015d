import DeliveryTrace.Proofs.Correlation.Belonging
import DeliveryTrace.Proofs.Correlation.Budget
import DeliveryTrace.Report

/-! # The transactions that a report names

A report takes its transactions from the correlated lines and not from the search. The main
statement says that they are the reached transactions and those of linked notifications, each once
and in the order of their first matched lines.
-/

namespace DeliveryTrace

open Text

/-! ## Notifications as they are logged -/

namespace Exim

/-- The text is an entry of its own transaction: an arrival from the empty sender, whose `R` field
names the transaction that bounced. -/
def IsNotice (raw own bounced : Text) : Prop :=
  ∃ moment text sent fields, IsEntry raw moment own text ∧
    splitWord? text = some (['<', '='], sent) ∧ splitWord? sent = some (['<', '>'], fields) ∧
    field? ['R'] fields = some bounced

variable {line : LogLine} {raw own text bounced : Text}

theorem ofFlag?_eq_arrival_iff {flag : Text} :
    Event.ofFlag? flag = some .arrival ↔ flag = ['<', '='] := by
  unfold Event.ofFlag?
  by_cases arrives : flag = ['<', '=']
  · simp only [arrives, if_true]
  · rw [if_neg arrives]
    refine iff_of_false (fun found => ?_) arrives
    repeat' split at found
    all_goals cases found

theorem related_unflagged (line : LogLine) (text : Text) :
    (unflagged line text).related = line.related := by
  unfold unflagged
  split
  · rfl
  · split <;> rfl

/-- An arrival bounced only if its sender is empty. -/
theorem arrival_bounces_iff {sender fields : Text} :
    (arrival line sender fields).direction = .bouncedNotify ∧
        (arrival line sender fields).related = some bounced ↔
      sender = ['<', '>'] ∧ (field? ['R'] fields).filter isMessageId = some bounced := by
  unfold arrival
  by_cases empty : sender = ['<', '>']
  · simp only [empty, if_true, true_and]
  · simp [empty]

/-- Only an arrival from the empty sender says which transaction bounced. -/
theorem event_bounces_iff (silent : line.related = none) :
    (event line text).direction = .bouncedNotify ∧ (event line text).related = some bounced ↔
      ∃ sent fields, splitWord? text = some (['<', '='], sent) ∧
        splitWord? sent = some (['<', '>'], fields) ∧
        (field? ['R'] fields).filter isMessageId = some bounced := by
  have untold : (unflagged line text).related ≠ some bounced := by
    rw [related_unflagged, silent]
    exact nofun
  constructor
  · intro told
    unfold event at told
    split at told
    · exact absurd told.2 untold
    · next flag sent first =>
      split at told
      · exact absurd told.2 untold
      · next arrives =>
        rw [ofFlag?_eq_arrival_iff] at arrives
        subst arrives
        split at told
        · exact absurd (arrival_bounces_iff.mp told).1 nofun
        · next sender fields second =>
          obtain ⟨rfl, named⟩ := arrival_bounces_iff.mp told
          exact ⟨sent, fields, first, second, named⟩
      · cases told.1
      all_goals cases silent.symm.trans told.2
  · rintro ⟨sent, fields, first, second, named⟩
    have arrives : Event.ofFlag? ['<', '='] = some .arrival := rfl
    simp only [event, first, arrives, second]
    exact arrival_bounces_iff.mpr ⟨rfl, named⟩

/-- **A notification names the bounced transaction in its `R` field.** -/
theorem notifies_parse_iff :
    (parse raw).transaction = some own ∧ (parse raw).Notifies bounced ↔
      IsNotice raw own bounced ∧ isMessageId bounced = true ∧ bounced ≠ own := by
  constructor
  · rintro ⟨owned, bounces, named, foreign⟩
    cases opened : (body? (trimEnd raw)).bind opening? with
    | none =>
        rw [parse, opened] at owned
        cases owned
    | some found =>
        obtain ⟨moment, identifier, text⟩ := found
        have entry : IsEntry raw moment identifier text := opened
        cases (transaction_parse entry).symm.trans owned
        rw [parse_eq_event entry] at bounces named
        obtain ⟨sent, fields, first, second, told⟩ := (event_bounces_iff rfl).mp ⟨bounces, named⟩
        obtain ⟨field, valid⟩ := Option.filter_eq_some_iff.mp told
        refine ⟨⟨moment, text, sent, fields, entry, first, second, field⟩, valid, ?_⟩
        rintro rfl
        exact foreign owned
  · rintro ⟨⟨moment, text, sent, fields, entry, first, second, field⟩, valid, foreign⟩
    have owned := transaction_parse entry
    have told := Option.filter_eq_some_iff.mpr ⟨field, valid⟩
    have bounces : (parse raw).direction = .bouncedNotify ∧ (parse raw).related = some bounced := by
      rw [parse_eq_event entry]
      exact (event_bounces_iff rfl).mpr ⟨sent, fields, first, second, told⟩
    refine ⟨owned, bounces.1, bounces.2, fun same => foreign ?_⟩
    exact Option.some.inj (same.symm.trans owned)

end Exim

namespace MailLog

variable {log : MailLog} {limit : Nat} {attempts : List Attempt} {transaction : Text}

/-- The transaction of the line at a position. -/
def transactionAt? (log : MailLog) (position : Nat) : Option Text :=
  log.lines[position]?.bind LogLine.transaction

/-- The first matched line of one transaction stands in front of every matched line of another. -/
def StartsBefore (log : MailLog) (limit : Nat) (attempts : List Attempt) (first second : Text) :
    Prop :=
  ∃ position ∈ log.matchedPositions limit attempts, log.transactionAt? position = some first ∧
    ∀ other ∈ log.matchedPositions limit attempts, log.transactionAt? other = some second →
      position < other

theorem Reached.accepted (reached : log.Reached limit attempts transaction) :
    ∃ line ∈ log.lines, line.Accepts transaction := by
  obtain ⟨_, _, chain⟩ := reached
  exact chain.accepted

theorem Reached.isTransactionId (read : log.IsRead)
    (reached : log.Reached limit attempts transaction) :
    log.format.isTransactionId transaction = true := by
  obtain ⟨line, member, _, owned⟩ := reached.accepted
  obtain ⟨raw, rfl⟩ := read line member
  exact LogLine.isTransactionId_of_ofText owned

/-- A report names the transactions of the lines that belong to the message. -/
theorem mem_transactions_assess (read : log.IsRead) :
    transaction ∈ (log.assess limit attempts).transactions ↔
      ∃ line ∈ log.lines, log.Belongs limit attempts line ∧
        line.transaction = some transaction := by
  simp only [assess, Report.ofLines, transactionIds, List.mem_eraseDups, List.mem_filterMap,
    mem_correlate read, and_assoc]

/-- The line of a rank stands at the position of this rank. -/
theorem transactionAt?_getElem {rank : Nat}
    (within : rank < (log.positions limit attempts).length) :
    log.transactionAt? (log.positions limit attempts)[rank] =
      (log.correlate limit attempts)[rank]?.bind LogLine.transaction := by
  rw [transactionAt?, getElem?_correlate within]

/-- The order of the first correlated lines is the order of the first matched lines in the log. -/
theorem startsBefore_of_findIdx_lt (read : log.IsRead) {first second : Text}
    (earlier : ((log.correlate limit attempts).findIdx fun line => line.transaction = some first) <
      (log.correlate limit attempts).findIdx fun line => line.transaction = some second) :
    log.StartsBefore limit attempts first second := by
  obtain ⟨rank, least⟩ : ∃ rank, rank =
    (log.correlate limit attempts).findIdx fun line => line.transaction = some first := ⟨_, rfl⟩
  rw [← least] at earlier
  have short := Nat.lt_of_lt_of_le earlier List.findIdx_le_length
  have within := short
  rw [length_correlate] at within
  refine ⟨(log.positions limit attempts)[rank], ?_, ?_, ?_⟩
  · rw [← mem_positions_iff_mem_matchedPositions read]
    exact List.getElem_mem within
  · rw [transactionAt?_getElem within, List.getElem?_eq_getElem short, Option.bind_some]
    subst least
    exact of_decide_eq_true (List.findIdx_getElem (w := short))
  · intro other matched owned
    rw [← mem_positions_iff_mem_matchedPositions read] at matched
    obtain ⟨later, inside, rfl⟩ := List.mem_iff_getElem.mp matched
    have rising := List.pairwise_iff_getElem.mp (log.positions_pairwise limit attempts)
    apply rising _ _ within inside
    apply Nat.lt_of_lt_of_le earlier
    -- The second transaction has no line in front of the first of its lines.
    by_contra sooner
    have missed := List.not_of_lt_findIdx (Nat.lt_of_not_le sooner)
    rw [transactionAt?_getElem inside, List.getElem?_eq_getElem (length_correlate .. ▸ inside),
      Option.bind_some] at owned
    exact of_decide_eq_false missed owned

/-- **A report names exactly the transactions involved.** Each is named once, in the order of their
first matched lines. They are the reached transactions and, in an Exim log, those of the arrivals
whose `R` field names another transaction that is reached. -/
theorem transactions_assess (format : LogFormat) (window : Window) (limit : Nat)
    (attempts : List Attempt) :
    let log := ofWindow format window
    let report := log.assess limit attempts
    report.transactions.Nodup ∧
    report.transactions.Pairwise (log.StartsBefore limit attempts) ∧
    ∀ transaction, transaction ∈ report.transactions ↔
      log.Reached limit attempts transaction ∨
      format = .eximLog ∧ ∃ raw ∈ window.lines, ∃ bounced,
        Exim.IsNotice raw transaction bounced ∧ bounced ≠ transaction ∧
          log.Reached limit attempts bounced := by
  intro log report
  have read : log.IsRead := isRead_ofWindow format window
  refine ⟨nodup_eraseDups _, ?_, fun transaction => ?_⟩
  · have ordered := pairwise_findIdx_eraseDups LogLine.transaction (log.correlate limit attempts)
    exact ordered.imp fun earlier => startsBefore_of_findIdx_lt read earlier
  rw [mem_transactions_assess read]
  constructor
  · rintro ⟨line, member, belongs, owned⟩
    rcases belongs with ⟨own, named, reached⟩ | ⟨exim, bounced, notifies, reached⟩
    · cases named.symm.trans owned
      exact .inl reached
    · obtain ⟨raw, logged, rfl⟩ := List.mem_map.mp member
      cases (exim : format = .eximLog)
      obtain ⟨notice, _, other⟩ := Exim.notifies_parse_iff.mp ⟨owned, notifies⟩
      exact .inr ⟨rfl, raw, logged, bounced, notice, other, reached⟩
  · rintro (reached | ⟨rfl, raw, logged, bounced, notice, other, reached⟩)
    · obtain ⟨line, member, _, owned⟩ := reached.accepted
      exact ⟨line, member, .inl ⟨transaction, owned, reached⟩, owned⟩
    · have valid : Exim.isMessageId bounced = true := reached.isTransactionId read
      obtain ⟨owned, notifies⟩ := Exim.notifies_parse_iff.mpr ⟨notice, valid, other⟩
      exact ⟨_, List.mem_map_of_mem logged, .inr ⟨rfl, bounced, notifies, reached⟩, owned⟩

end MailLog

end DeliveryTrace
