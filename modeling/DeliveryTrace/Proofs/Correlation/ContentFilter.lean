import DeliveryTrace.Proofs.Correlation.Belonging
import DeliveryTrace.Proofs.Log.Handoff

/-! # Handoffs through a content filter

A content filter queues the message again, and the reply to Postfix says as which transaction. The
main statement says when the lines of that transaction are found: unless it is reached on another
way, the first `id=` word of the reply must name it too or be missing.
-/

namespace DeliveryTrace

namespace Postfix

/-- The line says that a delivery of a transaction succeeded and that the reply was the detail,
which says once that the message was queued as the next transaction. -/
structure QueuedAs (raw transaction middle detail next : Text) : Prop where
  entry : ∃ header daemon, IsEntry raw header daemon transaction (sentRecord middle detail)
  queued : ∃ rest, Text.afters "queued as ".toList detail = [next ++ rest] ∧ Text.EndsWord rest
  valid : isQueueId next = true

variable {raw transaction middle detail next : Text}

theorem QueuedAs.transaction_eq (told : QueuedAs raw transaction middle detail next) :
    (LogLine.ofText .postfixLog raw).transaction = some transaction := by
  obtain ⟨header, daemon, entry⟩ := told.entry
  exact transaction_parse entry

/-- The line relays to the next transaction unless the first `id=` word names something else. -/
theorem QueuedAs.relays_iff (told : QueuedAs raw transaction middle detail next)
    (first : StatusFirst middle) :
    (LogLine.ofText .postfixLog raw).Relays transaction next ↔ Reply.PointsAt detail next := by
  obtain ⟨header, daemon, entry⟩ := told.entry
  obtain ⟨rest, queued, ends⟩ := told.queued
  have parsed : LogLine.ofText .postfixLog raw = _ := parse_sentRecord entry first
  rw [← Reply.queueId?_eq_some_iff queued (ne_nil_of_isQueueId told.valid)
    (isAsciiAlnum_of_isQueueId told.valid) ends, parsed]
  simp [LogLine.Relays, Option.filter_eq_some_iff, told.valid]

/-- A status further to the front that is not `sent` hides the relay. -/
theorem QueuedAs.not_relays (told : QueuedAs raw transaction middle detail next)
    (hidden : statedStatus? (sentRecord middle detail) ≠ some "sent".toList) :
    ¬ (LogLine.ofText .postfixLog raw).Relays transaction next := by
  obtain ⟨header, daemon, entry⟩ := told.entry
  intro relays
  have relay := relays.1
  change (parse raw).direction = _ at relay
  rw [parse_of_isEntry entry] at relay
  exact hidden (statedStatus?_of_relay rfl ((record_of_recipient _ daemon _).symm ▸ relay))

end Postfix

namespace MailLog

/-- The transaction is reached without the handoff that one line tells. -/
def ReachedBesides (log : MailLog) (limit : Nat) (attempts : List Attempt) (line : LogLine)
    (transaction : Text) : Prop :=
  log.IsSeed attempts transaction ∨
    ∃ length < limit, ∃ source, log.ChainTo attempts length source ∧ transaction ≠ source ∧
      ∃ other ∈ log.lines, other ≠ line ∧ other.Relays source transaction

variable {log : MailLog} {limit : Nat} {attempts : List Attempt} {line : LogLine}
  {source target : Text}

/-- A transaction is reached through a line or besides it. -/
theorem reached_iff_of_relay (member : line ∈ log.lines) (owned : line.transaction = some source)
    (chain : ∃ length < limit, log.ChainTo attempts length source) (other : target ≠ source)
    (accepted : ∃ line ∈ log.lines, line.Accepts target) :
    log.Reached limit attempts target ↔
      line.Relays source target ∨ log.ReachedBesides limit attempts line target := by
  constructor
  · intro reached
    obtain ⟨length, within, chain⟩ := reached
    cases chain with
    | seed named => exact .inr (.inl named)
    | @handoff length origin _ chain hands =>
        obtain ⟨⟨relay, placed, relays⟩, differs, _⟩ := hands
        by_cases same : relay = line
        · subst same
          cases relays.2.1.symm.trans owned
          exact .inl relays
        · exact .inr (.inr ⟨length, within, origin, chain, differs, relay, placed, same, relays⟩)
  · intro ways
    rcases ways with relays | seed | ⟨length, within, origin, chain, differs, relay, besides⟩
    · obtain ⟨length, within, chain⟩ := chain
      exact ⟨length + 1, within, chain.handoff ⟨⟨line, member, relays⟩, other, accepted⟩⟩
    · exact ⟨0, Nat.zero_le limit, .seed seed⟩
    · obtain ⟨placed, _, relays⟩ := besides
      exact ⟨length + 1, within, chain.handoff ⟨⟨relay, placed, relays⟩, differs, accepted⟩⟩

/-- **A reply is followed unless an `id=` word hides it.** A reached transaction whose reply says
`queued as` another one leads to all lines of that one if and only if the reply is read as a handoff
to it, or it is reached besides. The reply is read so exactly if its first `id=` word, where there
is one, names that transaction too; and it is not read at all behind another status. -/
theorem queued_correlate_iff {window : Window} {raw transaction middle detail next : Text}
    (logged : raw ∈ window.lines) (told : Postfix.QueuedAs raw transaction middle detail next)
    (other : next ≠ transaction)
    (chain : ∃ length < limit, (ofWindow .postfixLog window).ChainTo attempts length transaction)
    (accepted : ∃ line ∈ (ofWindow .postfixLog window).lines, line.Accepts next) :
    ((∀ line ∈ (ofWindow .postfixLog window).lines, line.transaction = some next →
      line ∈ (ofWindow .postfixLog window).correlate limit attempts) ↔
        (LogLine.ofText .postfixLog raw).Relays transaction next ∨
          (ofWindow .postfixLog window).ReachedBesides limit attempts (.ofText .postfixLog raw)
            next) ∧
    (Postfix.StatusFirst middle →
      ((LogLine.ofText .postfixLog raw).Relays transaction next ↔ Reply.PointsAt detail next)) ∧
    (Postfix.statedStatus? (Postfix.sentRecord middle detail) ≠ some "sent".toList →
      ¬ (LogLine.ofText .postfixLog raw).Relays transaction next) := by
  refine ⟨?_, told.relays_iff, told.not_relays⟩
  have read := isRead_ofWindow .postfixLog window
  have member : LogLine.ofText .postfixLog raw ∈ (ofWindow .postfixLog window).lines :=
    List.mem_map_of_mem logged
  rw [← reached_iff_of_relay member told.transaction_eq chain other accepted]
  constructor
  · intro found
    obtain ⟨line, placed, accepts⟩ := accepted
    rcases ((mem_correlate read).mp (found line placed accepts.2)).2 with
      ⟨owner, owned, reached⟩ | ⟨exim, _⟩
    · cases owned.symm.trans accepts.2
      exact reached
    · cases exim
  · intro reached line placed owned
    exact (mem_correlate read).mpr ⟨placed, .inl ⟨next, owned, reached⟩⟩

/-- The delivery of a message to a content filter, with the reply of the filter. -/
def filterDelivery (detail : Text) : Text :=
  "Jun 15 16:02:40 mx postfix/smtp[12120]: BA6A236F4E08: to=<b@localhost>, status=sent (".toList ++
    detail ++ [')']

/-- The log of a message that a content filter takes and queues again. -/
def filterWindow (detail : Text) : Window :=
  .ofLines [
    "Jun 15 16:02:39 mx postfix/cleanup[12118]: BA6A236F4E08: message-id=<ogm-14@localhost>".toList,
    "Jun 15 16:02:40 mx postfix/qmgr[5216]: B7F313A054: from=<a@localhost>, nrcpt=1".toList,
    filterDelivery detail]

/-- The attempt of that message. -/
def filterAttempt : Attempt := { identifier := "ogm-14@localhost".toList, sentAt := ⟨0, 0⟩ }

theorem queuedAs_filterDelivery {detail : Text}
    (opens : (Header.ofLine? (Text.trimEnd (filterDelivery detail))).any fun header =>
      Postfix.daemon? header.program = some "smtp".toList ∧ Postfix.opening? header.message =
        some ("BA6A236F4E08".toList, Postfix.sentRecord "b@localhost>, ".toList detail))
    (queued : Text.afters "queued as ".toList detail = ["B7F313A054".toList]) :
    Postfix.QueuedAs (filterDelivery detail) "BA6A236F4E08".toList "b@localhost>, ".toList detail
      "B7F313A054".toList := by
  obtain ⟨header, entry⟩ := Postfix.exists_isEntry_iff.mpr opens
  exact
    { entry := ⟨header, _, entry⟩
      queued := ⟨[], queued, by simp [Text.EndsWord]⟩
      valid := by decide }

set_option maxRecDepth 100000 in
theorem chainTo_filterWindow (detail : Text) :
    (ofWindow .postfixLog (filterWindow detail)).ChainTo [filterAttempt] 0
      "BA6A236F4E08".toList := by
  have accepted : (ofWindow .postfixLog (filterWindow detail)).AcceptsWith
      (plainIdentifier "ogm-14@localhost".toList) "BA6A236F4E08".toList :=
    ⟨_, List.mem_cons_self, ⟨by decide +kernel, by decide +kernel⟩, by decide +kernel⟩
  exact .seed ⟨filterAttempt, List.mem_singleton_self _, "ogm-14@localhost".toList, by decide,
    mem_transactionsFor.mpr accepted⟩

set_option maxRecDepth 100000 in
theorem accepts_filterWindow (detail : Text) :
    ∃ line ∈ (ofWindow .postfixLog (filterWindow detail)).lines,
      line.Accepts "B7F313A054".toList :=
  ⟨_, List.mem_cons_of_mem _ List.mem_cons_self, by decide +kernel, by decide +kernel⟩

theorem mem_filterWindow (detail : Text) : filterDelivery detail ∈ (filterWindow detail).lines := by
  simp [filterWindow, Window.ofLines]

set_option maxRecDepth 100000 in
/-- A reply without an `id=` word is followed. -/
theorem queued_correlate_plain :
    let detail := "250 2.0.0 Ok: queued as B7F313A054".toList
    let log := ofWindow .postfixLog (filterWindow detail)
    ∀ line ∈ log.lines, line.transaction = some "B7F313A054".toList →
      line ∈ log.correlate 1 [filterAttempt] := by
  intro detail log
  have told : Postfix.QueuedAs (filterDelivery detail) "BA6A236F4E08".toList
      "b@localhost>, ".toList detail "B7F313A054".toList :=
    queuedAs_filterDelivery (by decide +kernel) (by decide)
  obtain ⟨found, read, _⟩ := queued_correlate_iff (mem_filterWindow detail) told (by decide)
    ⟨0, Nat.one_pos, chainTo_filterWindow detail⟩ (accepts_filterWindow detail)
  have unnamed : (Text.words detail).findSome? (Text.behind? "id=".toList) = none := by
    decide +kernel
  refine found.mpr (.inl ((read (by decide)).mpr fun named first => ?_))
  cases unnamed.symm.trans first

set_option maxRecDepth 100000 in
/-- The filter's own number, which is no queue identifier, hides the transaction. -/
theorem not_queued_correlate_numbered :
    let detail := "250 2.0.0 Ok: id=12345-01, queued as B7F313A054".toList
    let log := ofWindow .postfixLog (filterWindow detail)
    Postfix.QueuedAs (filterDelivery detail) "BA6A236F4E08".toList "b@localhost>, ".toList detail
        "B7F313A054".toList ∧
      Postfix.StatusFirst "b@localhost>, ".toList ∧
      filterDelivery detail ∈ (filterWindow detail).lines ∧
      (∀ word ∈ Text.words detail, ∀ named ∈ Text.behind? "id=".toList word,
        Postfix.isQueueId named = false) ∧
      log.ChainTo [filterAttempt] 0 "BA6A236F4E08".toList ∧
      (∃ line ∈ log.lines, line.Accepts "B7F313A054".toList) ∧
      ¬ ∀ line ∈ log.lines, line.transaction = some "B7F313A054".toList →
        line ∈ log.correlate 5 [filterAttempt] := by
  intro detail log
  have told : Postfix.QueuedAs (filterDelivery detail) "BA6A236F4E08".toList
      "b@localhost>, ".toList detail "B7F313A054".toList :=
    queuedAs_filterDelivery (by decide +kernel) (by decide)
  have foreign : ∀ word ∈ Text.words detail, ∀ named ∈ Text.behind? "id=".toList word,
      Postfix.isQueueId named = false := by decide +kernel
  have missed : ∀ line ∈ log.correlate 5 [filterAttempt],
      line.transaction ≠ some "B7F313A054".toList := by decide +kernel
  refine ⟨told, by decide, mem_filterWindow detail, foreign, chainTo_filterWindow detail,
    accepts_filterWindow detail, fun found => ?_⟩
  obtain ⟨line, member, accepts⟩ := accepts_filterWindow detail
  exact missed line (found line member accepts.2) accepts.2

end MailLog

end DeliveryTrace
