import DeliveryTrace.Attempt
import DeliveryTrace.Correlation.Index
import DeliveryTrace.Correlation.Search
import DeliveryTrace.Window

/-! # Correlating messages with log lines

A message is found in a log through the identifier that its acceptance carries. From the
transactions found that way the search follows handoffs: a relay whose reply names the next
transaction, provided that the next transaction was accepted in the same log. The search is breadth
first and takes every transaction up once, so it comes to each by a shortest chain of handoffs.
-/

namespace DeliveryTrace

/-- A log, read once, in which any number of messages can be looked up. -/
structure MailLog where
  format : LogFormat
  lines : List LogLine
  index : Index
  index_eq : index = Index.ofLines format lines

namespace MailLog

/-- The log that consists of given lines. -/
def ofLines (format : LogFormat) (lines : List LogLine) : MailLog :=
  ⟨format, lines, Index.ofLines format lines, rfl⟩

/-- Read every line of a window. -/
def ofWindow (format : LogFormat) (window : Window) : MailLog :=
  ofLines format (window.lines.map (LogLine.ofText format))

/-- The lines of a transaction in log order. -/
def transaction (log : MailLog) (transaction : Text) : List LogLine :=
  (log.index.transactions.items transaction).map Prod.fst

/-- The transactions whose acceptance carries a message identifier. -/
def transactionsFor (log : MailLog) (identifier : Text) : List Text :=
  log.index.messageIds.items (plainIdentifier identifier)

/-- The transactions that the acceptances of some attempt name. -/
def seeds (log : MailLog) (attempts : List Attempt) : List Text :=
  (attempts.filterMap Attempt.logIdentifier?).flatMap log.transactionsFor

/-- The transaction that a line of `transaction` hands the message to: a relay whose reply names
another transaction, accepted in the same log. -/
def handoff? (log : MailLog) (transaction : Text) (line : LogLine) : Option Text :=
  if line.direction = .outboundRelay then
    line.related.filter fun next => log.index.accepted.contains next && next ≠ transaction
  else none

/-- The transactions that a transaction hands the message to, in log order. -/
def handoffs (log : MailLog) (transaction : Text) : List Text :=
  (log.transaction transaction).filterMap (log.handoff? transaction)

theorem accepted_of_mem_handoffs {log : MailLog} {transaction next : Text}
    (member : next ∈ log.handoffs transaction) : next ∈ log.index.accepted := by
  obtain ⟨line, _, handed⟩ := List.mem_filterMap.mp member
  unfold handoff? at handed
  split at handed
  · have passed := (Option.filter_eq_some_iff.mp handed).2
    rw [Bool.and_eq_true] at passed
    exact Std.TreeSet.mem_iff_contains.mpr passed.1
  · cases handed

/-- The transactions that a finding leads to: its handoffs, unless it lies at the limit. -/
def targets (log : MailLog) (limit : Nat) (finding : Finding) : List Text :=
  if finding.depth < limit then log.handoffs finding.transaction else []

/-- Queue what a finding leads to. -/
def follow (log : MailLog) (limit : Nat) (finding : Finding) (search : Search) : Search :=
  search.noteAll (finding.depth + 1) (log.targets limit finding)

/-- The turns that a search of this log may still take. -/
def turnsLeft (log : MailLog) (search : Search) : Nat :=
  search.turnsLeft log.index.accepted.toList

theorem turnsLeft_follow_le (log : MailLog) (limit : Nat) (finding : Finding) (search : Search) :
    log.turnsLeft (log.follow limit finding search) ≤ log.turnsLeft search := by
  apply Search.turnsLeft_noteAll_le
  intro next member
  unfold targets at member
  split at member
  · exact Std.TreeSet.mem_toList.mpr (accepted_of_mem_handoffs member)
  · cases member

/-- Read the lines of one queued finding after the other until none is left. -/
def explore (log : MailLog) (limit : Nat) (search : Search) : Search :=
  match _waiting : search.queue with
  | [] => search
  | finding :: queue => log.explore limit (log.follow limit finding (search.take finding queue))
termination_by log.turnsLeft search
decreasing_by
  apply Nat.lt_of_le_of_lt (log.turnsLeft_follow_le limit finding (search.take finding queue))
  simp only [turnsLeft, Search.turnsLeft, Search.take, _waiting, List.length_cons]
  omega

/-- The search for the transactions of a message, which starts at the seeds. -/
def search (log : MailLog) (limit : Nat) (attempts : List Attempt) : Search :=
  log.explore limit (Search.noteAll 0 {} (log.seeds attempts))

/-- The transactions of a message within a number of handoffs. -/
def reached (log : MailLog) (limit : Nat) (attempts : List Attempt) : List Text :=
  (log.search limit attempts).done.map Finding.transaction

/-- The positions of the lines that belong to a message: the lines of its transactions and the
notifications that one of them bounced. -/
def matchedPositions (log : MailLog) (depth : Nat) (attempts : List Attempt) :
    Std.TreeSet Nat :=
  .ofList ((log.reached depth attempts).flatMap fun transaction =>
    (log.index.transactions.items transaction ++ log.index.bounces.items transaction).map Prod.snd)

/-- The lines that belong to a message, in log order. -/
def correlate (log : MailLog) (depth : Nat) (attempts : List Attempt) : List LogLine :=
  let positions := log.matchedPositions depth attempts
  (log.lines.zipIdx.filter fun entry => positions.contains entry.2).map Prod.fst

end MailLog

/-- The distinct transactions of some lines, in the order of their first lines. -/
def transactionIds (lines : List LogLine) : List Text :=
  (lines.filterMap LogLine.transaction).eraseDups

end DeliveryTrace
