import DeliveryTrace.Proofs.Correlation.Chain

/-! # Lookups agree with a scan of the log

A lookup reads one entry of the index instead of all lines of the log. The main statement says that
it finds what a scan of the lines finds, in the same order: the lines of a transaction, and the
transactions of an identifier in the order of their first acceptances with it. The positions that
the index stores are those of the lines that it stores them for, so a position never points past the
log or at another line.
-/

namespace DeliveryTrace.MailLog

/-- The entries stand at their positions of the log, in log order and each once. -/
structure Placed (log : MailLog) (entries : List PlacedLine) : Prop where
  rising : (entries.map Prod.snd).Pairwise (· < ·)
  found : ∀ entry ∈ entries, log.lines[entry.2]? = some entry.1

variable {log : MailLog} {entries : List PlacedLine}

/-- What a scan keeps of the log is placed. -/
theorem placed_filter (log : MailLog) (keep : PlacedLine → Bool) :
    log.Placed (log.lines.zipIdx.filter keep) where
  rising := by
    have kept : ((log.lines.zipIdx.filter keep).map Prod.snd).Sublist
        (log.lines.zipIdx.map Prod.snd) := List.Sublist.map Prod.snd List.filter_sublist
    rw [List.zipIdx_map_snd] at kept
    exact List.Pairwise.sublist kept (List.pairwise_lt_range' 1)
  found entry member := List.mem_zipIdx_iff_getElem?.mp (List.mem_filter.mp member).1

/-- No line is lost when placed entries are looked up by their positions. -/
theorem Placed.filterMap_getElem? (placed : log.Placed entries) :
    (entries.map Prod.snd).filterMap (fun position => log.lines[position]?) =
      entries.map Prod.fst := by
  rw [List.filterMap_map, ← List.filterMap_eq_map]
  exact List.filterMap_congr placed.found

theorem placed_transactions (log : MailLog) (transaction : Text) :
    log.Placed (log.index.transactions.items transaction) := by
  rw [log.index_eq, Index.items_transactions]
  exact log.placed_filter _

theorem placed_bounces (log : MailLog) (bounced : Text) :
    log.Placed (log.index.bounces.items bounced) := by
  rw [log.index_eq, Index.items_bounces]
  exact log.placed_filter _

/-- The first line of the log that accepts the transaction with the identifier. -/
def firstAcceptance (log : MailLog) (identifier transaction : Text) : Nat :=
  log.lines.findIdx fun line => line.acceptedWith? identifier = some transaction

/-- **Lookups agree with a scan of the log.** The lines of a transaction are those that a scan
keeps for it. The transactions of an identifier are those that some line accepts with the plain
identifier, each once and in the order of the first such lines. The entries of the index stand at
their positions of the log, in log order, so a lookup by position loses no line. The other tables
hold the notifications that a scan keeps and the transactions that some line accepts. -/
theorem lookup_eq_scan (format : LogFormat) (window : Window) (id : Text) :
    let log := ofWindow format window
    log.transaction id = log.lines.filter (fun line => line.transaction = some id) ∧
    ((log.transactionsFor id).Nodup ∧
      (∀ transaction, transaction ∈ log.transactionsFor id ↔
        log.AcceptsWith (plainIdentifier id) transaction) ∧
      (log.transactionsFor id).Pairwise fun first second =>
        log.firstAcceptance (plainIdentifier id) first <
          log.firstAcceptance (plainIdentifier id) second) ∧
    (log.Placed (log.index.transactions.items id) ∧ log.Placed (log.index.bounces.items id) ∧
      ((log.index.transactions.items id).map Prod.snd).filterMap
        (fun position => log.lines[position]?) = log.transaction id) ∧
    (log.index.bounces.items id).map Prod.fst = log.lines.filter (fun line =>
      format = .eximLog ∧ line.transaction ≠ none ∧ line.Notifies id) ∧
    (id ∈ log.index.accepted ↔ ∃ line ∈ log.lines, line.Accepts id) := by
  intro log
  have listed : log.transactionsFor id =
      (log.lines.filterMap fun line => line.acceptedWith? (plainIdentifier id)).eraseDups := by
    rw [transactionsFor, log.index_eq, Index.items_messageIds]
  have placed := log.placed_transactions id
  refine ⟨log.transaction_eq_filter id, ⟨?_, fun transaction => mem_transactionsFor, ?_⟩,
    ⟨placed, log.placed_bounces id, placed.filterMap_getElem?⟩, ?_, mem_accepted_iff⟩
  · rw [listed]
    exact nodup_eraseDups _
  · rw [listed]
    exact pairwise_findIdx_eraseDups _ _
  · rw [log.index_eq, Index.items_bounces]
    exact map_fst_filter_zipIdx log.lines fun line =>
      format = .eximLog ∧ line.transaction ≠ none ∧ line.Notifies id

end DeliveryTrace.MailLog
