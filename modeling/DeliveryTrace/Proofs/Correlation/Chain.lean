import DeliveryTrace.Correlation.MailLog
import DeliveryTrace.Proofs.Correlation.Index

/-! # Chains of handoffs

Chains are read off the plain lines of a log. A transaction hands the message over when one of its
relays names another transaction that some line of the log accepts; a chain starts at a seed and
goes on by handoffs. The seeds and the handoffs that the index yields are these.
-/

namespace DeliveryTrace.MailLog

/-- Some line of the log accepts the transaction with the message identifier. -/
def AcceptsWith (log : MailLog) (identifier transaction : Text) : Prop :=
  ∃ line ∈ log.lines, line.Accepts transaction ∧ line.messageId = some identifier

/-- A transaction is a seed if it was accepted with the identifier of some attempt. -/
def IsSeed (log : MailLog) (attempts : List Attempt) (transaction : Text) : Prop :=
  ∃ attempt ∈ attempts, ∃ identifier, attempt.logIdentifier? = some identifier ∧
    transaction ∈ log.transactionsFor identifier

/-- A transaction hands the message over to another one that the log accepts. -/
def HandsOver (log : MailLog) (source target : Text) : Prop :=
  (∃ line ∈ log.lines, line.Relays source target) ∧ target ≠ source ∧
    ∃ line ∈ log.lines, line.Accepts target

/-- A chain of so many handoffs leads from a seed to a transaction. -/
inductive ChainTo (log : MailLog) (attempts : List Attempt) : Nat → Text → Prop
  | seed {transaction : Text} (named : log.IsSeed attempts transaction) :
      ChainTo log attempts 0 transaction
  | handoff {length : Nat} {source target : Text} (chain : ChainTo log attempts length source)
      (hands : log.HandsOver source target) : ChainTo log attempts (length + 1) target

/-- A chain of at most `limit` handoffs leads from a seed to a transaction. -/
def Reached (log : MailLog) (limit : Nat) (attempts : List Attempt) (transaction : Text) : Prop :=
  ∃ length ≤ limit, log.ChainTo attempts length transaction

variable {log : MailLog} {attempts : List Attempt}

theorem mem_transactionsFor {identifier transaction : Text} :
    transaction ∈ log.transactionsFor identifier ↔
      log.AcceptsWith (plainIdentifier identifier) transaction := by
  unfold transactionsFor AcceptsWith
  rw [log.index_eq, Index.items_messageIds, List.mem_eraseDups, List.mem_filterMap]
  simp only [LogLine.acceptedWith?_eq_some_iff]

/-- The seeds of the search are the transactions accepted for the attempts. -/
theorem mem_seeds {transaction : Text} :
    transaction ∈ log.seeds attempts ↔ log.IsSeed attempts transaction := by
  simp only [seeds, IsSeed, List.mem_flatMap, List.mem_filterMap]
  constructor
  · intro listed
    obtain ⟨identifier, ⟨attempt, member, named⟩, accepted⟩ := listed
    exact ⟨attempt, member, identifier, named, accepted⟩
  · intro seed
    obtain ⟨attempt, member, identifier, named, accepted⟩ := seed
    exact ⟨identifier, ⟨attempt, member, named⟩, accepted⟩

/-- The seeds of attempts are the transactions accepted with one of their identifiers, stripped once
more. -/
theorem isSeed_iff {transaction : Text} :
    log.IsSeed attempts transaction ↔
      ∃ identifier ∈ attempts.filterMap Attempt.logIdentifier?,
        log.AcceptsWith (plainIdentifier identifier) transaction := by
  simp only [← mem_seeds, seeds, List.mem_flatMap, mem_transactionsFor]

/-- More seeds and more handoffs make more chains. -/
theorem ChainTo.imp {wider : MailLog} {others : List Attempt} {length : Nat} {transaction : Text}
    (seeds : ∀ seed, log.IsSeed attempts seed → wider.IsSeed others seed)
    (hands : ∀ source target, log.HandsOver source target → wider.HandsOver source target)
    (chain : log.ChainTo attempts length transaction) :
    wider.ChainTo others length transaction := by
  induction chain with
  | seed named => exact .seed (seeds _ named)
  | handoff _ handed ih => exact .handoff ih (hands _ _ handed)

/-- Lines are kept with their positions or without. -/
theorem map_fst_filter_zipIdx (lines : List LogLine) (keep : LogLine → Bool) :
    (lines.zipIdx.filter fun entry => keep entry.1).map Prod.fst = lines.filter keep := by
  conv_rhs => rw [← List.zipIdx_map_fst 0 lines, List.filter_map]
  rfl

/-- The lines of a transaction are those lines of the log that belong to it. -/
theorem transaction_eq_filter (log : MailLog) (transaction : Text) :
    log.transaction transaction =
      log.lines.filter fun line => line.transaction = some transaction := by
  unfold MailLog.transaction
  rw [log.index_eq, Index.items_transactions]
  exact map_fst_filter_zipIdx log.lines fun line => line.transaction = some transaction

theorem mem_accepted_iff {transaction : Text} :
    transaction ∈ log.index.accepted ↔ ∃ line ∈ log.lines, line.Accepts transaction := by
  rw [log.index_eq, Index.mem_accepted]

theorem handoff?_eq_some_iff {line : LogLine} {source target : Text} :
    log.handoff? source line = some target ↔
      line.direction = .outboundRelay ∧ line.related = some target ∧ target ≠ source ∧
        ∃ line ∈ log.lines, line.Accepts target := by
  unfold handoff?
  by_cases relay : line.direction = .outboundRelay
  · rw [if_pos relay, Option.filter_eq_some_iff, Bool.and_eq_true, decide_eq_true_eq,
      ← Std.TreeSet.mem_iff_contains, mem_accepted_iff]
    tauto
  · simp [relay]

/-- The handoffs that the search follows are the handoffs of the log. -/
theorem mem_handoffs {source target : Text} :
    target ∈ log.handoffs source ↔ log.HandsOver source target := by
  simp only [handoffs, transaction_eq_filter, List.mem_filterMap, List.mem_filter,
    handoff?_eq_some_iff, decide_eq_true_eq]
  constructor
  · intro listed
    obtain ⟨line, ⟨member, owned⟩, relay, named, other, accepted⟩ := listed
    exact ⟨⟨line, member, relay, owned, named⟩, other, accepted⟩
  · intro hands
    obtain ⟨⟨line, member, relay, owned, named⟩, other, accepted⟩ := hands
    exact ⟨line, ⟨member, owned⟩, relay, named, other, accepted⟩

end DeliveryTrace.MailLog
