import DeliveryTrace.Proofs.Correlation.Search
import Mathlib.Data.Nat.Init

/-! # Searches end within a budget

Handoffs may run in circles and lead to one transaction from many others, yet every turn of a search
reads a transaction that no turn has read before. The main statement bounds the turns by the number
of accepted transactions of the log, and the depths by the limit and by that number, so that depths
do not outgrow a machine word that holds the limit.

Depths are bounded since none is left out: a finding with some handoffs behind it was found from one
with a handoff less, so the depths up to it are those of as many findings.
-/

namespace DeliveryTrace.MailLog

/-! ## Accepted transactions -/

/-- The distinct transactions that have an acceptance. -/
def acceptedTransactions (log : MailLog) : List Text :=
  transactionIds (log.lines.filter fun line => line.direction = .inboundAccept)

variable {log : MailLog} {limit : Nat} {attempts : List Attempt} {transaction : Text}

theorem mem_acceptedTransactions :
    transaction ∈ log.acceptedTransactions ↔ ∃ line ∈ log.lines, line.Accepts transaction := by
  simp only [acceptedTransactions, transactionIds, List.mem_eraseDups, List.mem_filterMap,
    List.mem_filter, decide_eq_true_eq, LogLine.Accepts, and_assoc]

theorem length_acceptedTransactions_le (log : MailLog) :
    log.acceptedTransactions.length ≤ log.lines.length := by
  have named : log.acceptedTransactions ⊆ log.lines.filterMap LogLine.transaction := by
    intro transaction accepted
    obtain ⟨line, member, _, owned⟩ := mem_acceptedTransactions.mp accepted
    exact List.mem_filterMap.mpr ⟨line, member, owned⟩
  exact Nat.le_trans ((nodup_eraseDups _).length_le_of_subset named) (List.length_filterMap_le _ _)

/-- Whatever a chain leads to was accepted. -/
theorem ChainTo.accepted {length : Nat} (chain : log.ChainTo attempts length transaction) :
    ∃ line ∈ log.lines, line.Accepts transaction := by
  cases chain with
  | seed named =>
      obtain ⟨_, _, line, member, accepts, _⟩ := isSeed_iff.mp named
      exact ⟨line, member, accepts⟩
  | handoff _ hands => exact hands.2.2

/-! ## Findings -/

/-- A search reads the lines of distinct transactions. -/
theorem nodup_done (log : MailLog) (limit : Nat) (attempts : List Attempt) :
    ((log.search limit attempts).done.map Finding.transaction).Nodup := by
  rw [← findings_search]
  exact (log.explores_search limit attempts).wellFormed.nodup

theorem chainTo_of_mem_done {finding : Finding}
    (member : finding ∈ (log.search limit attempts).done) :
    finding.depth ≤ limit ∧ log.ChainTo attempts finding.depth finding.transaction := by
  rw [← findings_search] at member
  exact (log.explores_search limit attempts).chain finding member

theorem length_done_le (log : MailLog) (limit : Nat) (attempts : List Attempt) :
    (log.search limit attempts).done.length ≤ log.acceptedTransactions.length := by
  have known : (log.search limit attempts).done.map Finding.transaction ⊆
      log.acceptedTransactions := by
    intro transaction listed
    obtain ⟨finding, member, rfl⟩ := List.mem_map.mp listed
    exact mem_acceptedTransactions.mpr (chainTo_of_mem_done member).2.accepted
  have counted := (log.nodup_done limit attempts).length_le_of_subset known
  rwa [List.length_map] at counted

/-- Findings of one transaction are the same. -/
theorem eq_of_mem_done {finding other : Finding}
    (member : finding ∈ (log.search limit attempts).done)
    (listed : other ∈ (log.search limit attempts).done)
    (same : finding.transaction = other.transaction) : finding = other :=
  List.inj_on_of_nodup_map (log.nodup_done limit attempts) member listed same

/-- A finding with handoffs behind it was found from one with a handoff less. -/
theorem exists_nearer {finding : Finding} {depth : Nat}
    (member : finding ∈ (log.search limit attempts).done) (deep : finding.depth = depth + 1) :
    ∃ nearer ∈ (log.search limit attempts).done, nearer.depth = depth := by
  obtain ⟨within, chain⟩ := chainTo_of_mem_done member
  rw [deep] at within chain
  cases chain with
  | @handoff _ source _ chain hands =>
      obtain ⟨nearer, found, named, near⟩ := chain.found (Nat.le_of_succ_le within)
      subst named
      obtain ⟨next, listed, same, step⟩ :=
        (log.explores_search limit attempts).closed nearer found (by omega) _ hands
      rw [findings_search] at listed
      have back := eq_of_mem_done listed member same
      subst back
      exact ⟨nearer, found, by omega⟩

/-- No depth is left out. -/
theorem exists_of_le_depth {finding : Finding} {depth : Nat}
    (member : finding ∈ (log.search limit attempts).done) (within : depth ≤ finding.depth) :
    ∃ other ∈ (log.search limit attempts).done, other.depth = depth := by
  induction within using Nat.decreasingInduction with
  | self => exact ⟨finding, member, rfl⟩
  | of_succ depth _ ih =>
      obtain ⟨other, listed, deep⟩ := ih
      exact exists_nearer listed deep

theorem depth_lt_length_done {finding : Finding}
    (member : finding ∈ (log.search limit attempts).done) :
    finding.depth < (log.search limit attempts).done.length := by
  have depths : List.range (finding.depth + 1) ⊆
      (log.search limit attempts).done.map Finding.depth := by
    intro depth within
    rw [List.mem_range, Nat.lt_succ_iff] at within
    obtain ⟨other, listed, rfl⟩ := exists_of_le_depth member within
    exact List.mem_map_of_mem listed
  have counted := List.nodup_range.length_le_of_subset depths
  rwa [List.length_range, List.length_map] at counted

/-! ## Turns -/

/-- Explore within a number of turns and with depths below a bound, as machine words are. It fails
if turns run out or the next depth reaches the bound. -/
def exploreWithin? (log : MailLog) (limit bound turns : Nat) (search : Search) : Option Search :=
  match search.queue, turns with
  | [], _ => some search
  | _ :: _, 0 => none
  | finding :: queue, turns + 1 =>
    if finding.depth < limit ∧ bound ≤ finding.depth + 1 then none
    else log.exploreWithin? limit bound turns (log.follow limit finding (search.take finding queue))

theorem done_follow (log : MailLog) (limit : Nat) (finding : Finding) (queue : List Finding)
    (search : Search) :
    (log.follow limit finding (search.take finding queue)).done = finding :: search.done := by
  unfold follow
  rw [Search.done_noteAll]
  rfl

/-- What was read stays read. -/
theorem done_suffix_explore (log : MailLog) (limit : Nat) (search : Search) :
    search.done <:+ (log.explore limit search).done := by
  fun_induction MailLog.explore log limit search with
  | case1 search empty => exact List.suffix_rfl
  | case2 search finding queue waiting ih =>
      rw [done_follow] at ih
      exact (List.suffix_cons finding search.done).trans ih

/-- Each turn reads the lines of one finding, so as many turns are enough as findings are read. -/
theorem exploreWithin?_eq_some {bound turns : Nat} {search : Search}
    (enough : (log.explore limit search).done.length ≤ search.done.length + turns)
    (fits : ∀ finding ∈ (log.explore limit search).done,
      finding.depth < limit → finding.depth + 1 < bound) :
    log.exploreWithin? limit bound turns search = some (log.explore limit search) := by
  fun_induction MailLog.explore log limit search generalizing turns with
  | case1 search empty =>
      unfold exploreWithin?
      rw [empty]
  | case2 search finding queue waiting ih =>
      have read := log.done_suffix_explore limit
        (log.follow limit finding (search.take finding queue))
      rw [done_follow] at read ih
      have longer := read.length_le
      rw [List.length_cons] at longer ih
      obtain ⟨turns, rfl⟩ := Nat.exists_eq_add_one_of_ne_zero (n := turns) (by omega)
      have small := fits finding (read.subset List.mem_cons_self)
      have held : ¬ (finding.depth < limit ∧ bound ≤ finding.depth + 1) := by omega
      unfold exploreWithin?
      rw [waiting]
      simp only [if_neg held]
      exact ih (by omega) fits

/-- **A search ends within its budget.** It reads the lines of each transaction at most once, so it
takes at most one turn for each accepted transaction of the log. All depths lie within the limit and
below that number, which is at most the number of lines. So a search with that many turns ends well
if depths are held in words for the limit or for the number of transactions. -/
theorem search_within_budget (log : MailLog) (limit : Nat) (attempts : List Attempt) :
    let budget := log.acceptedTransactions.length
    let search := log.search limit attempts
    (search.queue = [] ∧ (search.done.map Finding.transaction).Nodup ∧
      search.done.length ≤ budget ∧ budget ≤ log.lines.length) ∧
    (∀ finding ∈ search.done, finding.depth ≤ limit ∧ finding.depth + 1 ≤ budget) ∧
    ∀ bound, min limit budget < bound →
      log.exploreWithin? limit bound budget (Search.noteAll 0 {} (log.seeds attempts)) =
        some search := by
  intro budget search
  have turns : search.done.length ≤ budget := log.length_done_le limit attempts
  have depths : ∀ finding ∈ search.done, finding.depth ≤ limit ∧ finding.depth + 1 ≤ budget :=
    fun finding member => ⟨(chainTo_of_mem_done member).1,
      Nat.le_trans (depth_lt_length_done member) turns⟩
  refine ⟨⟨log.queue_explore limit _, log.nodup_done limit attempts, turns,
    log.length_acceptedTransactions_le⟩, depths, ?_⟩
  intro bound held
  apply exploreWithin?_eq_some
  · exact Nat.le_trans turns (Nat.le_add_left _ _)
  · intro finding member further
    have near := (depths finding member).2
    omega

/-- Two transactions that hand a message to each other. -/
def circleLines : List Text :=
  ["2017-01-02 10:00:00 1cNiyF-00040R-Kc <= r@localhost id=loop@localhost".toList,
    "2017-01-02 10:00:00 1cNiyF-00040R-Kc => a@localhost C=\"250 OK id=1cNiyG-00040U-Ls\"".toList,
    "2017-01-02 10:00:01 1cNiyG-00040U-Ls <= r@localhost".toList,
    "2017-01-02 10:00:01 1cNiyG-00040U-Ls => a@localhost C=\"250 OK id=1cNiyF-00040R-Kc\"".toList]

set_option maxRecDepth 100000 in
/-- Two turns are enough for a circle of two transactions, and depths below three, even under the
largest limit that a word of 64 bits holds. -/
theorem search_within_budget_circle :
    let log := ofWindow .eximLog (.ofLines circleLines)
    let attempts : List Attempt := [{ identifier := "loop@localhost".toList, sentAt := ⟨0, 0⟩ }]
    let limit := 18446744073709551615
    log.acceptedTransactions.length = 2 ∧ min limit 2 < 3 ∧
      log.exploreWithin? limit 3 2 (Search.noteAll 0 {} (log.seeds attempts)) =
        some (log.search limit attempts) ∧
      (log.search limit attempts).done.map Finding.depth = [1, 0] := by
  intro log attempts limit
  have two : log.acceptedTransactions.length = 2 := by decide +kernel
  have held : min limit 2 < 3 := by decide
  obtain ⟨_, _, ends⟩ := log.search_within_budget limit attempts
  rw [two] at ends
  exact ⟨two, held, ends _ held, by decide +kernel⟩

end DeliveryTrace.MailLog
