import DeliveryTrace.Proofs.Correlation.Belonging
import DeliveryTrace.Proofs.Correlation.Budget
import Mathlib.Logic.Relation

/-! # The limit on handoffs

A wider limit only adds lines. There is an end to it: a search never needs more handoffs than the
log has accepted transactions, since a shortest chain passes through each transaction at most once.
The main statement says that from this limit on the matched lines are those of the whole closure
under handoffs, whatever the limit.
-/

namespace DeliveryTrace.MailLog

variable {log : MailLog} {limit wider position : Nat} {attempts : List Attempt}
  {transaction : Text}

/-- Any number of handoffs leads from a seed to the transaction. -/
def InClosure (log : MailLog) (attempts : List Attempt) (transaction : Text) : Prop :=
  ∃ seed, log.IsSeed attempts seed ∧ Relation.ReflTransGen log.HandsOver seed transaction

theorem inClosure_iff_chainTo :
    log.InClosure attempts transaction ↔ ∃ length, log.ChainTo attempts length transaction := by
  constructor
  · intro closure
    obtain ⟨seed, named, handoffs⟩ := closure
    induction handoffs with
    | refl => exact ⟨0, .seed named⟩
    | tail _ hands ih =>
        obtain ⟨length, chain⟩ := ih
        exact ⟨length + 1, .handoff chain hands⟩
  · intro chains
    obtain ⟨length, chain⟩ := chains
    induction chain with
    | seed named => exact ⟨_, named, .refl⟩
    | handoff _ hands ih =>
        obtain ⟨seed, named, handoffs⟩ := ih
        exact ⟨seed, named, handoffs.tail hands⟩

theorem Reached.widen (reached : log.Reached limit attempts transaction) (within : limit ≤ wider) :
    log.Reached wider attempts transaction := by
  obtain ⟨length, short, chain⟩ := reached
  exact ⟨length, Nat.le_trans short within, chain⟩

/-- A search that goes as far as a chain finds the transaction by a chain of its own, which is no
longer than there are accepted transactions. -/
theorem reached_iff_inClosure (enough : log.acceptedTransactions.length ≤ limit) :
    log.Reached limit attempts transaction ↔ log.InClosure attempts transaction := by
  rw [inClosure_iff_chainTo]
  constructor
  · intro reached
    obtain ⟨length, _, chain⟩ := reached
    exact ⟨length, chain⟩
  · intro chains
    obtain ⟨length, chain⟩ := chains
    obtain ⟨finding, member, rfl, _⟩ := chain.found (Nat.le_refl length)
    have short := Nat.lt_of_lt_of_le (depth_lt_length_done member)
      (log.length_done_le length attempts)
    exact ⟨finding.depth, by omega, (chainTo_of_mem_done member).2⟩

theorem mem_matchedPositions_widen (matched : position ∈ log.matchedPositions limit attempts)
    (within : limit ≤ wider) : position ∈ log.matchedPositions wider attempts := by
  rw [mem_matchedPositions_iff_reached] at matched ⊢
  obtain ⟨transaction, reached, entry⟩ := matched
  exact ⟨transaction, reached.widen within, entry⟩

theorem mem_matchedPositions_iff_inClosure (enough : log.acceptedTransactions.length ≤ limit) :
    position ∈ log.matchedPositions limit attempts ↔
      ∃ transaction, log.InClosure attempts transaction ∧ ∃ entry ∈
        log.index.transactions.items transaction ++ log.index.bounces.items transaction,
          entry.2 = position := by
  simp only [mem_matchedPositions_iff_reached, reached_iff_inClosure enough]

/-- **The limit is monotone and saturates.** A wider limit matches the same lines and perhaps more.
From the number of accepted transactions on, the matched lines are those filed under the
transactions of the closure; so limits from there on make no difference, and none of them hides a
line that some limit matches. -/
theorem matchedPositions_saturate (log : MailLog) (attempts : List Attempt) :
    let enough := log.acceptedTransactions.length
    (∀ limit wider, limit ≤ wider → ∀ position ∈ log.matchedPositions limit attempts,
      position ∈ log.matchedPositions wider attempts) ∧
    (∀ limit, enough ≤ limit → ∀ position, position ∈ log.matchedPositions limit attempts ↔
      ∃ transaction, log.InClosure attempts transaction ∧ ∃ entry ∈
        log.index.transactions.items transaction ++ log.index.bounces.items transaction,
          entry.2 = position) ∧
    (∀ limit other, enough ≤ limit → enough ≤ other →
      (log.matchedPositions limit attempts).toList = (log.matchedPositions other attempts).toList ∧
        log.correlate limit attempts = log.correlate other attempts) ∧
    ∀ limit large, enough ≤ large → ∀ position ∈ log.matchedPositions limit attempts,
      position ∈ log.matchedPositions large attempts := by
  intro enough
  have saturated (limit other : Nat) (wide : enough ≤ limit) (far : enough ≤ other)
      (position : Nat) : position ∈ log.matchedPositions limit attempts ↔
        position ∈ log.matchedPositions other attempts := by
    rw [mem_matchedPositions_iff_inClosure wide, mem_matchedPositions_iff_inClosure far]
  refine ⟨?_, ?_, ?_, ?_⟩
  · intro limit wider within position matched
    exact mem_matchedPositions_widen matched within
  · intro limit wide position
    exact mem_matchedPositions_iff_inClosure wide
  · intro limit other wide far
    have same := saturated limit other wide far
    exact ⟨(Std.TreeSet.Equiv.of_forall_mem_iff same).toList_eq, correlate_eq_of_mem_iff same⟩
  · intro limit large wide position matched
    have wider := mem_matchedPositions_widen matched (Nat.le_max_left limit large)
    have far := Nat.le_trans wide (Nat.le_max_right limit large)
    exact (saturated _ large far wide position).mp wider

set_option maxRecDepth 100000 in
/-- Without handoffs only the lines of the first transaction match; two handoffs are as many as are
ever needed for the circle. -/
theorem matchedPositions_saturate_circle :
    let log := ofWindow .eximLog (.ofLines circleLines)
    let attempts : List Attempt := [{ identifier := "loop@localhost".toList, sentAt := ⟨0, 0⟩ }]
    log.acceptedTransactions.length ≤ 2 ∧
      (log.matchedPositions 0 attempts).toList = [0, 1] ∧ 1 ∈ log.matchedPositions 2 attempts ∧
      (log.matchedPositions 18446744073709551615 attempts).toList = [0, 1, 2, 3] := by
  intro log attempts
  have two : log.acceptedTransactions.length ≤ 2 := by decide +kernel
  have first : (log.matchedPositions 0 attempts).toList = [0, 1] := by decide +kernel
  have all : (log.matchedPositions 2 attempts).toList = [0, 1, 2, 3] := by decide +kernel
  have matched : 1 ∈ log.matchedPositions 0 attempts := by
    rw [← Std.TreeSet.mem_toList, first]
    decide
  obtain ⟨widens, _, saturated, _⟩ := log.matchedPositions_saturate attempts
  have far := (saturated 18446744073709551615 2 (Nat.le_trans two (by decide)) two).1
  exact ⟨two, first, widens 0 2 (by decide) 1 matched, far.trans all⟩

end DeliveryTrace.MailLog
