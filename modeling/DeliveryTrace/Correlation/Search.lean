import DeliveryTrace.Text.Blank
import Std.Data.TreeSet

/-! # The state of a search for transactions

A search keeps the transactions found so far, a queue of those whose lines are still to be read and
a list of those whose lines were read. A transaction enters the queue when it is found for the first
time. The main statement bounds the turns that a search may still take: finding a transaction never
adds to them.
-/

namespace DeliveryTrace

/-- A transaction and the number of handoffs by which a search came to it. -/
structure Finding where
  transaction : Text
  depth : Nat

/-- A search under way. -/
structure Search where
  /-- The transactions found so far. -/
  found : Std.TreeSet Text := ∅
  /-- The findings whose lines are still to be read, oldest first. -/
  queue : List Finding := []
  /-- The findings whose lines were read, newest first. -/
  done : List Finding := []

namespace Search

/-- Queue a transaction unless it was found before. -/
def note (depth : Nat) (search : Search) (transaction : Text) : Search :=
  if search.found.contains transaction then search
  else
    { search with
      found := search.found.insert transaction
      queue := search.queue ++ [⟨transaction, depth⟩] }

/-- Queue those of some transactions that were not found before. -/
def noteAll (depth : Nat) (search : Search) (transactions : List Text) : Search :=
  transactions.foldl (note depth) search

/-- Count a finding as read and leave the others in the queue. -/
def take (finding : Finding) (queue : List Finding) (search : Search) : Search :=
  { search with queue, done := finding :: search.done }

/-- The turns that a search among given transactions may still take: one for each transaction that
is queued or not yet found. -/
def turnsLeft (transactions : List Text) (search : Search) : Nat :=
  (transactions.countP fun transaction => !search.found.contains transaction) + search.queue.length

/-- A test that fails where a weaker one passes counts less. -/
private theorem countP_lt_countP {α : Type} {strict weak : α → Bool} {list : List α} {witness : α}
    (weaker : ∀ entry, strict entry = true → weak entry = true) (member : witness ∈ list)
    (passed : weak witness = true) (failed : strict witness = false) :
    list.countP strict < list.countP weak := by
  obtain ⟨before, after, rfl⟩ := List.append_of_mem member
  have front := List.countP_mono_left (l := before) fun entry _ => weaker entry
  have back := List.countP_mono_left (l := after) fun entry _ => weaker entry
  simp only [List.countP_append, List.countP_cons, passed, failed, ↓reduceIte,
    Bool.false_eq_true]
  omega

/-- A transaction moves from those not yet found to the queue, or nothing changes. -/
theorem turnsLeft_note_le {transactions : List Text} (depth : Nat) (search : Search)
    {transaction : Text} (member : transaction ∈ transactions) :
    (search.note depth transaction).turnsLeft transactions ≤ search.turnsLeft transactions := by
  unfold note
  split
  · exact Nat.le_refl _
  · next fresh =>
    have fewer : (transactions.countP fun other =>
          !(search.found.insert transaction).contains other) <
        transactions.countP fun other => !search.found.contains other := by
      apply countP_lt_countP _ member
      · rw [Bool.eq_false_iff.mpr fresh, Bool.not_false]
      · rw [Std.TreeSet.contains_insert_self, Bool.not_true]
      · intro other unfound
        rw [Std.TreeSet.contains_insert] at unfound
        simp only [Bool.not_or, Bool.and_eq_true] at unfound
        exact unfound.2
    simp only [turnsLeft, List.length_append, List.length_singleton]
    omega

theorem turnsLeft_noteAll_le {transactions noted : List Text} (depth : Nat) (search : Search)
    (members : ∀ transaction ∈ noted, transaction ∈ transactions) :
    (search.noteAll depth noted).turnsLeft transactions ≤ search.turnsLeft transactions := by
  induction noted generalizing search with
  | nil => exact Nat.le_refl _
  | cons transaction noted ih =>
      rw [List.forall_mem_cons] at members
      exact Nat.le_trans (ih (search.note depth transaction) members.2)
        (turnsLeft_note_le depth search members.1)

end Search

end DeliveryTrace
