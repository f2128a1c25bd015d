import DeliveryTrace.History
import DeliveryTrace.Proofs.FirstOccurrence
import Mathlib.Order.Compare

/-! # A history is the log of its records

A history can be recorded into and can be replaced by one that is gathered from items. Whatever is
done, it is the log of the records since it was last replaced: the attempts of a message are those
that the log has for it, in order, and everything else that a history tells follows from them. The
main statement says this of every sequence of operations.
-/

namespace DeliveryTrace

/-! ## Keys -/

theorem compare_eq_lt_iff {left right : Text} : compare left right = .lt ↔ left < right := by
  induction left generalizing right with
  | nil =>
      cases right with
      | nil => exact iff_of_false nofun (List.not_lt_nil [])
      | cons d right => exact iff_of_true rfl (List.nil_lt_cons d right)
  | cons c left ih =>
      cases right with
      | nil => exact iff_of_false nofun (List.not_lt_nil _)
      | cons d right =>
          have step : compare (c :: left) (d :: right) =
              (compare c d).then (compare left right) := List.compareLex_cons_cons
          have first : compare c d = .lt ↔ c < d := compareOfLessAndEq_eq_lt
          rw [List.cons_lt_cons_iff, ← ih, step, Ordering.then_eq_lt, first, Std.compare_eq_iff_eq]

namespace Register

variable {α : Type} {register : Register α} {key : Text}

theorem mem_keys_iff : key ∈ register.keys ↔ register.items key ≠ [] := by
  have proper := register.entries_ne_nil key
  rw [keys, items, Std.TreeMap.mem_keys, Std.TreeMap.mem_iff_isSome_getElem?,
    Std.TreeMap.getD_eq_getD_getElem?]
  cases filed : register.entries[key]? with
  | none => simp
  | some items =>
      rw [filed] at proper
      simpa using proper

theorem keys_sorted (register : Register α) : register.keys.Pairwise (· < ·) :=
  register.keys_pairwise.imp compare_eq_lt_iff.mp

theorem size_eq_length (register : Register α) : register.size = register.keys.length :=
  Std.TreeMap.length_keys.symm

end Register

namespace History

/-! ## Operations -/

/-- What may be done to a history. -/
inductive Operation where
  | sent (message identifier : Text) (sentAt : Instant)
  | failure (message identifier : Text) (sentAt : Instant)
  | record (message : Text) (attempt : Attempt)
  /-- Replace the history by one that is gathered from messages with their attempts. -/
  | collect (items : List (Text × List Attempt))

/-- Do one operation. -/
def perform (history : History) : Operation → History
  | .sent message identifier sentAt => history.recordSent message identifier sentAt
  | .failure message identifier sentAt => history.recordFailure message identifier sentAt
  | .record message attempt => history.record message attempt
  | .collect items => ofItems items

namespace Operation

/-- The records of an operation in order, each with its message. -/
def records : Operation → List (Text × Attempt)
  | sent message identifier sentAt => [(message, ⟨identifier, sentAt, .submitted⟩)]
  | failure message identifier sentAt => [(message, ⟨identifier, sentAt, .knownFailed⟩)]
  | record message attempt => [(message, attempt)]
  | collect items => items.flatMap fun (message, attempts) => attempts.map fun attempt =>
      (message, attempt)

/-- Whether an operation discards what was recorded before. -/
def replaces : Operation → Bool
  | collect _ => true
  | sent .. | failure .. | record .. => false

/-- The operations from the last one that replaces the history; all, if none does. -/
def sinceReplaced : List Operation → List Operation
  | [] => []
  | operation :: later =>
    if later.any replaces then sinceReplaced later else operation :: later

theorem sinceReplaced_eq_self {operations : List Operation}
    (kept : operations.any replaces = false) : sinceReplaced operations = operations := by
  cases operations with
  | nil => rfl
  | cons operation later =>
      rw [List.any_cons, Bool.or_eq_false_iff] at kept
      rw [sinceReplaced, kept.2]
      rfl

end Operation

/-- The attempts that records hold for a message. -/
def attemptsIn (records : List (Text × Attempt)) (message : Text) : List Attempt :=
  (records.filter fun record => record.1 = message).map Prod.snd

theorem attemptsIn_cons (record : Text × Attempt) (records : List (Text × Attempt))
    (message : Text) :
    attemptsIn (record :: records) message =
      (if record.1 = message then [record.2] else []) ++ attemptsIn records message := by
  unfold attemptsIn
  by_cases own : record.1 = message
  · rw [List.filter_cons_of_pos (by simpa using own), if_pos own]
    rfl
  · rw [List.filter_cons_of_neg (by simpa using own), if_neg own]
    rfl

/-- Make records one by one. -/
def recordAll (history : History) (records : List (Text × Attempt)) : History :=
  records.foldl (fun history (message, attempt) => history.record message attempt) history

theorem attempts_recordAll (history : History) (records : List (Text × Attempt)) (message : Text) :
    (history.recordAll records).attempts message =
      history.attempts message ++ attemptsIn records message := by
  induction records generalizing history with
  | nil => exact (List.append_nil _).symm
  | cons record records ih =>
      have recorded : (history.record record.1 record.2).attempts message =
          history.attempts message ++ if record.1 = message then [record.2] else [] := by
        rw [attempts, History.record, Register.items_file]
        by_cases own : record.1 = message
        · subst own
          rw [if_pos rfl, if_pos rfl]
          rfl
        · rw [if_neg own, if_neg own, List.append_nil]
          rfl
      have later := ih (history.record record.1 record.2)
      rwa [recorded, List.append_assoc, ← attemptsIn_cons] at later

theorem ofItems_eq_recordAll (items : List (Text × List Attempt)) :
    ofItems items = recordAll .empty (Operation.collect items).records := by
  rw [recordAll, Operation.records, List.foldl_flatMap]
  simp only [List.foldl_map]
  rfl

/-- An operation makes its records, in the history at hand or in an empty one. -/
theorem perform_eq_recordAll (history : History) (operation : Operation) :
    history.perform operation =
      (if operation.replaces then .empty else history).recordAll operation.records := by
  cases operation with
  | sent message identifier sentAt => rfl
  | failure message identifier sentAt => rfl
  | record message attempt => rfl
  | collect items => exact ofItems_eq_recordAll items

/-- Operations make the records since the history was last replaced, one by one. -/
theorem foldl_perform_eq_recordAll (history : History) (operations : List Operation) :
    operations.foldl perform history =
      (if operations.any Operation.replaces then .empty else history).recordAll
        ((Operation.sinceReplaced operations).flatMap Operation.records) := by
  induction operations generalizing history with
  | nil => rfl
  | cons operation later ih =>
      rw [List.foldl_cons, ih, List.any_cons, Operation.sinceReplaced]
      cases replaced : later.any Operation.replaces with
      | true => simp
      | false =>
          rw [Operation.sinceReplaced_eq_self replaced, perform_eq_recordAll]
          simp [recordAll]

theorem identifiers_eq (history : History) (message : Text) :
    history.identifiers message =
      (((history.attempts message).map fun attempt => plainIdentifier attempt.identifier).filter
        (· ≠ [])).eraseDups := by
  rw [identifiers, List.filter_map, ← List.filterMap_eq_map, List.filterMap_filter]
  congr 2
  funext attempt
  rw [Attempt.logIdentifier?]
  by_cases empty : plainIdentifier attempt.identifier = []
  · simp [empty]
  · simp [empty]

/-- **A history is the log of its records.** After any operations the attempts of a message are the
records of it since the history was last replaced, in order; so an operation adds its own records of
the message and nothing else, unless it replaces the history. The messages are the ones with an
attempt, strictly increasing; the size counts them. The identifiers of a message are the non-empty
ones of its attempts as log lines show them, each once, in the order of their first occurrences. -/
theorem attempts_foldl_perform (operations : List Operation) :
    let history := operations.foldl perform .empty
    let records := (Operation.sinceReplaced operations).flatMap Operation.records
    (∀ message : Text, history.attempts message = attemptsIn records message) ∧
    (∀ (operation : Operation) (message : Text), (history.perform operation).attempts message =
      (if operation.replaces then [] else history.attempts message) ++
        attemptsIn operation.records message) ∧
    (history.messages.Pairwise (· < ·) ∧
      ∀ message : Text, message ∈ history.messages ↔ history.attempts message ≠ []) ∧
    (history.size = history.messages.length ∧ (history.isEmpty ↔ history.messages = [])) ∧
    ∀ message : Text,
      let logged := (history.attempts message).map fun attempt => plainIdentifier attempt.identifier
      (history.identifiers message).Nodup ∧
      (∀ identifier : Text, identifier ∈ history.identifiers message ↔
        identifier ≠ [] ∧ identifier ∈ logged) ∧
      (history.identifiers message).Pairwise fun first second =>
        logged.idxOf first < logged.idxOf second := by
  intro history records
  have run := foldl_perform_eq_recordAll .empty operations
  rw [ite_self] at run
  refine ⟨?_, ?_, ⟨Register.keys_sorted history, fun message => Register.mem_keys_iff⟩, ?_, ?_⟩
  · intro message
    have recorded := attempts_recordAll .empty records message
    rw [← run] at recorded
    exact recorded.trans (congrArg (· ++ _) (Register.items_empty message))
  · intro operation message
    rw [perform_eq_recordAll, attempts_recordAll]
    cases operation.replaces with
    | true => exact congrArg (· ++ _) (Register.items_empty message)
    | false => rfl
  · refine ⟨Register.size_eq_length history, ?_⟩
    rw [isEmpty, decide_eq_true_eq, size, Register.size_eq_length, List.length_eq_zero_iff]
    rfl
  · intro message logged
    have listed := identifiers_eq history message
    have named : ∀ identifier ∈ history.identifiers message, decide (identifier ≠ []) = true := by
      intro identifier member
      rw [listed, List.mem_eraseDups, List.mem_filter] at member
      exact member.2
    refine ⟨nodup_eraseDups _, ?_, ?_⟩
    · intro identifier
      rw [listed, List.mem_eraseDups, List.mem_filter, decide_eq_true_eq]
      exact and_comm
    · have ordered := pairwise_idxOf_eraseDups (logged.filter (· ≠ []))
      rw [← listed] at ordered
      exact ordered.imp_of_mem fun isFirst isSecond earlier =>
        idxOf_lt_of_filter (· ≠ []) (named _ isFirst) (named _ isSecond) earlier

end History

end DeliveryTrace
