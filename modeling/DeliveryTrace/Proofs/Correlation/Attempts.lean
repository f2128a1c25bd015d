import DeliveryTrace.Command.Run
import DeliveryTrace.Proofs.Correlation.Growth

/-! # Attempts are a set of identifiers

A search starts from identifiers; when an attempt was made, how it went and how often an identifier
occurs among the attempts is nothing to it. The main statement says that several attempts match
what each of them matches, so that reports on attempts with the same identifiers agree in all but
the failure of the last submission.
-/

namespace DeliveryTrace

/-- The same identifiers are looked for in a log. -/
def SameIdentifiers (attempts resent : List Attempt) : Prop :=
  ∀ identifier, identifier ∈ attempts.filterMap Attempt.logIdentifier? ↔
    identifier ∈ resent.filterMap Attempt.logIdentifier?

namespace MailLog

variable {log : MailLog} {attempts resent : List Attempt} {limit length position : Nat}
  {transaction : Text}

/-! ## Seeds and chains -/

theorem isSeed_append :
    log.IsSeed (attempts ++ resent) transaction ↔
      log.IsSeed attempts transaction ∨ log.IsSeed resent transaction := by
  simp only [isSeed_iff, List.filterMap_append, List.mem_append, or_and_right, exists_or]

/-- A chain from the seeds of several attempts starts at a seed of one of them. -/
theorem chainTo_append :
    log.ChainTo (attempts ++ resent) length transaction ↔
      log.ChainTo attempts length transaction ∨ log.ChainTo resent length transaction := by
  constructor
  · intro chain
    induction chain with
    | seed named => exact (isSeed_append.mp named).imp .seed .seed
    | handoff _ hands ih => exact ih.imp (·.handoff hands) (·.handoff hands)
  · intro chains
    rcases chains with chain | chain
    · exact chain.imp (fun _ seed => isSeed_append.mpr (.inl seed)) fun _ _ hands => hands
    · exact chain.imp (fun _ seed => isSeed_append.mpr (.inr seed)) fun _ _ hands => hands

theorem reached_append :
    log.Reached limit (attempts ++ resent) transaction ↔
      log.Reached limit attempts transaction ∨ log.Reached limit resent transaction := by
  simp only [Reached, chainTo_append, and_or_left, exists_or]

theorem Reached.of_sameIdentifiers (same : SameIdentifiers attempts resent)
    (reached : log.Reached limit attempts transaction) :
    log.Reached limit resent transaction := by
  obtain ⟨length, within, chain⟩ := reached
  refine ⟨length, within, chain.imp ?_ fun _ _ hands => hands⟩
  intro seed named
  obtain ⟨identifier, known, accepted⟩ := isSeed_iff.mp named
  exact isSeed_iff.mpr ⟨identifier, (same identifier).mp known, accepted⟩

/-! ## Matched positions and reports -/

theorem mem_matchedPositions_append :
    position ∈ log.matchedPositions limit (attempts ++ resent) ↔
      position ∈ log.matchedPositions limit attempts ∨
        position ∈ log.matchedPositions limit resent := by
  simp only [mem_matchedPositions_iff_reached, reached_append, or_and_right, exists_or]

theorem mem_matchedPositions_congr (same : SameIdentifiers attempts resent) :
    position ∈ log.matchedPositions limit attempts ↔
      position ∈ log.matchedPositions limit resent := by
  have back : SameIdentifiers resent attempts := fun identifier => (same identifier).symm
  have reached (transaction : Text) : log.Reached limit attempts transaction ↔
      log.Reached limit resent transaction :=
    ⟨.of_sameIdentifiers same, .of_sameIdentifiers back⟩
  simp only [mem_matchedPositions_iff_reached, reached]

theorem correlate_congr (same : SameIdentifiers attempts resent) :
    log.correlate limit attempts = log.correlate limit resent :=
  correlate_eq_of_mem_iff fun _ => mem_matchedPositions_congr same

theorem assess_congr (same : SameIdentifiers attempts resent) :
    (log.assess limit attempts).lines = (log.assess limit resent).lines ∧
      (log.assess limit attempts).transactions = (log.assess limit resent).transactions ∧
      (log.assess limit attempts).status = (log.assess limit resent).status := by
  have lines : log.correlate limit attempts = log.correlate limit resent := correlate_congr same
  exact ⟨lines, congrArg transactionIds lines, congrArg Status.ofLines lines⟩

theorem submissionFailed_assess :
    (log.assess limit attempts).submissionFailed = true ↔
      ∃ last ∈ attempts.getLast?, last.submission = .knownFailed := by
  simp [assess, Report.ofLines, Option.any_eq_true, Attempt.isKnownFailed]

/-! ## Tracing a message of a history -/

/-- A trace makes attempts of its own with the identifiers of the recorded ones. -/
theorem sameIdentifiers_traced (now : Instant) (attempts : List Attempt) :
    SameIdentifiers ((attempts.map Attempt.identifier).map fun identifier =>
      ⟨identifier, now, .submitted⟩) attempts := by
  intro identifier
  rw [List.map_map, List.filterMap_map]
  rfl

/-- **Attempts are a set of identifiers.** Several attempts match what each of them matches, and one
attempt matches by its identifier alone. So reports on attempts with the same identifiers agree but
for the failure of the last submission, and a trace of the identifiers of a message shows what the
status report found for it. -/
theorem assess_of_sameIdentifiers :
    (∀ (log : MailLog) (limit : Nat),
      (∀ (attempts resent : List Attempt) (position : Nat),
        position ∈ log.matchedPositions limit (attempts ++ resent) ↔
          position ∈ log.matchedPositions limit attempts ∨
            position ∈ log.matchedPositions limit resent) ∧
      (∀ attempt other : Attempt, attempt.logIdentifier? = other.logIdentifier? →
        log.matchedPositions limit [attempt] = log.matchedPositions limit [other]) ∧
      (∀ attempts resent : List Attempt, SameIdentifiers attempts resent →
        (log.assess limit attempts).lines = (log.assess limit resent).lines ∧
          (log.assess limit attempts).transactions = (log.assess limit resent).transactions ∧
          (log.assess limit attempts).status = (log.assess limit resent).status) ∧
      ∀ attempts : List Attempt, (log.assess limit attempts).submissionFailed = true ↔
        ∃ last ∈ attempts.getLast?, last.submission = .knownFailed) ∧
    ∀ (settings : Settings) (window : Window) (history : History),
      ∀ entry ∈ Surroundings.statusReports settings window history, ∀ now : Instant,
        let traced := Surroundings.traceReport now settings window
          ((history.attempts entry.1).map Attempt.identifier)
        traced.lines = entry.2.lines ∧ traced.transactions = entry.2.transactions ∧
          traced.status = entry.2.status := by
  refine ⟨fun log limit => ⟨?_, ?_, ?_, ?_⟩, ?_⟩
  · intro attempts resent position
    exact mem_matchedPositions_append
  · intro attempt other same
    have seeds : log.seeds [attempt] = log.seeds [other] := by
      simp only [seeds, List.filterMap_cons, same]
    simp only [matchedPositions, reached, search, seeds]
  · intro attempts resent same
    exact assess_congr same
  · intro attempts
    exact submissionFailed_assess
  · intro settings window history entry listed now
    obtain ⟨message, _, rfl⟩ := List.mem_map.mp listed
    exact assess_congr (sameIdentifiers_traced now (history.attempts message))

set_option maxRecDepth 100000 in
/-- A failed resend with brackets around the identifier shows the same lines, and so does a trace. -/
theorem assess_of_sameIdentifiers_bracketed :
    let window := Window.ofLines deliveryLines
    let log := ofWindow .eximLog window
    let bracketed : Attempt := ⟨"<a@localhost>".toList, ⟨7, 0⟩, .knownFailed⟩
    let history := History.record .empty "m".toList bracketed
    let report := log.assess 8 (history.attempts "m".toList)
    SameIdentifiers [deliveredAttempt, bracketed] [deliveredAttempt] ∧
      (log.assess 8 [deliveredAttempt, bracketed]).lines =
        (log.assess 8 [deliveredAttempt]).lines ∧
      ("m".toList, report) ∈ Surroundings.statusReports {} window history ∧
      (Surroundings.traceReport ⟨9, 0⟩ {} window ["<a@localhost>".toList]).lines = report.lines ∧
      report.lines.length = 2 := by
  intro window log bracketed history report
  have same : SameIdentifiers [deliveredAttempt, bracketed] [deliveredAttempt] := by
    have twice : [deliveredAttempt, bracketed].filterMap Attempt.logIdentifier? =
        ["a@localhost".toList, "a@localhost".toList] := by decide +kernel
    have once : [deliveredAttempt].filterMap Attempt.logIdentifier? = ["a@localhost".toList] := by
      decide +kernel
    intro identifier
    rw [twice, once, List.mem_cons, or_iff_right_of_imp List.mem_singleton.mpr]
  have listed : ("m".toList, report) ∈ Surroundings.statusReports {} window history :=
    List.mem_map_of_mem (by decide +kernel : "m".toList ∈ history.messages)
  obtain ⟨logs, messages⟩ := assess_of_sameIdentifiers
  have resent := (logs log 8).2.2.1 _ _ same
  have traced := messages {} window history _ listed ⟨9, 0⟩
  exact ⟨same, resent.1, listed, traced.1, by decide +kernel⟩

end MailLog

end DeliveryTrace
