import DeliveryTrace.Proofs.Correlation.Belonging
import DeliveryTrace.Proofs.Log.Acceptance
import DeliveryTrace.Proofs.Verdict

/-! # A logged send is found

A line logs the send of an identifier if it is an Exim arrival with this identifier in its first
`id` field, or, behind a syslog header, a record of it by the cleanup daemon of Postfix. The main
statement says that every line of the transaction is then correlated to an attempt with the
identifier, whatever else stands in the window and however few handoffs are followed; and that the
verdict is open only if some line reports a fate of the transaction.
-/

namespace DeliveryTrace

open Text

/-- The text logs, in the format, that a transaction took up the message with the identifier. -/
inductive LogsSend (identifier : Text) : LogFormat → Text → Text → Prop
  | arrival (opening : Exim.Opening) {text sender rest : Text} {fields : List Text}
      (gapped : Gapped (opening.words ++ opening.identifier :: ['<', '='] :: sender :: fields) text)
      (named : sender ≠ ['<', '>']) (foreign : ∀ field ∈ fields, ¬ "id=".toList <+: field)
      (ends : EndsWord rest) :
      LogsSend identifier .eximLog (text ++ ("id=".toList ++ identifier ++ rest)) opening.identifier
  | cleanup (opening : Postfix.Opening) {text rest : Text}
      (gapped : Gapped (opening.words ++ [opening.identifier ++ [':']]) text)
      (ends : EndsWord rest) :
      LogsSend identifier .postfixLog
        (text ++ ("message-id=".toList ++ bracketed identifier ++ rest)) opening.identifier

variable {identifier raw transaction : Text} {format : LogFormat}

/-- A line that logs a send is an acceptance with the identifier. -/
theorem LogsSend.accepts (logs : LogsSend identifier format raw transaction)
    (bare : IsBare identifier) :
    (LogLine.ofText format raw).Accepts transaction ∧
      (LogLine.ofText format raw).messageId = some identifier := by
  cases logs with
  | arrival opening gapped named foreign ends =>
      rw [LogLine.ofText, opening.parse_arrival gapped named foreign bare ends]
      exact ⟨⟨rfl, rfl⟩, rfl⟩
  | cleanup opening gapped ends =>
      rw [LogLine.ofText, opening.parse_messageId gapped bare ends]
      exact ⟨⟨rfl, rfl⟩, rfl⟩

namespace MailLog

variable {log : MailLog} {limit : Nat} {attempts : List Attempt}

/-- Every line of a reached transaction is correlated, as often as it is logged. -/
theorem filter_correlate (read : log.IsRead) (reached : log.Reached limit attempts transaction) :
    (log.correlate limit attempts).filter (fun line => line.transaction = some transaction) =
      log.lines.filter fun line => line.transaction = some transaction := by
  have matched : ∀ entry ∈ log.lines.zipIdx, entry.1.transaction = some transaction →
      (log.matchedPositions limit attempts).contains entry.2 = true := by
    intro entry placed owned
    rw [← Std.TreeSet.mem_iff_contains, mem_matchedPositions read]
    exact ⟨entry.1, List.mem_zipIdx_iff_getElem?.mp placed, .inl ⟨transaction, owned, reached⟩⟩
  unfold correlate
  conv_rhs => rw [← List.zipIdx_map_fst 0 log.lines, List.filter_map]
  rw [List.filter_map, List.filter_filter]
  congr 1
  apply List.filter_congr
  intro entry placed
  simp only [Function.comp_apply]
  by_cases owned : entry.1.transaction = some transaction
  · rw [matched entry placed owned, Bool.and_true]
  · simp [owned]

/-- **A logged send is found.** If the window has a line that logs the send of a bare identifier and
some attempt carries it, then this line accepts the transaction; all lines of the transaction are
correlated, each as often as it is logged; and the verdict is open only if the window has a line
that reports a fate of the transaction. -/
theorem correlate_loggedSend {window : Window} (bare : IsBare identifier)
    (logs : LogsSend identifier format raw transaction) (logged : raw ∈ window.lines)
    {attempt : Attempt} (sent : attempt ∈ attempts) (carries : attempt.Carries identifier)
    (limit : Nat) :
    let log := ofWindow format window
    (LogLine.ofText format raw).Accepts transaction ∧
    (∀ line ∈ log.lines, line.transaction = some transaction →
      line ∈ log.correlate limit attempts) ∧
    (log.correlate limit attempts).filter (fun line => line.transaction = some transaction) =
      log.lines.filter (fun line => line.transaction = some transaction) ∧
    (Status.ofLines (log.correlate limit attempts) = .unknown →
      ∃ report ∈ log.lines, report.Concludes transaction) := by
  intro log
  have read : log.IsRead := isRead_ofWindow format window
  obtain ⟨accepts, carried⟩ := logs.accepts bare
  have accepting : LogLine.ofText format raw ∈ log.lines := List.mem_map_of_mem logged
  have reached : log.Reached limit attempts transaction := by
    refine ⟨0, Nat.zero_le limit, .seed (isSeed_iff.mpr ⟨identifier, ?_, ?_⟩)⟩
    · exact List.mem_filterMap.mpr ⟨attempt, sent, bare.logIdentifier? carries⟩
    · exact ⟨_, accepting, accepts, carried.trans (congrArg some bare.plainIdentifier_self.symm)⟩
  have found : ∀ line ∈ log.lines, line.transaction = some transaction →
      line ∈ log.correlate limit attempts := by
    intro line member owned
    exact (mem_correlate read).mpr ⟨member, .inl ⟨transaction, owned, reached⟩⟩
  refine ⟨accepts, found, filter_correlate read reached, fun unknown => ?_⟩
  rw [ofLines_eq_unknown_iff] at unknown
  by_contra unanswered
  -- With no fate reported the acceptance itself counts, and it has an outcome.
  have counts : (LogLine.ofText format raw).IsEffective (log.correlate limit attempts) := by
    refine .inr ⟨accepts.1, fun own owned report correlated concludes => unanswered ?_⟩
    cases accepts.2.symm.trans owned
    exact ⟨report, ((mem_correlate read).mp correlated).1, concludes⟩
  have correlated := found _ accepting accepts.2
  have silent := unknown _ (List.mem_filter.mpr ⟨correlated, decide_eq_true counts⟩)
  rw [LogLine.outcome?, accepts.1] at silent
  cases silent

/-- An opening with a time zone and a process number. -/
def arrivalOpening : Exim.Opening where
  dateWord := "2017-01-02".toList
  clockWord := "10:00:00".toList
  zone? := some "+0100".toList
  process? := some "[17814]".toList
  identifier := "1cNiyF-00040R-Kc".toList
  moment := ⟨⟨2017, 1, 2, by decide⟩, ⟨10, 0, 0, 0, by decide⟩⟩
  isWord_dateWord := IsPlainWord.isWord (by decide)
  isWord_clockWord := IsPlainWord.isWord (by decide)
  readsDate := by decide
  readsClock := by decide
  isTimezone_zone := by decide
  isProcessNumber_process := by decide
  isMessageId_identifier := by decide

/-- An opening with a stamp that lacks the year, on a day of one digit. -/
def cleanupOpening : Postfix.Opening where
  first := "Jun".toList
  others := ["5".toList, "16:02:39".toList]
  stamp := .yearless 6 5 ⟨16, 2, 39, 0, by decide⟩
  host := "mx".toList
  program := "postfix/cleanup".toList
  process? := some "12118".toList
  stampWords := .classic (by decide) (by decide) (by decide)
    (IsPlainWord.isWord (by decide)) (by decide)
  isWord_host := IsPlainWord.isWord (by decide)
  isWord_program := IsPlainWord.isWord (by decide)
  unbracketed := by decide
  isNumber_process := by
    rintro process ⟨⟩
    exact ⟨12118, by decide⟩
  service := "postfix".toList
  daemon := "cleanup".toList
  identifier := "BA6A236F4E08".toList
  program_eq := by decide
  served := by decide
  daemon_last := by decide
  isQueueId_identifier := by decide

/-- A quoted subject that names another identifier. -/
def subjectField : Text :=
  "T=".toList ++ '"' :: ("Re: id=other@localhost".toList ++ ['"'])

theorem isWord_subjectField : IsWord subjectField := by
  have key : IsPlainWord "T=".toList := by decide
  exact key.isWord.append (.quoted (isQuoted_of_ordinary (by decide) (by decide)) .nil)

/-- The words of an arrival up to its subject. -/
def arrivalWords : List Text :=
  arrivalOpening.words ++
    [arrivalOpening.identifier, ['<', '='], "r@localhost".toList, subjectField]

theorem isWord_arrivalWords : ∀ word ∈ arrivalWords, IsWord word := by
  refine List.forall_mem_append.mpr ⟨arrivalOpening.isWord_of_mem_words, ?_⟩
  simp only [List.forall_mem_cons]
  exact ⟨arrivalOpening.isWord_identifier, IsPlainWord.isWord (by decide),
    IsPlainWord.isWord (by decide), isWord_subjectField, nofun⟩

/-- Two spaces stand in front of the day. -/
theorem gapped_cleanupOpening :
    Gapped (cleanupOpening.words ++ [cleanupOpening.identifier ++ [':']])
      "Jun  5 16:02:39 mx postfix/cleanup[12118]: BA6A236F4E08: ".toList :=
  gapped_padded (by decide)

set_option maxRecDepth 100000 in
/-- Both logs have the send of one identifier between other lines. The attempt wrote it in angle
brackets, and no handoff is followed. -/
theorem correlate_loggedSend_bracketed :
    let identifier := "first@localhost".toList
    let attempt : Attempt := { identifier := " <first@localhost>\t".toList, sentAt := ⟨0, 0⟩ }
    let arrivals := Window.ofLines
      ["2017-01-02 10:00:01 1cNiyF-00040R-Kc => s@localhost".toList,
        ("2017-01-02 10:00:00 +0100 [17814] 1cNiyF-00040R-Kc <= r@localhost " ++
          "T=\"Re: id=other@localhost\" id=first@localhost id=last@localhost").toList,
        "2017-01-02 10:00:02 1cNiyG-00040U-Ls Completed".toList]
    let records := Window.ofLines
      ["unrelated".toList,
        ("Jun  5 16:02:39 mx postfix/cleanup[12118]: BA6A236F4E08: " ++
          "message-id=<first@localhost>").toList]
    IsBare identifier ∧ attempt.Carries identifier ∧
      (LogLine.ofText .eximLog arrivals.lines[1]).Accepts "1cNiyF-00040R-Kc".toList ∧
      ((ofWindow .eximLog arrivals).correlate 0 [attempt]).length = 2 ∧
      (∀ line ∈ (ofWindow .eximLog arrivals).lines,
        line.transaction = some "1cNiyF-00040R-Kc".toList →
          line ∈ (ofWindow .eximLog arrivals).correlate 0 [attempt]) ∧
      Status.ofLines ((ofWindow .postfixLog records).correlate 0 [attempt]) ≠ .unknown := by
  intro identifier attempt arrivals records
  have bare : IsBare identifier := ⟨by decide, by decide⟩
  have carries : attempt.Carries identifier :=
    ⟨[' '], bracketed identifier, ['\t'], by decide, .inr rfl,
      List.forall_mem_singleton.mpr (by decide), List.forall_mem_singleton.mpr (by decide)⟩
  have arrival := @LogsSend.arrival identifier arrivalOpening _ _ " id=last@localhost".toList _
    (gapped_spaced isWord_arrivalWords) (by decide) (by decide) (endsWord_cons _)
  have record := @LogsSend.cleanup identifier cleanupOpening _ [] gapped_cleanupOpening nofun
  obtain ⟨accepts, found, _, _⟩ := @correlate_loggedSend _ _ _ _ [attempt] arrivals bare arrival
    (by decide +kernel) attempt List.mem_cons_self carries 0
  obtain ⟨_, _, _, reported⟩ := @correlate_loggedSend _ _ _ _ [attempt] records bare record
    (by decide +kernel) attempt List.mem_cons_self carries 0
  refine ⟨bare, carries, accepts, by decide +kernel, found, fun unknown => ?_⟩
  exact absurd (reported unknown) (by decide +kernel)

end MailLog

end DeliveryTrace
