import DeliveryTrace.Correlation.MailLog

/-! # Reports

The verdict on a message comes from the lines that belong to it: the newest line with an outcome
decides. An acceptance counts only while its transaction has no line that reports a delivery
attempt, because a delivery may be logged before the acceptance is.
-/

namespace DeliveryTrace

/-- The transactions of the lines that report the fate of a delivery attempt. -/
def concluded (lines : List LogLine) : List Text :=
  (lines.filter fun line => line.direction.isOutcome).filterMap LogLine.transaction

/-- Whether an acceptance no longer counts, given the concluded transactions. -/
def LogLine.isSuperseded (line : LogLine) (concluded : List Text) : Bool :=
  line.direction = .inboundAccept && line.transaction.any concluded.contains

/-- The status that the newest line with an outcome supports. -/
def Status.ofLines (lines : List LogLine) : Status :=
  let concluded := concluded lines
  let newest? := lines.reverse.findSome? fun line =>
    if line.isSuperseded concluded then none else line.outcome?
  newest?.getD .unknown

/-- Everything known about one message. -/
structure Report where
  /-- The lines of the message in log order. -/
  lines : List LogLine
  /-- The transactions of the lines, in the order of their first lines. -/
  transactions : List Text
  status : Status
  /-- Whether the newest attempt failed before it reached the mail server. The status says nothing
  about that: a resend may fail after the first send was delivered. -/
  submissionFailed : Bool

namespace Report

/-- The report on lines that belong to the message of some attempts. -/
def ofLines (lines : List LogLine) (attempts : List Attempt) : Report where
  lines := lines
  transactions := transactionIds lines
  status := .ofLines lines
  submissionFailed := attempts.getLast?.any Attempt.isKnownFailed

end Report

/-- Find the lines of a message and report on them. -/
def MailLog.assess (log : MailLog) (depth : Nat) (attempts : List Attempt) : Report :=
  .ofLines (log.correlate depth attempts) attempts

end DeliveryTrace
