import DeliveryTrace.Report
import DeliveryTrace.Ron.Value

/-! # Reports in object notation -/

namespace DeliveryTrace.RonReport

open Ron

/-- The name of a direction in object notation. -/
def directionName : Direction → Text
  | .inboundAccept => "InboundAccept".toList
  | .outboundRelay => "OutboundRelay".toList
  | .removed => "Removed".toList
  | .deferred => "Deferred".toList
  | .bouncedNotify => "BouncedNotify".toList
  | .unparseable => "Unparseable".toList

/-- A time stamp, with fractions of a second where it has them. -/
def stamp : Stamp → Value
  | .exact moment => .wrapped "Exact".toList (.text moment.fullText)
  | .yearless month day clock =>
    .record "YearLess".toList
      [("month".toList, .number month),
        ("day".toList, .number day),
        ("time".toList, .text clock.fullText)]

/-- A line and everything read from it. -/
def line (line : LogLine) : Value :=
  .record []
    [("raw".toList, .text line.raw),
      ("timestamp".toList, .option (line.stamp.map stamp)),
      ("transaction_id".toList, .option (line.transaction.map .text)),
      ("referenced_message_id".toList, .option (line.messageId.map .text)),
      ("direction".toList, .name (directionName line.direction)),
      ("reply_code".toList, .option (line.replyCode.map .number)),
      ("related_transaction_id".toList, .option (line.related.map .text))]

/-- The report on one message. -/
def report (report : Report) : Value :=
  .record []
    [("lines".toList, .list (report.lines.map line)),
      ("transaction_ids".toList, .list (report.transactions.map .text)),
      ("status".toList, .name report.status.name),
      ("submission_failed".toList, .bool report.submissionFailed)]

/-- The reports on every message of a history. -/
def status (reports : List (Text × Report)) : Value :=
  .list (reports.map fun (message, result) => .tuple [.text message, report result])

end DeliveryTrace.RonReport
