import DeliveryTrace.History
import DeliveryTrace.Report

/-! # Reports as text

Each report is a sequence of lines; tables have columns of a least width.
-/

namespace DeliveryTrace.TextReport

/-- The columns of a table row, each filled with blanks up to its width, one blank between them. -/
def row (columns : List (Nat × Text)) : Text :=
  [' '].intercalate (columns.map fun (width, cell) => cell.rightpad width ' ')

/-- The report on one message: its lines, then what they say. -/
def trace (format : LogFormat) (report : Report) : List Text :=
  report.lines.map LogLine.raw ++
    (if report.lines = [] then [] else [[]]) ++
    ["Format: ".toList ++ format.name,
      "Transactions: ".toList ++ [',', ' '].intercalate report.transactions,
      "Status: ".toList ++ report.status.name ++ [' ', '('] ++ report.status.description ++ [')']] ++
    (if report.status.isFinal then []
      else ["This status may change as the mail server logs more activity".toList]) ++
    (if report.submissionFailed then
        ["The most recent send failed before reaching the mail server".toList]
      else [])

/-- A row of the status table. -/
def statusRow (message status final submission : Text) : Text :=
  row [(32, message), (10, status), (6, final), (10, submission)]

/-- The status of every message of a history. -/
def status (reports : List (Text × Report)) : List Text :=
  [statusRow "MESSAGE".toList "STATUS".toList "FINAL".toList "SUBMISSION".toList,
      List.replicate 61 '-'] ++
    (reports.map fun (message, report) =>
      statusRow message report.status.name
        (if report.status.isFinal then "yes".toList else "no".toList)
        (if report.submissionFailed then "failed".toList else "ok".toList)) ++
    [[], "Total: ".toList ++ Text.decimal reports.length ++ " message(s)".toList]

/-- What stands for a value that a line does not have. -/
def absent : Text := ['-']

/-- How one line is read; stamps without a year belong to the given year. -/
def line (year : Int) (line : LogLine) : Text :=
  row [(19, ((line.stamp.bind (Stamp.inYear? year)).map Moment.text).getD absent),
    (15, line.direction.name),
    (24, line.transaction.getD absent),
    (4, (line.replyCode.map Text.decimal).getD absent),
    (0, line.raw)]

end DeliveryTrace.TextReport
