import DeliveryTrace.Command.Help
import DeliveryTrace.Command.Load
import DeliveryTrace.Command.RonReport
import DeliveryTrace.Command.TextReport

/-! # Running a command

A run is a function of the command line, of what surrounds it and of the decoders of its files. It
loads the settings, then the logs, then the history, and writes its report line by line. A failure
ends the run where it stands; what was written before stays written.
-/

namespace DeliveryTrace

/-- What a run finds around it. -/
structure Surroundings where
  files : Files
  /-- The bytes of standard input, if it can be read to its end. -/
  input : Option (List UInt8)
  /-- The environment's choice of a settings file. A choice that is no text counts as none. -/
  settingsChoice : Option Text
  /-- The environment's choice of a log level. -/
  logLevel : Option Text
  /-- The time of the run, whose year goes with stamps that carry none. -/
  now : Instant

/-- How a run ends. -/
inductive Outcome where
  /-- Everything was written. -/
  | done
  /-- The run failed. -/
  | failed (failure : Failure)
  /-- The command line was rejected. -/
  | rejected (error : UsageError)

/-- The code that a run answers with. -/
def Outcome.exitCode : Outcome → UInt32
  | done => 0
  | failed _ => 1
  | rejected _ => 2

/-- What a run leaves. -/
structure RunResult where
  /-- The lines that it wrote. -/
  lines : List Text
  outcome : Outcome

/-- Lines of output, each ended by a line feed. -/
def joinLines (lines : List Text) : Text := lines.flatMap fun line => line ++ ['\n']

/-! ## Writing -/

/-- A run in progress: it may fail, and it keeps the lines that it wrote, newest first. A failure
takes no line back. -/
abbrev Run (α : Type) : Type := ExceptT Failure (StateM (List Text)) α

namespace Run

/-- Write one line. -/
def writeLine (line : Text) : Run Unit := modify fun written => line :: written

/-- Write one line after the other. -/
def writeLines (lines : List Text) : Run Unit := lines.forM writeLine

/-- Write a value in object notation. A value that nests too deep is not written. -/
def writeValue (tooDeep : Failure) (shown : Ron.Value → Text) (value : Ron.Value) : Run Unit :=
  if value.nesting ≤ Ron.Value.nestingLimit then writeLine (shown value) else throw tooDeep

/-- Write a report in object notation. -/
def writeReport (value : Ron.Value) : Run Unit :=
  writeValue .reportTooDeep (Ron.Value.pretty 0) value

/-- What a run leaves that starts with nothing written. -/
def result (action : Run Unit) : RunResult :=
  match action.run.run [] with
  | (.ok (), written) => ⟨written.reverse, .done⟩
  | (.error failure, written) => ⟨written.reverse, .failed failure⟩

end Run

/-! ## Log levels -/

/-- The log levels by name; the empty name is one. -/
def levelNames : List Text :=
  ["", "off", "error", "warn", "info", "debug", "trace"].map String.toList

/-- Whether a text is a log level: a name in any case, or a number up to five. -/
def isLogLevel (level : Text) : Bool :=
  levelNames.contains (level.map Char.toLower) || (Text.unsigned? 6 level).isSome

/-- The complaint about a log level that is none. -/
def levelWarning (choice? : Option Text) : Text :=
  match choice? with
  | none => []
  | some level =>
    if isLogLevel level then []
    else
      "Invalid log level specified ".toList ++ level ++ ", defaulting to warn".toList ++ ['\n']

/-! ## Tasks -/

namespace Surroundings

open Run

/-- The report that a trace shows. The identifiers stand for attempts made now. -/
def traceReport (now : Instant) (settings : Settings) (window : Window)
    (identifiers : List Text) : Report :=
  (MailLog.ofWindow settings.format window).assess settings.limits.handoffDepth
    (identifiers.map fun identifier => ⟨identifier, now, .submitted⟩)

/-- Write a trace. -/
def trace (now : Instant) (settings : Settings) (window : Window) (output : OutputStyle)
    (identifiers : List Text) : Run Unit :=
  let report := traceReport now settings window identifiers
  match output with
  | .text => writeLines (TextReport.trace settings.format report)
  | .ron => writeReport (RonReport.report report)

/-- The reports that a status report shows, each with its message. -/
def statusReports (settings : Settings) (window : Window) (history : History) :
    List (Text × Report) :=
  let log := MailLog.ofWindow settings.format window
  history.messages.map fun message =>
    (message, log.assess settings.limits.handoffDepth (history.attempts message))

/-- Write a status report. -/
def status (settings : Settings) (window : Window) (output : OutputStyle) (history : History) :
    Run Unit :=
  let reports := statusReports settings window history
  match output with
  | .text => writeLines (TextReport.status reports)
  | .ron => writeReport (RonReport.status reports)

/-- Write how each line is read, one line after the other. -/
def parse (year : Int) (settings : Settings) (window : Window) (output : OutputStyle) : Run Unit :=
  window.lines.forM fun raw =>
    let line := LogLine.ofText settings.format raw
    match output with
    | .text => writeLine (TextReport.line year line)
    | .ron => writeValue .lineTooDeep Ron.Value.compact (RonReport.line line)

/-- The window of some log files. Standard input is read only if there is none. -/
def window (surroundings : Surroundings) (limit : Option Nat) (logs : List Text) :
    Except Failure Window :=
  match surroundings.input with
  | some input => surroundings.files.window input limit logs
  | none =>
    if logs = [] then .error .inputUnreadable else surroundings.files.window [] limit logs

/-- The paths that a run may look at. -/
def paths (settingsChoice : Option Text) (invocation : Invocation) : List Text :=
  let settings :=
    match invocation.settings, settingsChoice with
    | some path, _ | none, some path => [path]
    | none, none => defaultLocations
  let history :=
    match invocation.task with
    | .status path => [path]
    | .trace _ | .parse => []
  settings ++ invocation.logs ++ history

/-- Run a task. -/
def perform (surroundings : Surroundings) (decoders : Decoders) (invocation : Invocation) :
    Run Unit := do
  let loaded ←
    surroundings.files.settings decoders surroundings.settingsChoice invocation.settings
  let settings := { loaded with format := invocation.format.getD loaded.format }
  let window ← surroundings.window settings.limits.windowLines invocation.logs
  match invocation.task with
  | .trace identifiers => trace surroundings.now settings window invocation.output identifiers
  | .status path =>
    let history ← surroundings.files.history decoders path
    status settings window invocation.output history
  | .parse => parse surroundings.now.year settings window invocation.output

/-- Run a command line. -/
def run (surroundings : Surroundings) (decoders : Decoders) (words : List Text) : RunResult :=
  match Request.ofArguments words with
  | .error error => ⟨[], .rejected error⟩
  | .ok .version => ⟨["mailtrail 0.0.1".toList], .done⟩
  | .ok (.help topic) => ⟨Help.lines topic, .done⟩
  | .ok (.run invocation) => (surroundings.perform decoders invocation).result

end Surroundings

end DeliveryTrace
