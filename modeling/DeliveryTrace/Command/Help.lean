import DeliveryTrace.Command.Arguments

/-! # Help texts -/

namespace DeliveryTrace.Help

/-- What the command is for. -/
def about : HelpTopic → String
  | .command => "Correlate outgoing messages with Exim and Postfix logs"
  | .task .trace => "Show every log line belonging to one message"
  | .task .status => "Show the delivery status of every message in a send history"
  | .task .parse => "Show how each log line is classified"
  | .help => "Print this message or the help of the given subcommand(s)"

/-- How the command is written. -/
def usage : HelpTopic → String
  | .command => "Usage: mailtrail [OPTIONS] <COMMAND>"
  | .task .trace => "Usage: mailtrail trace [OPTIONS] --message-id <MESSAGE_IDS>"
  | .task .status => "Usage: mailtrail status [OPTIONS] --history <HISTORY>"
  | .task .parse => "Usage: mailtrail parse [OPTIONS]"
  | .help => "Usage: mailtrail help [COMMAND]..."

/-- The tasks and what each is for. -/
def tasks : List (String × String) :=
  [("trace", about (.task .trace)), ("status", about (.task .status)),
    ("parse", about (.task .parse)), ("help", about .help)]

/-- The option that names a settings file. -/
def settingsOption : String × String :=
  ("-c, --config <CONFIG>",
    "Configuration file (RON); overrides MAILTRAIL_CONFIG and the default locations")

/-- The other options of every task. -/
def sharedOptions : List (String × String) :=
  [("-m, --mta <MTA>",
      "Log format (exim or postfix); overrides `mta_log_type` from the configuration"),
    ("-l, --log <LOGS>", "Log files, oldest first. Reads stdin when none are given"),
    ("-o, --output <OUTPUT>", "Output format [default: text] [possible values: text, ron]"),
    ("-h, --help", "Print help")]

/-- The options of one task alone. They follow the settings file. -/
def taskOptions : TaskName → List (String × String)
  | .trace =>
    [("    --message-id <MESSAGE_IDS>", "Message identifier of each send attempt, oldest first")]
  | .status =>
    [("    --history <HISTORY>", "Send history file (RON map of message key to attempts)")]
  | .parse => []

/-- Two aligned columns, indented. -/
def columns (rows : List (String × String)) : List Text :=
  let width := (rows.map fun (left, _) => left.length).foldl max 0
  rows.map fun (left, right) =>
    [' ', ' '] ++ left.toList.rightpad width ' ' ++ [' ', ' '] ++ right.toList

/-- A titled list. -/
def listed (title : String) (rows : List (String × String)) : List Text :=
  title.toList :: columns rows

/-- The lists of a help text. -/
def lists : HelpTopic → List Text
  | .command =>
    listed "Commands:" tasks ++ [[]] ++
      listed "Options:" (settingsOption :: sharedOptions ++ [("-V, --version", "Print version")])
  | .task name => listed "Options:" (settingsOption :: taskOptions name ++ sharedOptions)
  | .help => listed "Arguments:" [("[COMMAND]...", "Print help for the subcommand(s)")]

/-- The help text on a topic. -/
def lines (topic : HelpTopic) : List Text :=
  [(about topic).toList, [], (usage topic).toList, []] ++ lists topic

end DeliveryTrace.Help
