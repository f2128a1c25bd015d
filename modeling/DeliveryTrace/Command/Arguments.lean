import DeliveryTrace.Log.Format
import DeliveryTrace.Text.Cut

/-! # Command lines

A command line names one task and any number of options. Options that concern every task may stand
before and behind the task's name; where both sides give one, the side behind the name counts. An
option that takes one value may be given once on each side.
-/

namespace DeliveryTrace

/-- How a report is written. -/
inductive OutputStyle where
  | text
  | ron
deriving DecidableEq

/-- The output style with a given name, spelled exactly. -/
def OutputStyle.ofName? (name : Text) : Option OutputStyle :=
  if name = "text".toList then some text
  else if name = "ron".toList then some ron
  else none

/-- What a run is asked to report. -/
inductive Task where
  /-- The lines of one message, by the identifiers of its attempts, oldest first. -/
  | trace (identifiers : List Text)
  /-- The status of every message of a history file. -/
  | status (history : Text)
  /-- How each line is read. -/
  | parse
deriving DecidableEq

/-- A task with the options that every task has. -/
structure Invocation where
  settings : Option Text
  format : Option LogFormat
  logs : List Text
  output : OutputStyle
  task : Task
deriving DecidableEq

/-- The names of the tasks. -/
inductive TaskName where
  | trace
  | status
  | parse
deriving DecidableEq

/-- The task with a given name. -/
def TaskName.ofWord? (word : Text) : Option TaskName :=
  if word = "trace".toList then some trace
  else if word = "status".toList then some status
  else if word = "parse".toList then some parse
  else none

/-- What a help text is about. -/
inductive HelpTopic where
  | command
  | task (name : TaskName)
  /-- The help on help. -/
  | help
deriving DecidableEq

/-- What a command line asks for. -/
inductive Request where
  | version
  | help (topic : HelpTopic)
  | run (invocation : Invocation)

/-- Why a command line is rejected. -/
inductive UsageError where
  | unknownOption (word : Text)
  | missingValue (option : Text)
  | invalidValue (option value : Text)
  | repeatedOption (option : Text)
  | unexpectedWord (word : Text)
  | missingTask
  | missingOption (option : Text)

/-- The complaint about a command line. -/
def UsageError.message : UsageError → Text
  | unknownOption word | unexpectedWord word =>
    "unexpected argument '".toList ++ word ++ "' found".toList
  | missingValue option => "a value is required for '".toList ++ option ++ "'".toList
  | invalidValue option value =>
    "invalid value '".toList ++ value ++ "' for '".toList ++ option ++ "'".toList
  | repeatedOption option =>
    "the argument '".toList ++ option ++ "' cannot be used multiple times".toList
  | missingTask => "a subcommand is required".toList
  | missingOption option => "the argument '".toList ++ option ++ "' was not provided".toList

namespace Arguments

/-- The options with a value. -/
inductive ValueOption where
  | settings
  | format
  | log
  | output
  | messageId
  | history
deriving DecidableEq

/-- What an option does. -/
inductive Meaning where
  | value (option : ValueOption)
  | help
  | version

/-- Where options stand: in front of the task's name, or behind it. -/
abbrev Place : Type := Option TaskName

/-- The meaning of a long option where it stands. Some options belong to one task only. -/
def longMeaning? (place : Place) (name : Text) : Option Meaning :=
  if name = "config".toList then some (.value .settings)
  else if name = "mta".toList then some (.value .format)
  else if name = "log".toList then some (.value .log)
  else if name = "output".toList then some (.value .output)
  else if name = "help".toList then some .help
  else if name = "version".toList && place = none then some .version
  else if name = "message-id".toList && place = some .trace then some (.value .messageId)
  else if name = "history".toList && place = some .status then some (.value .history)
  else none

/-- The meaning of a short option where it stands. -/
def shortMeaning? (place : Place) (letter : Char) : Option Meaning :=
  match letter with
  | 'c' => some (.value .settings)
  | 'm' => some (.value .format)
  | 'l' => some (.value .log)
  | 'o' => some (.value .output)
  | 'h' => some .help
  | 'V' => if place = none then some .version else none
  | _ => none

/-- The option values given on one side of the task's name. -/
structure Given where
  settings : Option Text := none
  format : Option LogFormat := none
  logs : List Text := []
  output : Option OutputStyle := none
  messageIds : List Text := []
  history : Option Text := none

/-- Set an option that may be given once. -/
def setOnce {α : Type} (option : Text) (given : Option α) (value : α) :
    Except UsageError (Option α) :=
  if given.isSome then .error (.repeatedOption option) else .ok (some value)

/-- A path may not be empty. -/
def pathValue (option value : Text) : Except UsageError Text :=
  if value = [] then .error (.invalidValue option value) else .ok value

/-- A value that must have a meaning. -/
def namedValue {α : Type} (option value : Text) (meaning? : Option α) : Except UsageError α :=
  match meaning? with
  | some meaning => .ok meaning
  | none => .error (.invalidValue option value)

namespace Given

/-- Take the value of an option, `word` being the option as it was written. -/
def take (given : Given) (word : Text) (option : ValueOption) (value : Text) :
    Except UsageError Given :=
  match option with
  | .settings => do
    let settings ← setOnce word given.settings (← pathValue word value)
    return { given with settings }
  | .format => do
    let format ← setOnce word given.format (← namedValue word value (LogFormat.ofName? value))
    return { given with format }
  | .log => do
    let path ← pathValue word value
    return { given with logs := given.logs ++ [path] }
  | .output => do
    let output ← setOnce word given.output (← namedValue word value (OutputStyle.ofName? value))
    return { given with output }
  | .messageId => return { given with messageIds := given.messageIds ++ [value] }
  | .history => do
    let history ← setOnce word given.history (← pathValue word value)
    return { given with history }

/-- Options in front of the task's name, overridden by those behind it. -/
def override (front behind : Given) : Given where
  settings := behind.settings.or front.settings
  format := behind.format.or front.format
  logs := if behind.logs = [] then front.logs else behind.logs
  output := behind.output.or front.output
  messageIds := behind.messageIds
  history := behind.history

end Given

/-- A word that is one hyphen and more, which can be no value. -/
def looksLikeOption (word : Text) : Bool := word.head? = some '-' && word ≠ ['-']

/-- What one word with options says: it is complete, it ends the reading, or its last option takes
the next word as its value. -/
inductive WordResult where
  | help
  | version
  | given (option : ValueOption) (value : Text)
  | waiting (option : ValueOption)

/-- Read a word with short options; `rest` is what follows the hyphen. The first option with a value
takes what is left of the word, behind an optional equals sign. -/
def shortWord (place : Place) (word : Text) : (rest : Text) → Except UsageError WordResult
  | [] => .error (.unknownOption word)
  | letter :: rest =>
    match shortMeaning? place letter with
    | none => .error (.unknownOption word)
    | some .help => .ok .help
    | some .version => .ok .version
    | some (.value option) =>
      if rest = [] then .ok (.waiting option)
      else .ok (.given option ((Text.behind? ['='] rest).getD rest))

/-- Read a word with a long option; `rest` is what follows the hyphens. An equals sign attaches the
value. -/
def longWord (place : Place) (word rest : Text) : Except UsageError WordResult :=
  let (name, attached) :=
    match Text.cut? ['='] rest with
    | some (name, value) => (name, some value)
    | none => (rest, none)
  match longMeaning? place name, attached with
  | none, _ => .error (.unknownOption word)
  | some .help, none => .ok .help
  | some .version, none => .ok .version
  | some .help, some _ | some .version, some _ => .error (.unexpectedWord word)
  | some (.value option), some value => .ok (.given option value)
  | some (.value option), none => .ok (.waiting option)

/-- Where the options of one side end. -/
inductive Ending where
  | help
  | version
  /-- No word is left. -/
  | complete (given : Given)
  /-- A word that is no option, with the words behind it. The value in front of the word is found
  faulty only once those words ask for a run. -/
  | atWord (given : Except UsageError Given) (word : Text) (rest : List Text)

/-- The ending behind a separate value that is faulty: the fault waits if a word that is no option
follows. -/
def faulty (error : UsageError) : List Text → Except UsageError Ending
  | [] => .error error
  | word :: rest =>
    if looksLikeOption word then .error error else .ok (.atWord (.error error) word rest)

/-- Read the options of one side, up to a word that is none. Two hyphens alone say that no further
word is an option. -/
def options (place : Place) : Given → List Text → Except UsageError Ending
  | given, [] => .ok (.complete given)
  | given, word :: rest =>
    if word = ['-', '-'] then
      match rest with
      | [] => .ok (.complete given)
      | next :: _ => .error (.unexpectedWord next)
    else if !looksLikeOption word then .ok (.atWord (.ok given) word rest)
    else
      let result :=
        match word with
        | '-' :: '-' :: name => longWord place word name
        | _ => shortWord place word (word.drop 1)
      match result with
      | .error error => .error error
      | .ok .help => .ok .help
      | .ok .version => .ok .version
      | .ok (.given option value) =>
        match given.take word option value with
        | .error error => .error error
        | .ok given => options place given rest
      | .ok (.waiting option) =>
        match rest with
        | [] => .error (.missingValue word)
        | value :: rest =>
          if looksLikeOption value then .error (.missingValue word)
          else
            match given.take word option value with
            | .error error => faulty error rest
            | .ok given => options place given rest

/-- The task with its own options. -/
def task (name : TaskName) (given : Given) : Except UsageError Task :=
  match name with
  | .trace =>
    if given.messageIds = [] then .error (.missingOption "--message-id".toList)
    else .ok (.trace given.messageIds)
  | .status =>
    match given.history with
    | some path => .ok (.status path)
    | none => .error (.missingOption "--history".toList)
  | .parse => .ok .parse

/-- The request of a task, from the words behind its name. -/
def taskRequest (front : Except UsageError Given) (name : TaskName) (words : List Text) :
    Except UsageError Request := do
  match ← options (some name) {} words with
  | .help => return .help (.task name)
  | .version => return .version
  | .atWord _ word _ => .error (.unexpectedWord word)
  | .complete behind =>
    let given := (← front).override behind
    return .run
      { settings := given.settings
        format := given.format
        logs := given.logs
        output := given.output.getD .text
        task := ← task name behind }

/-- The word that asks for help in place of a task. -/
def helpWord : Text := "help".toList

/-- The request for help, from the words behind the word `help`. -/
def helpRequest : List Text → Except UsageError Request
  | [] => .ok (.help .command)
  | [word] =>
    match TaskName.ofWord? word with
    | some name => .ok (.help (.task name))
    | none => if word = helpWord then .ok (.help .help) else .error (.unexpectedWord word)
  | _ :: word :: _ => .error (.unexpectedWord word)

end Arguments

/-- The request of a command line. -/
def Request.ofArguments (words : List Text) : Except UsageError Request := do
  match ← Arguments.options none {} words with
  | .help => return .help .command
  | .version => return .version
  | .complete _ => .error .missingTask
  | .atWord front word rest =>
    match TaskName.ofWord? word with
    | some name => Arguments.taskRequest front name rest
    | none =>
      if word = Arguments.helpWord then Arguments.helpRequest rest
      else .error (.unexpectedWord word)

end DeliveryTrace
