import DeliveryTrace.Command.Run
import Std.Time.DateTime.Timestamp

/-! # The command

Gathers what a run may look at, runs it and writes what it answers.
-/

namespace DeliveryTrace.Main

/-- What an opened path holds. A folder can be opened but not read. -/
def readOpened (handle : IO.FS.Handle) : IO Entry := do
  try return .file (← handle.readBinToEnd).toList
  catch _ => return .folder

/-- What a path of the file system leads to. -/
def readEntry (path : Text) : IO Entry := do
  try readOpened (← IO.FS.Handle.mk (String.ofList path) .read)
  catch
  | .permissionDenied .. => return .locked
  | _ => return .missing

/-- Every byte of standard input, if it can be read to its end. -/
def readInput : IO (Option (List UInt8)) := do
  try return some (← (← IO.getStdin).readBinToEnd).toList
  catch _ => return none

/-- The time of day of the run. -/
def now : IO Instant := do
  return ⟨(← Std.Time.Timestamp.now).toSecondsSinceUnixEpoch.val, 0⟩

/-- What a command line finds around it. Standard input is read only if the run needs it. -/
def gather (request : Except UsageError Request) : IO Surroundings := do
  let settingsChoice := (← IO.getEnv (String.ofList settingsVariable)).map String.toList
  let logLevel := (← IO.getEnv "LOG_LEVEL").map String.toList
  let now ← now
  match request with
  | .ok (.run invocation) =>
    let entries ← (Surroundings.paths settingsChoice invocation).mapM fun path =>
      return (path, ← readEntry path)
    let input ← if invocation.logs = [] then readInput else pure none
    return ⟨fun path => (entries.lookup path).getD .missing, input, settingsChoice, logLevel, now⟩
  | _ => return ⟨fun _ => .missing, none, settingsChoice, logLevel, now⟩

end DeliveryTrace.Main

open DeliveryTrace in
def main (arguments : List String) : IO UInt32 := do
  let words := arguments.map String.toList
  let surroundings ← Main.gather (Request.ofArguments words)
  IO.eprint (String.ofList (levelWarning surroundings.logLevel))
  let result := surroundings.run .ron words
  IO.print (String.ofList (joinLines result.lines))
  match result.outcome with
  | .done => pure ()
  | .failed failure => IO.eprintln ("Error: " ++ String.ofList failure.message)
  | .rejected error => IO.eprintln ("error: " ++ String.ofList error.message)
  return result.outcome.exitCode
