import DeliveryTrace.Command.Failure
import DeliveryTrace.HistoryFile
import DeliveryTrace.Window

/-! # Loading settings, logs and histories

Files come as a function from paths to what stands there. Settings come from the file that the
command names, else from the one that the environment names, else from the first default location
that exists; a file that was chosen but cannot be loaded is a failure, and no other place is tried.
How the text of a file is decoded is left open: a run is given its decoders.
-/

namespace DeliveryTrace

/-- What a path leads to. -/
inductive Entry where
  | missing
  /-- Something that may not be opened. -/
  | locked
  /-- Something that can be opened but not be read to its end, such as a folder. -/
  | folder
  | file (bytes : List UInt8)

namespace Entry

/-- Whether the path leads anywhere. -/
def isPresent : Entry → Bool
  | missing => false
  | locked | folder | file _ => true

/-- The text of a file, which must be well-formed. -/
def text? : Entry → Option Text
  | file bytes => Utf8.decode? bytes
  | missing | locked | folder => none

/-- The entry that a path leads to from a folder that holds just these files. Empty parts and single
dots stay in the folder; nothing is known outside it but that its parents are folders. -/
def inFolder (files : List (Text × List UInt8)) (path : Text) : Entry :=
  let parts := Text.pieces '/' path
  let names := parts.filter fun part => part ≠ [] && part ≠ ['.']
  if path = [] then missing
  else if names.all (· = ['.', '.']) then folder
  else if path.head? = some '/' then missing
  else
    match names with
    | [name] =>
      match files.find? fun candidate => candidate.1 = name with
      | some (_, bytes) => if parts.getLast? = some name then file bytes else missing
      | none => missing
    | _ => missing

end Entry

/-- What paths lead to. -/
abbrev Files : Type := Text → Entry

/-- What decodes the text of a settings file and the text of a history file. Only a setting that
names no log format is refused; everything else that cannot be decoded is malformed. -/
structure Decoders where
  settings : Text → Except (Ron.Fault Settings.UnsupportedFormat) Settings
  history : Text → Except (Ron.Fault Empty) History

/-- Settings and histories are written in object notation. -/
def Decoders.ron : Decoders := ⟨Settings.ofFile, History.ofFile⟩

/-- The default locations of the settings, in the order in which they are tried. -/
def defaultLocations : List Text :=
  ["./mailtrail.config.ron", "/etc/mailtrail/mailtrail.config.ron"].map String.toList

namespace Files

/-- The settings file that applies when the command names none. `choice?` is the environment's
choice. -/
def findSettings (files : Files) (choice? : Option Text) : Except Failure (Option Text) :=
  match choice? with
  | some path => if (files path).isPresent then .ok (some path) else .error (.settingsMissing path)
  | none => .ok (defaultLocations.find? fun path => (files path).isPresent)

/-- The settings of a file. -/
def settingsAt (files : Files) (decoders : Decoders) (path : Text) : Except Failure Settings :=
  match (files path).text? with
  | none => .error (.settingsUnreadable path)
  | some content =>
    match decoders.settings content with
    | .ok settings => .ok settings
    | .error .malformed => .error (.settingsInvalid path)
    | .error (.refused cause) => .error (.formatUnsupported path cause.setting)

/-- The settings that apply, `named?` being the command's choice. -/
def settings (files : Files) (decoders : Decoders) (choice? named? : Option Text) :
    Except Failure Settings := do
  let path? ←
    match named? with
    | some path => .ok (some path)
    | none => files.findSettings choice?
  match path? with
  | some path => files.settingsAt decoders path
  | none => return {}

/-- A window with the lines of one more log file. -/
def addLog (files : Files) (window : Window) (path : Text) : Except Failure Window :=
  match files path with
  | .missing | .locked => .error (.logUnopened path)
  | .folder => .error (.logUnreadable path)
  | .file bytes => .ok (window.read { bytes }).1

/-- The window of some log files, oldest first. Without a path it holds the lines of `input`. -/
def window (files : Files) (input : List UInt8) (limit : Option Nat) (paths : List Text) :
    Except Failure Window :=
  let start := ({} : Window).withLimit limit
  if paths = [] then .ok (start.read { bytes := input }).1
  else paths.foldlM files.addLog start

/-- The send history of a file. -/
def history (files : Files) (decoders : Decoders) (path : Text) : Except Failure History :=
  match (files path).text? with
  | none => .error (.historyUnreadable path)
  | some content =>
    match decoders.history content with
    | .ok history => .ok history
    | .error _ => .error (.historyInvalid path)

end Files

end DeliveryTrace
