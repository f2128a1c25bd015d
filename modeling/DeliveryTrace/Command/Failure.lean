import DeliveryTrace.Log.Format

/-! # Why a run fails

The ways in which settings, logs and histories cannot be loaded and reports cannot be written, with
one message for each. What the system or a decoder adds to a message, such as the position of a
fault in a file, is left out.
-/

namespace DeliveryTrace

/-- What kept a run from its report. -/
inductive Failure where
  /-- The environment names a settings file that does not exist. -/
  | settingsMissing (path : Text)
  | settingsUnreadable (path : Text)
  | settingsInvalid (path : Text)
  /-- The settings file names a log format that does not exist. -/
  | formatUnsupported (path setting : Text)
  | logUnopened (path : Text)
  | logUnreadable (path : Text)
  /-- Standard input cannot be read to its end. -/
  | inputUnreadable
  | historyUnreadable (path : Text)
  | historyInvalid (path : Text)
  /-- A report nests too deep for object notation. -/
  | reportTooDeep
  /-- A line nests too deep for object notation. -/
  | lineTooDeep
deriving DecidableEq

/-- The environment variable that names a settings file. -/
def settingsVariable : Text := "MAILTRAIL_CONFIG".toList

/-- The complaint about a settings file that can be read but holds no settings. -/
def invalidSettingsMessage (path : Text) : Text := "Invalid config in ".toList ++ path

/-- The complaint about a failure. -/
def Failure.message : Failure → Text
  | settingsMissing path => settingsVariable ++ " points to non-existent file: ".toList ++ path
  | settingsUnreadable path => "Failed to read config from ".toList ++ path
  | settingsInvalid path => invalidSettingsMessage path
  | formatUnsupported path setting =>
    invalidSettingsMessage path ++ ": ".toList ++ LogFormat.unsupportedMessage setting
  | logUnopened path => "Failed to open log ".toList ++ path
  | logUnreadable path => "Failed to read log ".toList ++ path
  | inputUnreadable => "Failed to read log from stdin".toList
  | historyUnreadable path => "Failed to read send history from ".toList ++ path
  | historyInvalid path => "Invalid send history in ".toList ++ path
  | reportTooDeep => "Failed to serialize output".toList
  | lineTooDeep => "Exceeded recursion limit".toList

end DeliveryTrace
