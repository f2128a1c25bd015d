import DeliveryTrace.Log.Format
import DeliveryTrace.Ron.Composite

/-! # Settings

Which log format to read and how far to look. Every field has a default, and a settings file may
name any of them in any order.
-/

namespace DeliveryTrace

/-- Limits on finding the lines of a message. -/
structure Limits where
  /-- How many handoffs are followed from the transactions that a message identifier names. -/
  handoffDepth : Nat := 8
  /-- How many of the newest lines a window keeps; without a number it keeps all. -/
  windowLines : Option Nat := none
deriving DecidableEq

/-- The settings of a run. -/
structure Settings where
  format : LogFormat := default
  limits : Limits := {}
deriving DecidableEq

namespace Settings

/-- A settings file may name a format that does not exist. -/
structure UnsupportedFormat where
  setting : Text

/-- Readers of settings. -/
abbrev SettingsReader (α : Type) : Type := Ron.Reader UnsupportedFormat α

/-- How deep values may nest in a file. -/
def nestingLimit : Nat := 128

/-- A format by its name. -/
def formatReader : SettingsReader LogFormat := do
  let setting ← Ron.text
  match LogFormat.ofName? setting with
  | some format => return format
  | none => Ron.Reader.refuse ⟨setting⟩

section Extended

variable (extensions : List Ron.Extension)

/-- The limits that a file has named so far. -/
structure LimitsDraft where
  handoffDepth : Option Nat := none
  windowLines : Option (Option Nat) := none

/-- A field of the limits. -/
def limitsField (name : Text) : Option (LimitsDraft → SettingsReader LimitsDraft) :=
  if name = "max_handoff_depth".toList then
    some fun draft => do
      let depth ← Ron.once draft.handoffDepth Ron.natural
      return { draft with handoffDepth := some depth }
  else if name = "max_window_lines".toList then
    some fun draft => do
      let lines ← Ron.once draft.windowLines (Ron.optional extensions Ron.natural)
      return { draft with windowLines := some lines }
  else none

/-- Limits written as a record. -/
def limitsReader : SettingsReader Limits := do
  let draft ← Ron.record extensions "CorrelationConfig".toList (nestingLimit - 4)
    (limitsField extensions) {}
  let defaults : Limits := {}
  return ⟨draft.handoffDepth.getD defaults.handoffDepth,
    draft.windowLines.getD defaults.windowLines⟩

/-- The settings that a file has named so far. -/
structure Draft where
  format : Option LogFormat := none
  limits : Option Limits := none

/-- A field of the settings. -/
def field (name : Text) : Option (Draft → SettingsReader Draft) :=
  if name = "mta_log_type".toList then
    some fun draft => do
      let format ← Ron.once draft.format formatReader
      return { draft with format := some format }
  else if name = "correlation".toList then
    some fun draft => do
      let limits ← Ron.once draft.limits (limitsReader extensions)
      return { draft with limits := some limits }
  else none

/-- Settings written as a record. -/
def reader : SettingsReader Settings := do
  let draft ← Ron.record extensions "Config".toList (nestingLimit - 2) (field extensions) {}
  let defaults : Settings := {}
  return ⟨draft.format.getD defaults.format, draft.limits.getD defaults.limits⟩

end Extended

/-- The settings of a file with this content. -/
def ofFile (content : Text) : Except (Ron.Fault UnsupportedFormat) Settings :=
  Ron.file reader content

end Settings

end DeliveryTrace
