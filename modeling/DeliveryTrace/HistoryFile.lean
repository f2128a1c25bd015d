import DeliveryTrace.Calendar.Reading
import DeliveryTrace.History
import DeliveryTrace.Settings

/-! # Send history files

A history file maps each message to the list of its attempts. Of a message that is given twice the
last list counts, and a message without attempts is not in the history.
-/

namespace DeliveryTrace.History

/-- Readers of history files, which refuse nothing that is well-formed. -/
abbrev HistoryReader (α : Type) : Type := Ron.Reader Empty α

/-- The fields of an attempt that a file has named so far. -/
structure AttemptDraft where
  identifier : Option Text := none
  sentAt : Option Instant := none
  submission : Option Submission := none

/-- An instant written as a lenient RFC 3339 text. -/
def instantReader : HistoryReader Instant := do
  match Reading.instant? (← Ron.text) with
  | some instant => return instant
  | none => Ron.Reader.malformed

/-- A submission written by its bare name. -/
def submissionReader : HistoryReader Submission := do
  match Submission.ofName? (← Ron.name) with
  | some submission => return submission
  | none => Ron.Reader.malformed

/-- A field of an attempt. -/
def attemptField (name : Text) : Option (AttemptDraft → HistoryReader AttemptDraft) :=
  if name = "message_identifier".toList then
    some fun draft => do
      let identifier ← Ron.once draft.identifier Ron.text
      return { draft with identifier := some identifier }
  else if name = "sent_at".toList then
    some fun draft => do
      let sentAt ← Ron.once draft.sentAt instantReader
      return { draft with sentAt := some sentAt }
  else if name = "outcome".toList then
    some fun draft => do
      let submission ← Ron.once draft.submission submissionReader
      return { draft with submission := some submission }
  else none

/-- An attempt written as a record. Identifier and time must be given. -/
def attemptReader (extensions : List Ron.Extension) : HistoryReader Attempt := do
  let draft ←
    Ron.record extensions "SendAttempt".toList (Settings.nestingLimit - 6) attemptField {}
  match draft.identifier, draft.sentAt with
  | some identifier, some sentAt =>
    return ⟨identifier, sentAt, draft.submission.getD .submitted⟩
  | _, _ => Ron.Reader.malformed

/-- Keep the last item of each key. -/
def keepLast {α : Type} : List (Text × α) → List (Text × α)
  | [] => []
  | (key, item) :: items =>
    if items.any fun later => later.1 = key then keepLast items
    else (key, item) :: keepLast items

/-- The history of a file with this content. -/
def ofFile (content : Text) : Except (Ron.Fault Empty) History :=
  match Ron.file (fun extensions => Ron.map (Ron.list (attemptReader extensions))) content with
  | .error fault => .error fault
  | .ok items => .ok (ofItems (keepLast items))

end DeliveryTrace.History
