import DeliveryTrace.Calendar.Moment
import DeliveryTrace.Text.Cut

/-! # Send attempts

An application records each send and resend of a message with a fresh message identifier. Older
records keep the angle brackets of the header field, while log lines are read without them.
-/

namespace DeliveryTrace

/-- A message identifier as log lines show it: without blanks around it and without one pair of
angle brackets. -/
def plainIdentifier (identifier : Text) : Text :=
  Text.unwrap '<' '>' (Text.trim identifier)

/-- How the submission of an attempt to the mail server went. -/
inductive Submission where
  /-- The mail server took the message. -/
  | submitted
  /-- No mail server ever saw the message. -/
  | knownFailed
deriving DecidableEq

namespace Submission

/-- The name of a submission in records. -/
def name : Submission → Text
  | submitted => "submitted".toList
  | knownFailed => "known_failed".toList

/-- The submission with a given name. -/
def ofName? (text : Text) : Option Submission :=
  [submitted, knownFailed].find? fun submission => submission.name = text

end Submission

/-- One send or resend of a message. -/
structure Attempt where
  identifier : Text
  sentAt : Instant
  submission : Submission := .submitted
deriving DecidableEq

namespace Attempt

/-- The identifier to look for in a log; an attempt without one has nothing to look for. -/
def logIdentifier? (attempt : Attempt) : Option Text :=
  let identifier := plainIdentifier attempt.identifier
  if identifier = [] then none else some identifier

/-- Whether the attempt failed before it reached the mail server. -/
def isKnownFailed (attempt : Attempt) : Bool := attempt.submission = .knownFailed

end Attempt

end DeliveryTrace
