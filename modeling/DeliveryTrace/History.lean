import DeliveryTrace.Attempt
import DeliveryTrace.Register

/-! # Send histories

A history files the attempts of each message in the order in which they were made. Nothing is ever
taken out, so the history is the log of its records.
-/

namespace DeliveryTrace

/-- The attempts of every message. -/
abbrev History := Register Attempt

namespace History

/-- Record one attempt of a message. -/
def record (history : History) (message : Text) (attempt : Attempt) : History :=
  history.file message attempt

/-- Record an attempt that the mail server took. -/
def recordSent (history : History) (message identifier : Text) (sentAt : Instant) : History :=
  history.record message ⟨identifier, sentAt, .submitted⟩

/-- Record an attempt that failed before it reached the mail server. -/
def recordFailure (history : History) (message identifier : Text) (sentAt : Instant) : History :=
  history.record message ⟨identifier, sentAt, .knownFailed⟩

/-- The history of messages with their attempts. A message may appear more than once; one that
never has an attempt is not in the history. -/
def ofItems (items : List (Text × List Attempt)) : History :=
  items.foldl (fun history (message, attempts) =>
    attempts.foldl (fun history attempt => history.record message attempt) history) .empty

/-- The attempts of a message, oldest first. -/
def attempts (history : History) (message : Text) : List Attempt := history.items message

/-- The messages with an attempt, in increasing order. -/
def messages (history : History) : List Text := history.keys

/-- The distinct identifiers that a message was sent with, as log lines show them, in the order of
their first attempts. -/
def identifiers (history : History) (message : Text) : List Text :=
  ((history.attempts message).filterMap Attempt.logIdentifier?).eraseDups

/-- The number of messages with an attempt. -/
def size (history : History) : Nat := Register.size history

/-- Whether no attempt is recorded. -/
def isEmpty (history : History) : Bool := history.size = 0

end History

end DeliveryTrace
