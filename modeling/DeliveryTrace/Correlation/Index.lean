import DeliveryTrace.Log.Parse
import DeliveryTrace.Register
import Std.Data.TreeSet

/-! # The index of a log

One pass over the lines of a log files each line under its transaction, each accepted transaction
under the message identifier of its acceptance, and each Exim notification under the transaction
that bounced. Postfix logs its notification inside the bounced transaction, so there is nothing to
file.
-/

namespace DeliveryTrace

/-- A line and its position in the log. -/
abbrev PlacedLine := LogLine × Nat

/-- What a log holds, by transaction and by message identifier. -/
structure Index where
  /-- The lines of each transaction in log order. -/
  transactions : Register PlacedLine := .empty
  /-- The transactions accepted with each message identifier, in the order of their first such
  acceptance. -/
  messageIds : Register Text := .empty
  /-- The transactions with an acceptance. -/
  accepted : Std.TreeSet Text := ∅
  /-- The notifications of each bounced transaction in log order. -/
  bounces : Register PlacedLine := .empty

namespace Index

/-- File an acceptance of a transaction. -/
def addAcceptance (index : Index) (transaction : Text) (messageId : Option Text) : Index :=
  { index with
    accepted := index.accepted.insert transaction
    messageIds :=
      match messageId with
      | none => index.messageIds
      | some messageId => index.messageIds.fileOnce messageId transaction }

@[simp]
theorem transactions_addAcceptance (index : Index) (transaction : Text) (messageId : Option Text) :
    (index.addAcceptance transaction messageId).transactions = index.transactions := rfl

@[simp]
theorem bounces_addAcceptance (index : Index) (transaction : Text) (messageId : Option Text) :
    (index.addAcceptance transaction messageId).bounces = index.bounces := rfl

/-- File a notification under the transaction that bounced, if that is another one. -/
def addBounce (index : Index) (transaction : Text) (entry : PlacedLine) : Index :=
  match entry.1.related with
  | none => index
  | some bounced =>
    if bounced = transaction then index
    else { index with bounces := index.bounces.file bounced entry }

@[simp]
theorem transactions_addBounce (index : Index) (transaction : Text) (entry : PlacedLine) :
    (index.addBounce transaction entry).transactions = index.transactions := by
  unfold addBounce
  split
  · rfl
  · split <;> rfl

@[simp]
theorem messageIds_addBounce (index : Index) (transaction : Text) (entry : PlacedLine) :
    (index.addBounce transaction entry).messageIds = index.messageIds := by
  unfold addBounce
  split
  · rfl
  · split <;> rfl

@[simp]
theorem accepted_addBounce (index : Index) (transaction : Text) (entry : PlacedLine) :
    (index.addBounce transaction entry).accepted = index.accepted := by
  unfold addBounce
  split
  · rfl
  · split <;> rfl

/-- File one line. -/
def add (format : LogFormat) (index : Index) (entry : PlacedLine) : Index :=
  match entry.1.transaction with
  | none => index
  | some transaction =>
    let index := { index with transactions := index.transactions.file transaction entry }
    match entry.1.direction with
    | .inboundAccept => index.addAcceptance transaction entry.1.messageId
    | .bouncedNotify =>
      match format with
      | .eximLog => index.addBounce transaction entry
      | .postfixLog => index
    | _ => index

/-- The index of the lines of a log. -/
def ofLines (format : LogFormat) (lines : List LogLine) : Index :=
  lines.zipIdx.foldl (add format) {}

end Index

end DeliveryTrace
