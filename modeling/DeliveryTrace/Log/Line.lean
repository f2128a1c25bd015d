import DeliveryTrace.Log.Stamp
import DeliveryTrace.Status

/-! # Log lines

A log line is its raw text and what the grammar of its mail server reads from it. A line that no
grammar recognises keeps its raw text and nothing else. The main definition is the outcome that a
line supports on its own.
-/

namespace DeliveryTrace

/-- What a log line says happened to the message of its transaction. -/
inductive Direction where
  /-- The message entered the queue. -/
  | inboundAccept
  /-- A delivery attempt left the queue for one recipient. -/
  | outboundRelay
  /-- The transaction ended and its queue entry is gone. -/
  | removed
  /-- Delivery was put off after a temporary failure. -/
  | deferred
  /-- Delivery failed for good, or a report of that was generated. -/
  | bouncedNotify
  /-- Anything else. -/
  | unparseable
deriving DecidableEq

namespace Direction

/-- The name of a direction in tables. -/
def name : Direction → Text
  | inboundAccept => "inbound_accept".toList
  | outboundRelay => "outbound_relay".toList
  | removed => "removed".toList
  | deferred => "deferred".toList
  | bouncedNotify => "bounced_notify".toList
  | unparseable => "unparseable".toList

/-- All directions. -/
def all : List Direction :=
  [inboundAccept, outboundRelay, removed, deferred, bouncedNotify, unparseable]

/-- The direction with a given name. -/
def ofName? (text : Text) : Option Direction := all.find? fun direction => direction.name = text

/-- The directions that report the fate of a delivery attempt. -/
def isOutcome : Direction → Bool
  | outboundRelay | deferred | bouncedNotify => true
  | inboundAccept | removed | unparseable => false

end Direction

/-- One log line and what was read from it. -/
structure LogLine where
  /-- The line exactly as logged. -/
  raw : Text
  stamp : Option Stamp := none
  /-- The queue identifier of the transaction that the line belongs to. -/
  transaction : Option Text := none
  /-- The message identifier of an acceptance, without angle brackets. -/
  messageId : Option Text := none
  direction : Direction := .unparseable
  /-- The SMTP reply code of a delivery attempt. -/
  replyCode : Option Nat := none
  /-- Another transaction that the line points at: the next hop's for a relay, the bounced one for
  an Exim notification, the report's for a Postfix notification. -/
  related : Option Text := none
deriving DecidableEq

namespace LogLine

/-- A line that no grammar recognises. -/
def unrecognised (raw : Text) : LogLine := { raw }

/-- The status that a line supports on its own. A relay without a reply code was local, and those
are logged only once they succeed. -/
def outcome? (line : LogLine) : Option Status :=
  match line.direction with
  | .inboundAccept => some .sent
  | .outboundRelay =>
    match line.replyCode with
    | none => some .delivered
    | some code =>
      if 200 ≤ code ∧ code ≤ 299 then some .delivered
      else if 400 ≤ code ∧ code ≤ 499 then some .deferred
      else if 500 ≤ code ∧ code ≤ 599 then some .failed
      else none
  | .deferred => some .deferred
  | .bouncedNotify => some .failed
  | .removed | .unparseable => none

end LogLine

end DeliveryTrace
