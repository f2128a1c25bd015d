import DeliveryTrace.Text.Blank

/-! # Delivery status

What is known about the fate of an outgoing message, ordered by increasing finality.
-/

namespace DeliveryTrace

/-- What is known about the fate of an outgoing message. -/
inductive Status where
  | unknown
  | sent
  | delivered
  | deferred
  | failed
deriving DecidableEq

namespace Status

instance : Inhabited Status := ⟨unknown⟩

/-- All statuses in increasing order. -/
def all : List Status := [unknown, sent, delivered, deferred, failed]

/-- The place of a status in the order. -/
def rank : Status → Nat
  | unknown => 0
  | sent => 1
  | delivered => 2
  | deferred => 3
  | failed => 4

instance : Ord Status := ⟨fun left right => compare left.rank right.rank⟩

/-- The name of a status. -/
def name : Status → Text
  | unknown => "unknown".toList
  | sent => "sent".toList
  | delivered => "delivered".toList
  | deferred => "deferred".toList
  | failed => "failed".toList

/-- The status with a given name, spelled exactly. -/
def ofName? (text : Text) : Option Status := all.find? fun status => status.name = text

/-- An explanation to show next to a message. -/
def description : Status → Text
  | unknown => "We could not find any delivery information for this message".toList
  | sent => "The message was accepted by our mail server".toList
  | delivered => "The message was accepted by the recipient's mail server".toList
  | deferred => "Delivery is delayed and the mail server will keep retrying".toList
  | failed => "The message could not be delivered".toList

/-- Delivered and failed messages keep their status unless the log grows. -/
def isFinal : Status → Bool
  | delivered | failed => true
  | unknown | sent | deferred => false

end Status

end DeliveryTrace
