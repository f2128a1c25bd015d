import DeliveryTrace.Log.Header
import DeliveryTrace.Log.Line
import DeliveryTrace.Log.Reply

/-! # The Postfix log

Every line has a syslog header whose tag names a service and a daemon, then the queue identifier
and a colon, then a record:

    Jun 15 16:02:39 host postfix/cleanup[12118]: BA6A236F4E08: message-id=<a@localhost>
    Jun 15 16:02:40 host postfix/smtp[12120]: BA6A236F4E08: to=<b@c>, status=sent (250 Ok)
    Jun 15 16:02:40 host postfix/qmgr[5216]: BA6A236F4E08: removed
-/

namespace DeliveryTrace.Postfix

open Text

/-- Queue identifiers have 5 to 32 ASCII letters and digits, with a digit among them; so `warning`
and `NOQUEUE` are none. -/
def isQueueId (word : Text) : Bool :=
  5 ≤ word.length && word.length ≤ 32 && word.all isAsciiAlnum && word.any Char.isDigit

/-- The direction of a delivery status. -/
def statusDirection (status : Text) : Direction :=
  if status = "sent".toList then .outboundRelay
  else if status = "deferred".toList then .deferred
  else if status = "bounced".toList || status = "expired".toList then .bouncedNotify
  else .unparseable

/-- The reply quoted behind a delivery status: what stands between the first bracket and the last
one, or up to the end if no bracket closes. -/
def quotedReply? (text : Text) : Option Text := do
  let detail ← behind? ['('] text
  return match cutLast? ')' detail with
    | some (inner, _) => inner
    | none => detail

/-- A delivery record, classified by its `status` attribute. -/
def delivery (line : LogLine) (record : Text) : LogLine :=
  match cut? "status=".toList record with
  | none => line
  | some (_, after) =>
    let (word, rest) := (splitWord? after).getD ([], [])
    let reply := quotedReply? rest
    let direction := statusDirection (dropTail (· = ',') word)
    { line with
      direction
      replyCode := reply.bind Reply.code?
      related :=
        if direction = .outboundRelay then (reply.bind Reply.queueId?).filter isQueueId
        else none }

/-- The message identifier that the cleanup daemon logs. -/
def messageId? (value : Text) : Option Text := do
  let (word, _) ← splitWord? value
  let identifier := unwrap '<' '>' (dropTail (· = ',') word)
  if identifier = [] then none else some identifier

/-- Whether a record says that a message entered the queue. -/
def isAcceptance (record : Text) : Bool :=
  startsWith "from=<".toList record ||
    (startsWith "uid=".toList record && occurs " from=<".toList record)

/-- The text behind the announcement of a non-delivery report. -/
def notification? (daemon record : Text) : Option Text :=
  if daemon = "bounce".toList then
    (cut? "non-delivery notification:".toList record).map Prod.snd
  else none

/-- Read the record of a line. -/
def record (line : LogLine) (daemon text : Text) : LogLine :=
  if text = "removed".toList then { line with direction := .removed }
  else
    match behind? "message-id=".toList text with
    | some value => { line with direction := .inboundAccept, messageId := messageId? value }
    | none =>
      if startsWith "to=".toList text then delivery line text
      else
        match notification? daemon text with
        | some report =>
          { line with
            direction := .bouncedNotify
            related := ((splitWord? report).map Prod.fst).filter isQueueId }
        | none => if isAcceptance text then { line with direction := .inboundAccept } else line

/-- The daemon of a program name: what follows the last slash of a service that starts with
`postfix`. -/
def daemon? (program : Text) : Option Text := do
  let (service, daemon) ← cutLast? '/' program
  if startsWith "postfix".toList service then some daemon else none

/-- The queue identifier and the record of a message. -/
def opening? (message : Text) : Option (Text × Text) := do
  let (word, text) ← splitWord? message
  let identifier ← withoutEnd? ':' word
  if isQueueId identifier then some (identifier, text) else none

/-- Read one line of a Postfix log. -/
def parse (raw : Text) : LogLine :=
  let found := do
    let header ← Header.ofLine? (trimEnd raw)
    let daemon ← daemon? header.program
    let (identifier, text) ← opening? header.message
    let line : LogLine :=
      { raw, stamp := some header.stamp, transaction := some identifier }
    return record line daemon text
  found.getD (.unrecognised raw)

end DeliveryTrace.Postfix
