import DeliveryTrace.Log.Header
import DeliveryTrace.Log.Line
import DeliveryTrace.Log.Reply

/-! # The Exim main log

A line holds date, time, optional time zone and process number, the message identifier of the
transaction, and an event:

    2015-10-30 19:24:16 [17814] 1ZsFHb-0004dK-SM <= sender U=alaveteli S=2252 id=a@localhost
    2015-10-30 19:24:16 [17817] 1ZsFHb-0004dK-SM => recipient C="250 ok 1446233056 qp 26062"
    2015-10-30 19:24:16 [17817] 1ZsFHb-0004dK-SM Completed QT=1s

A two-character flag tells the event. The whole line may stand behind a syslog header.
-/

namespace DeliveryTrace.Exim

open Text

/-- The lengths of the three parts of a message identifier, in its short and its long form. -/
def identifierShapes : List (List Nat) := [[6, 6, 2], [6, 11, 4]]

/-- Message identifiers look like `1ZsFHb-0004dK-SM` or `1rVxTH-00000000BQf-2Ydw`. -/
def isMessageId (word : Text) : Bool :=
  let parts := pieces '-' word
  identifierShapes.contains (parts.map List.length) && parts.all fun part => part.all isAsciiAlnum

/-- A time zone: a sign and four digits. -/
def isTimezone : Text → Bool
  | sign :: digits =>
    (sign = '+' || sign = '-') && digits.length = 4 && digits.all Char.isDigit
  | [] => false

/-- A process number in brackets. -/
def isProcessNumber (word : Text) : Bool :=
  match inside? '[' ']' word with
  | some digits => digits ≠ [] && digits.all Char.isDigit
  | none => false

/-- The events that a flag can tell. -/
inductive Event where
  | arrival
  | delivery
  | suppressed
  | deferral
  | failure

/-- The event of a flag. Further addresses and deliveries before acceptance are deliveries too. -/
def Event.ofFlag? (flag : Text) : Option Event :=
  if flag = ['<', '='] then some .arrival
  else if flag = ['=', '>'] || flag = ['-', '>'] || flag = ['>', '>'] then some .delivery
  else if flag = ['*', '>'] then some .suppressed
  else if flag = ['=', '='] then some .deferral
  else if flag = ['*', '*'] then some .failure
  else none

/-- An arrival. The empty sender marks a notification, whose `R` field names the message that
bounced; any other message carries its identifier in the `id` field. -/
def arrival (line : LogLine) (sender fields : Text) : LogLine :=
  if sender = ['<', '>'] then
    { line with
      direction := .bouncedNotify
      related := (field? ['R'] fields).filter isMessageId }
  else
    { line with
      direction := .inboundAccept
      messageId := ((field? ['i', 'd'] fields).map (unwrap '<' '>')).filter (· ≠ []) }

/-- A delivery. The `C` field quotes the reply of the next server. -/
def delivery (line : LogLine) (fields : Text) : LogLine :=
  let reply := field? ['C'] fields
  { line with
    direction := .outboundRelay
    replyCode := reply.bind Reply.code?
    related := reply.bind Reply.queueId? }

/-- The direction of an SMTP error with a given reply code. -/
def errorDirection (code : Option Nat) : Direction :=
  match code with
  | none => .unparseable
  | some code =>
    if 400 ≤ code ∧ code ≤ 499 then .deferred
    else if 500 ≤ code ∧ code ≤ 599 then .bouncedNotify
    else .unparseable

/-- A line without a flag: the end of a transaction, or an SMTP error, whose code is the first one
behind a colon and a blank. -/
def unflagged (line : LogLine) (text : Text) : LogLine :=
  if startsWith "Completed".toList text then { line with direction := .removed }
  else if startsWith "SMTP error from remote mail server".toList text then
    let code := (afters [':', ' '] text).findSome? Reply.code?
    { line with direction := errorDirection code, replyCode := code }
  else line

/-- Read the event that follows the message identifier. -/
def event (line : LogLine) (text : Text) : LogLine :=
  match splitWord? text with
  | none => unflagged line text
  | some (first, fields) =>
    match Event.ofFlag? first with
    | none => unflagged line text
    | some .arrival =>
      match splitWord? fields with
      | none => arrival line [] []
      | some (sender, fields) => arrival line sender fields
    | some .delivery => delivery line fields
    | some .suppressed => line
    | some .deferral => { line with direction := .deferred }
    | some .failure => { line with direction := .bouncedNotify }

/-- Skip the first word if it passes a test. -/
def skipWord? (test : Text → Bool) (text : Text) : Option Text := do
  let (word, rest) ← splitWord? text
  return if test word then rest else text

/-- Date, time and message identifier at the start of a body, and the event text behind them. -/
def opening? (body : Text) : Option (Moment × Text × Text) := do
  let (dateWord, text) ← splitWord? body
  let (clockWord, text) ← splitWord? text
  let date ← Reading.dateWord? dateWord
  let clock ← Reading.fineClockWord? clockWord
  let text ← skipWord? isTimezone text
  let text ← skipWord? isProcessNumber text
  let (identifier, text) ← splitWord? text
  if isMessageId identifier then some (⟨date, clock⟩, identifier, text) else none

/-- The text of a line behind its syslog header. A header of another program rules the line out. -/
def body? (text : Text) : Option Text :=
  match Header.ofLine? text with
  | none => some text
  | some header => if startsWith "exim".toList header.program then some header.message else none

/-- Read one line of an Exim log. -/
def parse (raw : Text) : LogLine :=
  match (body? (trimEnd raw)).bind opening? with
  | none => .unrecognised raw
  | some (moment, identifier, text) =>
    event { raw, stamp := some (.exact moment), transaction := some identifier } text

end DeliveryTrace.Exim
