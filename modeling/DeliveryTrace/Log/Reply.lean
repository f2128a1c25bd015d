import DeliveryTrace.Text.Numeral
import DeliveryTrace.Text.Word

/-! # Replies of the next mail server

The reply to a delivery attempt starts with a three-digit code, and an accepting server often adds
the identifier under which it queued the message: `250 OK id=1cNiyG-00040U-Ls` or
`250 2.0.0 Ok: queued as B7F313A054`.
-/

namespace DeliveryTrace.Reply

open Text

/-- What may stand behind a reply code: nothing, a blank, or the hyphen of a continued reply. -/
def endsCode : Text → Bool
  | [] => true
  | c :: _ => c = ' ' || c = '-'

/-- The reply code at the start of a text: three digits from 200 to 599. Enhanced codes such as
`2.0.0` and the numbers of an address are none. -/
def code? (text : Text) : Option Nat :=
  match trimStart text with
  | a :: b :: c :: rest =>
    if '2' ≤ a ∧ a ≤ '5' ∧ b.isDigit ∧ c.isDigit ∧ endsCode rest then
      some (ofDigits [a, b, c])
    else none
  | _ => none

/-- Punctuation that ends a sentence or a bracket, not an identifier. -/
def isClosing (c : Char) : Bool := c = ')' || c = ',' || c = ';' || c = '.'

/-- What an identifier may look like, whatever the server: ASCII letters, digits and hyphens. -/
def isIdentifier (word : Text) : Bool :=
  word ≠ [] && word.all fun c => isAsciiAlnum c || c = '-'

/-- The word at which a reply names the identifier: the first `id=` word, else the word after
`queued as`. -/
def namedWord? (reply : Text) : Option Text :=
  match (words reply).findSome? (behind? "id=".toList) with
  | some named => some named
  | none => do
    let (_, after) ← cut? "queued as ".toList reply
    let (named, _) ← splitWord? after
    return named

/-- The queue identifier that the next server assigned, without closing punctuation. -/
def queueId? (reply : Text) : Option Text := do
  let named ← namedWord? reply
  let identifier := dropTail isClosing named
  if isIdentifier identifier then some identifier else none

end DeliveryTrace.Reply
