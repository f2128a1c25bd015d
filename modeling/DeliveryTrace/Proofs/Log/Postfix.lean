import DeliveryTrace.Proofs.Log.Entry
import DeliveryTrace.Proofs.Log.Handoff
import DeliveryTrace.Proofs.Log.Heading

/-! # Postfix lines as they are written

A Postfix line opens with a syslog header, whose program is a daemon of a service, and with the
queue identifier of its transaction. The main statement says that the line is an entry of this
transaction and that the rest of the line is its record, whatever the record is.
-/

namespace DeliveryTrace

open Text

namespace Postfix

variable {rest : Text}

theorem isPlainWord_of_isQueueId {word : Text} (valid : isQueueId word = true) :
    IsPlainWord word :=
  isPlainWord_of_isAsciiAlnum (ne_nil_of_isQueueId valid) (isAsciiAlnum_of_isQueueId valid)

/-- The opening of a line: a header of a daemon, and a queue identifier. -/
structure Opening extends Heading where
  service : Text
  daemon : Text
  identifier : Text
  program_eq : program = service ++ '/' :: daemon
  served : "postfix".toList <+: service
  daemon_last : '/' ∉ daemon
  isQueueId_identifier : isQueueId identifier = true

namespace Opening

variable (opening : Opening)

theorem daemon?_program : daemon? opening.program = some opening.daemon := by
  have served := startsWith_iff.mpr opening.served
  rw [daemon?, opening.program_eq, cutLast?_append opening.daemon_last]
  simp only [served, Option.bind_eq_bind, Option.bind_some, if_true]

/-- The word of the queue identifier. -/
theorem isPlainWord_identifier : IsPlainWord (opening.identifier ++ [':']) :=
  (isPlainWord_of_isQueueId opening.isQueueId_identifier).append isPlainWord_colon

theorem opening?_message (ends : EndsWord rest) :
    opening? (opening.identifier ++ [':'] ++ rest) = some (opening.identifier, trimStart rest) := by
  have first := splitWord?_append opening.isPlainWord_identifier.isWord ends
  have named : withoutEnd? ':' (opening.identifier ++ [':']) = some opening.identifier :=
    withoutEnd?_eq_some_iff.mpr rfl
  simp only [opening?, first, named, opening.isQueueId_identifier, Option.bind_eq_bind,
    Option.bind_some, if_true]

/-- The header of a line with the opening, the rest of its message given. -/
def header (rest : Text) : Header where
  stamp := opening.stamp
  program := opening.program
  message := opening.identifier ++ [':'] ++ rest

/-- **An opening is read as it is written**, whatever gaps there are between the words of its
header, and the rest of the line is the record. -/
theorem isEntry_gapped {head : Text} (gapped : Gapped opening.words head) (ends : EndsWord rest) :
    IsEntry (head ++ (opening.identifier ++ [':'] ++ rest)) (opening.header (trimEnd rest))
      opening.daemon opening.identifier (trimStart (trimEnd rest)) where
  headed := by
    have shown := opening.isPlainWord_identifier.isWord.startsVisible_append (trimEnd rest)
    rw [← List.append_assoc, trimEnd_append opening.isPlainWord_identifier, List.append_assoc,
      opening.ofLine?_gapped gapped, trimStart_of_visible shown]
    rfl
  tagged := opening.daemon?_program
  opened := opening.opening?_message ends.trimEnd

end Opening

/-! ## Records of the cleanup daemon -/

theorem record_messageId (line : LogLine) (daemon value : Text) :
    record line daemon ("message-id=".toList ++ value) =
      { line with direction := .inboundAccept, messageId := messageId? value } := by
  have other : "message-id=".toList ++ value ≠ "removed".toList := by simp
  rw [record, if_neg other, behind?_append]

/-- An identifier in angle brackets may hold whatever a word may hold. -/
theorem messageId?_bracketed {identifier : Text} (nonempty : identifier ≠ [])
    (complete : IsComplete identifier) (ends : EndsWord rest) :
    messageId? ('<' :: (identifier ++ ['>']) ++ rest) = some identifier := by
  have opens : IsPlainWord ['<'] := by decide
  have closes : IsPlainWord ['>'] := by decide
  have isWord : IsWord ('<' :: (identifier ++ ['>'])) :=
    opens.isWord.append (complete.append closes.isComplete)
  have whole : dropTail (· = ',') ('<' :: (identifier ++ ['>'])) =
      '<' :: (identifier ++ ['>']) := by
    apply dropTail_eq_self
    rw [← List.cons_append, List.getLast?_concat]
    rintro c ⟨⟩
    decide
  simp only [messageId?, splitWord?_append isWord ends, Option.bind_eq_bind, Option.bind_some,
    whole, unwrap_append, if_neg nonempty]

end Postfix

end DeliveryTrace
