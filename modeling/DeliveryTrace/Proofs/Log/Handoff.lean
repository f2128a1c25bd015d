import DeliveryTrace.Proofs.Log.Entry
import DeliveryTrace.Proofs.Text.Cut
import DeliveryTrace.Proofs.Text.Word

/-! # The handoff that a delivered Postfix record tells

A record of a delivery quotes the reply of the next server. The main statement says what is read
from a reply that says `queued as` an identifier: the identifier, unless the first `id=` word of
the reply names something else.
-/

namespace DeliveryTrace

open Text

namespace Reply

/-- The first `id=` word of the reply, if there is one, names the identifier. -/
def PointsAt (reply identifier : Text) : Prop :=
  ∀ named, (words reply).findSome? (behind? "id=".toList) = some named →
    dropTail isClosing named = identifier

variable {reply identifier rest : Text}

theorem isClosing_of_isAsciiAlnum {c : Char} (alnum : isAsciiAlnum c = true) :
    isClosing c = false := by
  have bracket : c ≠ ')' := ne_of_isAsciiAlnum alnum (by decide)
  have comma : c ≠ ',' := ne_of_isAsciiAlnum alnum (by decide)
  have semicolon : c ≠ ';' := ne_of_isAsciiAlnum alnum (by decide)
  have stop : c ≠ '.' := ne_of_isAsciiAlnum alnum (by decide)
  simp [isClosing, bracket, comma, semicolon, stop]

theorem namedWord?_of_queued (queued : afters "queued as ".toList reply = [identifier ++ rest])
    (nonempty : identifier ≠ []) (alnum : ∀ c ∈ identifier, isAsciiAlnum c = true)
    (ends : EndsWord rest) :
    namedWord? reply =
      some (((words reply).findSome? (behind? "id=".toList)).getD identifier) := by
  unfold namedWord?
  cases (words reply).findSome? (behind? "id=".toList) with
  | some named => rfl
  | none =>
      have cut := @head?_afters "queued as ".toList (by decide) reply
      rw [queued] at cut
      obtain ⟨⟨before, _⟩, found, rfl⟩ := Option.map_eq_some_iff.mp cut.symm
      have split := splitWord?_append_of_isAsciiAlnum nonempty alnum ends
      simp only [found, split, Option.bind_eq_bind, Option.bind_some, Option.pure_def]
      rfl

/-- The identifier behind `queued as` is read unless the first `id=` word names something else. -/
theorem queueId?_eq_some_iff (queued : afters "queued as ".toList reply = [identifier ++ rest])
    (nonempty : identifier ≠ []) (alnum : ∀ c ∈ identifier, isAsciiAlnum c = true)
    (ends : EndsWord rest) : queueId? reply = some identifier ↔ PointsAt reply identifier := by
  have proper : isIdentifier identifier = true := by
    simp only [isIdentifier, Bool.and_eq_true, decide_eq_true_eq, List.all_eq_true, Bool.or_eq_true]
    exact ⟨nonempty, fun c member => .inl (alnum c member)⟩
  have whole : dropTail isClosing identifier = identifier :=
    dropTail_eq_self fun c last => isClosing_of_isAsciiAlnum (alnum c (List.mem_of_getLast? last))
  unfold queueId? PointsAt
  rw [namedWord?_of_queued queued nonempty alnum ends]
  cases (words reply).findSome? (behind? "id=".toList) with
  | none => simp [whole, proper]
  | some named =>
      by_cases same : dropTail isClosing named = identifier
      · simp [same, proper]
      · simp [same]

end Reply

namespace Postfix

/-- A record that says that a delivery succeeded, with the reply of the next server as its
detail. -/
def sentRecord (middle detail : Text) : Text :=
  "to=<".toList ++ middle ++ "status=".toList ++ ("sent (".toList ++ detail ++ [')'])

/-- No status stands further to the front of such a record. -/
def StatusFirst (middle : Text) : Prop :=
  occurs "status=".toList ("to=<".toList ++ middle ++ "status".toList) = false

instance (middle : Text) : Decidable (StatusFirst middle) :=
  inferInstanceAs (Decidable (_ = _))

/-- The word of the first status of a record, without a comma behind it. -/
def statedStatus? (record : Text) : Option Text := do
  let (_, after) ← cut? "status=".toList record
  let (word, _) ← splitWord? after
  return dropTail (· = ',') word

variable {middle detail identifier : Text}

theorem ne_nil_of_isQueueId (valid : isQueueId identifier = true) : identifier ≠ [] := by
  rintro rfl
  cases valid

theorem isAsciiAlnum_of_isQueueId (valid : isQueueId identifier = true) :
    ∀ c ∈ identifier, isAsciiAlnum c = true := by
  simp only [isQueueId, Bool.and_eq_true, List.all_eq_true] at valid
  exact valid.1.2

theorem quotedReply?_append (detail : Text) :
    quotedReply? ('(' :: detail ++ [')']) = some detail := by
  have cut := cutLast?_append (m := ')') List.not_mem_nil detail
  simp [quotedReply?, behind?, cut]

theorem statusDirection_eq_outboundRelay_iff {status : Text} :
    statusDirection status = .outboundRelay ↔ status = "sent".toList := by
  unfold statusDirection
  by_cases sent : status = "sent".toList
  · simp only [sent, if_true]
  · rw [if_neg sent]
    refine iff_of_false (fun relay => ?_) sent
    split at relay
    · cases relay
    · split at relay <;> cases relay

/-- A delivery record is a relay only if its first status is `sent`. -/
theorem statedStatus?_of_relay {line : LogLine} {record : Text}
    (unread : line.direction = .unparseable)
    (relay : (delivery line record).direction = .outboundRelay) :
    statedStatus? record = some "sent".toList := by
  unfold delivery at relay
  unfold statedStatus?
  cases cut : cut? "status=".toList record with
  | none =>
      rw [cut] at relay
      cases unread.symm.trans relay
  | some parts =>
      rw [cut] at relay
      have sent := statusDirection_eq_outboundRelay_iff.mp relay
      cases split : splitWord? parts.2 with
      | none =>
          rw [split] at sent
          cases sent
      | some word =>
          rw [split] at sent
          simpa [split] using sent

/-- The statuses of delivery records and their directions. -/
def knownStatuses : List (Text × Direction) :=
  [("sent".toList, .outboundRelay), ("deferred".toList, .deferred),
    ("bounced".toList, .bouncedNotify), ("expired".toList, .bouncedNotify)]

theorem splitWord?_of_known {status rest : Text} {direction : Direction}
    (known : (status, direction) ∈ knownStatuses) :
    splitWord? (status ++ ' ' :: '(' :: rest) = some (status, '(' :: rest) := by
  have letters : ∀ known ∈ knownStatuses, known.1 ≠ [] ∧ known.1.all isAsciiAlnum = true := by
    decide
  obtain ⟨nonempty, alnum⟩ := letters _ known
  exact splitWord?_append_of_isAsciiAlnum nonempty (List.all_eq_true.mp alnum) (endsWord_cons _)

/-- A delivery record tells its first status and the reply quoted behind it. -/
theorem delivery_of_cut? (line : LogLine) {record status : Text} {direction : Direction}
    (known : (status, direction) ∈ knownStatuses)
    (cut : (cut? "status=".toList record).map Prod.snd =
      some (status ++ ' ' :: '(' :: (detail ++ [')']))) :
    delivery line record =
      { line with
        direction
        replyCode := Reply.code? detail
        related :=
          if direction = .outboundRelay then (Reply.queueId? detail).filter isQueueId
          else none } := by
  have directed : ∀ known ∈ knownStatuses,
      statusDirection (dropTail (· = ',') known.1) = known.2 := by decide
  obtain ⟨⟨before, _⟩, found, rfl⟩ := Option.map_eq_some_iff.mp cut
  have told : statusDirection (dropTail (· = ',') status) = direction := directed _ known
  have quoted : quotedReply? ('(' :: (detail ++ [')'])) = some detail := quotedReply?_append detail
  unfold delivery
  simp only [found, splitWord?_of_known known, Option.getD_some, told, quoted, Option.bind_some]

/-- A delivery record whose first status is `sent` is a relay with the reply that it quotes. -/
theorem delivery_sentRecord (line : LogLine) (first : StatusFirst middle) :
    delivery line (sentRecord middle detail) =
      { line with
        direction := .outboundRelay
        replyCode := Reply.code? detail
        related := (Reply.queueId? detail).filter isQueueId } := by
  have cut := @cut?_append "status=".toList _ (by decide) first
    ("sent (".toList ++ detail ++ [')'])
  apply delivery_of_cut? line List.mem_cons_self
  rw [sentRecord, cut]
  rfl

/-- A record of a recipient is a delivery record, whatever daemon wrote it. -/
theorem record_of_recipient (line : LogLine) (daemon rest : Text) :
    record line daemon ("to=".toList ++ rest) = delivery line ("to=".toList ++ rest) := by
  have removed : "to=".toList ++ rest ≠ "removed".toList := by simp
  have identified : behind? "message-id=".toList ("to=".toList ++ rest) = none := by
    simp [behind?]
  have addressed : startsWith "to=".toList ("to=".toList ++ rest) = true :=
    startsWith_iff.mpr (List.prefix_append _ _)
  unfold record
  simp only [removed, identified, addressed, if_true, if_false]

/-- An entry whose first status is `sent` is a relay with the reply that it quotes. -/
theorem parse_sentRecord {raw daemon transaction : Text} {header : Header}
    (entry : IsEntry raw header daemon transaction (sentRecord middle detail))
    (first : StatusFirst middle) :
    parse raw =
      { raw
        stamp := some header.stamp
        transaction := some transaction
        direction := .outboundRelay
        replyCode := Reply.code? detail
        related := (Reply.queueId? detail).filter isQueueId } := by
  rw [parse_of_isEntry entry]
  exact (record_of_recipient _ daemon _).trans (delivery_sentRecord _ first)

end Postfix

end DeliveryTrace
