import DeliveryTrace.Proofs.Log.Handoff
import DeliveryTrace.Proofs.Text.Gap

/-! # The status that a delivery record states

A delivery record starts with the recipient, and others choose that. The main statement says what
is read from the record: its own status and the reply quoted there, unless the recipient has a
status in it, which then counts instead.
-/

namespace DeliveryTrace.Postfix

open Text

/-- Fields with a comma behind each, and the status with the reply as its detail. -/
def statusFields (fields : List Text) (status detail : Text) : Text :=
  (fields.flatMap fun field => ' ' :: (field ++ [','])) ++
    ' ' :: ("status=".toList ++ (status ++ ' ' :: '(' :: (detail ++ [')'])))

/-- A delivery record, which tells the status of a delivery to a recipient. -/
def deliveryRecord (recipient : Text) (fields : List Text) (status detail : Text) : Text :=
  "to=<".toList ++ (recipient ++ '>' :: ',' :: statusFields fields status detail)

/-- The status that a recipient states: a word that ends within it behind the first mark. -/
def forgedStatus? (recipient : Text) : Option Text := do
  let (_, after) ← cut? "status=".toList recipient
  let word ← endedWord? after
  return dropTail (· = ',') word

variable {recipient status detail : Text} {fields : List Text} {direction : Direction}

/-- The text behind the first mark, if a character that the mark lacks comes before it. -/
theorem behindStatus_append_cons {c : Char} (foreign : c ∉ "status=".toList) {text : Text}
    (absent : occurs "status=".toList text = false) (rest : Text) :
    (cut? "status=".toList (text ++ c :: rest)).map Prod.snd =
      (cut? "status=".toList rest).map Prod.snd := by
  rw [occurs, Option.isSome_eq_false_iff, Option.isNone_iff_eq_none] at absent
  rw [snd_cut?_append_cons (by decide) foreign, absent]
  rfl

theorem behindStatus_statusFields
    (foreign : ∀ field ∈ fields, occurs "status=".toList field = false) :
    (cut? "status=".toList (statusFields fields status detail)).map Prod.snd =
      some (status ++ ' ' :: '(' :: (detail ++ [')'])) := by
  unfold statusFields
  induction fields with
  | nil =>
      have cut := @cut?_append "status=".toList [] (by decide) (by decide)
        (status ++ ' ' :: '(' :: (detail ++ [')']))
      rw [List.flatMap_nil, behindStatus_append_cons (by decide) (by decide)]
      exact congrArg (Option.map Prod.snd) cut
  | cons field fields ih =>
      rw [List.forall_mem_cons] at foreign
      have lead := @behindStatus_append_cons ' ' (by decide) [] (by decide)
      rw [List.flatMap_cons, List.cons_append, List.cons_append, ← List.nil_append (' ' :: _), lead,
        List.append_assoc, List.append_assoc, List.singleton_append,
        behindStatus_append_cons (by decide) foreign.1, ih foreign.2]

theorem behindStatus_deliveryRecord
    (foreign : ∀ field ∈ fields, occurs "status=".toList field = false) :
    (cut? "status=".toList (deliveryRecord recipient fields status detail)).map Prod.snd =
      ((cut? "status=".toList recipient).map fun (_, after) =>
        after ++ '>' :: ',' :: statusFields fields status detail).or
        (some (status ++ ' ' :: '(' :: (detail ++ [')']))) := by
  have listed := @behindStatus_append_cons ',' (by decide) [] (by decide)
    (statusFields fields status detail)
  rw [List.nil_append, behindStatus_statusFields foreign] at listed
  have recipients := @snd_cut?_append_cons "status=".toList '>' (by decide) (by decide) recipient
    (',' :: statusFields fields status detail)
  rw [listed] at recipients
  have opened := @behindStatus_append_cons '<' (by decide) "to=".toList (by decide)
    (recipient ++ '>' :: ',' :: statusFields fields status detail)
  exact opened.trans recipients

theorem statusDirection_of_unknown (unknown : ∀ known ∈ knownStatuses, status ≠ known.1) :
    statusDirection status = .unparseable := by
  simp only [knownStatuses, List.forall_mem_cons] at unknown
  obtain ⟨sent, deferred, bounced, expired, _⟩ := unknown
  simp only [statusDirection, sent, deferred, bounced, expired, if_false, decide_false,
    Bool.or_self, Bool.false_eq_true]

/-- The status in a recipient is read in the place of the record's own. -/
theorem direction_of_forged (line : LogLine) {record after more : Text}
    (cut : (cut? "status=".toList record).map Prod.snd = some (after ++ '>' :: more)) :
    (delivery line record).direction =
      ((endedWord? after).map fun word => statusDirection (dropTail (· = ',') word)).getD
        .unparseable := by
  obtain ⟨⟨before, _⟩, found, rfl⟩ := Option.map_eq_some_iff.mp cut
  obtain ⟨word, rest, split, ended⟩ := splitWord?_append_cons (c := '>') (by decide) after more
  unfold delivery
  simp only [found, split, Option.getD_some]
  rcases ended with ended | ⟨unended, member⟩
  · rw [ended]
    rfl
  · rw [unended]
    -- No status has the bracket behind the recipient in it.
    apply statusDirection_of_unknown
    rintro known listed same
    have kept : '>' ∈ dropTail (· = ',') word := mem_dropTail member (by decide)
    have letters : ∀ known ∈ knownStatuses, '>' ∉ known.1 := by decide
    rw [same] at kept
    exact letters known listed kept

/-- **What a delivery record tells.** Its own status and the reply that it quotes count, unless
there is a status in the recipient. -/
theorem parse_deliveryRecord {raw daemon transaction : Text} {header : Header}
    (entry : IsEntry raw header daemon transaction (deliveryRecord recipient fields status detail))
    (known : (status, direction) ∈ knownStatuses)
    (foreign : ∀ field ∈ fields, occurs "status=".toList field = false) :
    (occurs "status=".toList recipient = false →
      parse raw =
        { raw
          stamp := some header.stamp
          transaction := some transaction
          direction
          replyCode := Reply.code? detail
          related :=
            if direction = .outboundRelay then (Reply.queueId? detail).filter isQueueId
            else none }) ∧
    (occurs "status=".toList recipient = true →
      (parse raw).direction =
        ((forgedStatus? recipient).map statusDirection).getD .unparseable) := by
  have cut := @behindStatus_deliveryRecord recipient status detail fields foreign
  rw [parse_of_isEntry entry]
  have addressed (line : LogLine) :
      record line daemon (deliveryRecord recipient fields status detail) =
        delivery line (deliveryRecord recipient fields status detail) :=
    record_of_recipient line daemon _
  rw [addressed]
  constructor
  · intro absent
    rw [occurs, Option.isSome_eq_false_iff, Option.isNone_iff_eq_none] at absent
    rw [absent] at cut
    exact delivery_of_cut? _ known cut
  · intro present
    obtain ⟨⟨before, after⟩, found⟩ := Option.isSome_iff_exists.mp present
    rw [found] at cut
    rw [direction_of_forged _ cut, forgedStatus?, found]
    cases ended : endedWord? after <;> simp [ended]

/-- A recipient with blanks in quotes does not hide the status. -/
theorem parse_deliveryRecord_bounced :
    let record := deliveryRecord "\"a b\"@localhost".toList ["relay=none".toList, "delay=1".toList]
      "bounced".toList "550 (5.1.1) status=sent (250 ok)".toList
    let raw := "Jun 15 16:02:40 mx postfix/smtp[12120]: BA6A236F4E08: ".toList ++ record
    (parse raw).direction = .bouncedNotify ∧ (parse raw).replyCode = some 550 ∧
      (parse raw).related = none := by
  intro record raw
  obtain ⟨header, entry⟩ :
      ∃ header, IsEntry raw header "smtp".toList "BA6A236F4E08".toList record :=
    exists_isEntry_iff.mpr (by decide +kernel)
  have known : ("bounced".toList, Direction.bouncedNotify) ∈ knownStatuses := by decide
  have coded : Reply.code? "550 (5.1.1) status=sent (250 ok)".toList = some 550 := by decide
  obtain ⟨told, _⟩ := parse_deliveryRecord entry known (by decide)
  rw [told (by decide)]
  exact ⟨rfl, coded, rfl⟩

/-- A status in the recipient counts before the status of the record. -/
theorem direction_parse_forged :
    let record := deliveryRecord "\"x status=sent (250 ok)\"@localhost".toList
      ["relay=none".toList, "delay=1".toList, "dsn=5.1.1".toList] "bounced".toList
      "550 5.1.1 unknown user".toList
    let raw := "Jun 15 16:02:40 mx postfix/smtp[12120]: BA6A236F4E08: ".toList ++ record
    (∃ header, IsEntry raw header "smtp".toList "BA6A236F4E08".toList record) ∧
      (parse raw).direction = .outboundRelay ∧ (parse raw).replyCode = some 250 := by
  intro record raw
  refine ⟨exists_isEntry_iff.mpr ?_, ?_⟩
  · decide +kernel
  · decide +kernel

end DeliveryTrace.Postfix
