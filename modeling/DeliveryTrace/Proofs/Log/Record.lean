import DeliveryTrace.Proofs.Log.Postfix

/-! # Records of a Postfix log

A record is what a daemon logs about a transaction. The main statement says what each kind of record
other than that of a delivery tells, and that a header counts only by its stamp and by the daemon
that it names.
-/

namespace DeliveryTrace.Postfix

open Text

/-- The record says that a message entered the queue. -/
def IsAccepted (text : Text) : Prop :=
  "from=<".toList <+: text ∨ "uid=".toList <+: text ∧ " from=<".toList <:+: text

/-- What a record tells if the daemon wrote it: the direction, the message identifier of an
acceptance and the transaction of a report. -/
inductive Tells (daemon : Text) : Text → Direction → Option Text → Option Text → Prop
  | removed : Tells daemon "removed".toList .removed none none
  | identified {identifier : Text} (plain : IsPlainWord identifier) :
      Tells daemon ("message-id=".toList ++ '<' :: (identifier ++ ['>']))
        .inboundAccept (some identifier) none
  | accepted {text : Text} (other : daemon ≠ "bounce".toList) (isAccepted : IsAccepted text) :
      Tells daemon text .inboundAccept none none
  | reported {report : Text} (bounces : daemon = "bounce".toList)
      (valid : isQueueId report = true) :
      Tells daemon ("sender non-delivery notification: ".toList ++ report)
        .bouncedNotify none (some report)

variable {daemon text head report : Text} {direction : Direction} {messageId related : Option Text}

/-! ## Kinds of records -/

/-- A record that is neither removed nor identified nor addressed to a recipient. -/
theorem record_of_other (line : LogLine) (daemon : Text) (remains : text ≠ "removed".toList)
    (unidentified : ¬ "message-id=".toList <+: text) (unaddressed : ¬ "to=".toList <+: text) :
    record line daemon text =
      match notification? daemon text with
      | some report =>
        { line with
          direction := .bouncedNotify
          related := ((splitWord? report).map Prod.fst).filter isQueueId }
      | none => if isAcceptance text then { line with direction := .inboundAccept } else line := by
  rw [record, if_neg remains, behind?_eq_none_iff.mpr unidentified]
  exact if_neg (mt startsWith_iff.mp unaddressed)

theorem isAcceptance_iff : isAcceptance text = true ↔ IsAccepted text := by
  simp only [isAcceptance, IsAccepted, Bool.or_eq_true, Bool.and_eq_true, startsWith_iff,
    occurs_iff]

theorem record_accepted (line : LogLine) (other : daemon ≠ "bounce".toList)
    (isAccepted : IsAccepted text) :
    record line daemon text = { line with direction := .inboundAccept } := by
  have accepts := isAcceptance_iff.mpr isAccepted
  have silent : notification? daemon text = none := if_neg other
  have kind : text ≠ "removed".toList ∧ ¬ "message-id=".toList <+: text ∧
      ¬ "to=".toList <+: text := by
    rcases isAccepted with ⟨rest, rfl⟩ | ⟨⟨rest, rfl⟩, _⟩
    · simp
    · simp
  rw [record_of_other line daemon kind.1 kind.2.1 kind.2.2, silent]
  exact if_pos accepts

theorem record_reported (line : LogLine) (valid : isQueueId report = true) :
    record line "bounce".toList ("sender non-delivery notification: ".toList ++ report) =
      { line with direction := .bouncedNotify, related := some report } := by
  have plain := isPlainWord_of_isQueueId valid
  have announced : notification? "bounce".toList
      ("sender non-delivery notification: ".toList ++ report) = some (' ' :: report) := by
    have cut := @cut?_append "non-delivery notification:".toList "sender ".toList nofun
      (by decide) (' ' :: report)
    exact congrArg (Option.map Prod.snd) cut
  have first : splitWord? (' ' :: report) = some (report, []) := by
    have found := splitWord?_append plain.isWord endsWord_nil
    rw [List.append_nil] at found
    exact (splitWord?_append_of_isBlank isGap_space.isBlank report).trans found
  have kept : (some report).filter isQueueId = some report :=
    Option.filter_eq_some_iff.mpr ⟨rfl, valid⟩
  rw [record_of_other line _ (by simp) (by simp) (by simp), announced]
  simp only [first, Option.map_some, kept]

/-- Each record is recognised as what it is: none is taken for one of an earlier kind. -/
theorem record_of_tells {raw transaction : Text} {stamp : Stamp}
    (tells : Tells daemon text direction messageId related) :
    record { raw, stamp := some stamp, transaction := some transaction } daemon text =
      { raw, stamp := some stamp, transaction := some transaction, direction, messageId,
        related } := by
  cases tells with
  | removed => rw [record, if_pos rfl]
  | identified plain =>
      have carried := messageId?_bracketed plain.nonempty plain.isComplete endsWord_nil
      rw [List.append_nil] at carried
      rw [record_messageId, carried]
  | accepted other isAccepted => rw [record_accepted _ other isAccepted]
  | reported bounces valid =>
      subst bounces
      exact record_reported _ valid

/-- A record that tells something starts visibly. -/
theorem Tells.exists_cons (tells : Tells daemon text direction messageId related) :
    ∃ c rest, text = c :: rest ∧ isBlank c = false := by
  cases tells with
  | removed => exact ⟨_, _, rfl, rfl⟩
  | identified plain => exact ⟨_, _, rfl, rfl⟩
  | accepted other isAccepted =>
      rcases isAccepted with ⟨rest, rfl⟩ | ⟨⟨rest, rfl⟩, _⟩
      · exact ⟨_, _, rfl, rfl⟩
      · exact ⟨_, _, rfl, rfl⟩
  | reported bounces valid => exact ⟨_, _, rfl, rfl⟩

/-! ## Lines -/

/-- **What a record tells.** A line tells the stamp and the transaction of its opening, whatever its
record is, and the record tells what its kind says. Of the header only the stamp and the daemon
count: with another stamp, host, service or process number, or with other gaps, the line tells the
same but for the stamp. Every stamp that a daemon writes may open a line. -/
theorem parse_record (opening : Opening) (gapped : Gapped opening.words head)
    (ended : ∀ c ∈ text.getLast?, isBlank c = false) :
    let raw := head ++ (opening.identifier ++ [':'] ++ ' ' :: text)
    ((parse raw).stamp = some opening.stamp ∧
        (parse raw).transaction = some opening.identifier) ∧
      (∀ direction messageId related, Tells opening.daemon text direction messageId related →
        parse raw =
          { raw
            stamp := some opening.stamp
            transaction := some opening.identifier
            direction, messageId, related }) ∧
      (∀ (other : Opening) (otherHead : Text), Gapped other.words otherHead →
        other.daemon = opening.daemon → other.identifier = opening.identifier →
        let otherRaw := otherHead ++ (other.identifier ++ [':'] ++ ' ' :: text)
        parse otherRaw = { parse raw with raw := otherRaw, stamp := some other.stamp }) ∧
      ∀ {first others stamp}, WrittenStamp first others stamp → StampWords first others stamp := by
  intro raw
  have entry : IsEntry raw (opening.header (trimEnd (' ' :: text))) opening.daemon
      opening.identifier (trimStart (trimEnd (' ' :: text))) :=
    opening.isEntry_gapped gapped (endsWord_cons text)
  refine ⟨⟨stamp_parse entry, transaction_parse entry⟩, ?_, ?_, WrittenStamp.stampWords⟩
  · intro direction messageId related tells
    obtain ⟨c, rest, rfl, shown⟩ := tells.exists_cons
    have whole : trimStart (trimEnd (' ' :: c :: rest)) = c :: rest := by
      have kept : trimEnd (' ' :: c :: rest) = ' ' :: c :: rest := dropTail_eq_self ended
      rw [kept, trimStart_space]
      exact trimStart_of_visible (startsVisible_cons shown rest)
    rw [parse_of_isEntry entry, whole]
    exact record_of_tells tells
  · intro other otherHead otherGapped sameDaemon sameIdentifier otherRaw
    have otherEntry : IsEntry otherRaw (other.header (trimEnd (' ' :: text))) other.daemon
        other.identifier (trimStart (trimEnd (' ' :: text))) :=
      other.isEntry_gapped otherGapped (endsWord_cons text)
    rw [parse_of_isEntry otherEntry, parse_of_isEntry entry, sameDaemon, sameIdentifier,
      ← record_withHeader]
    rfl

/-- A header of the bounce daemon with an RFC 3339 stamp and a service within a service. -/
def reportOpening : Opening where
  first := "2024-06-15T16:02:40.123456+00:00".toList
  others := []
  stamp := .exact ⟨⟨2024, 6, 15, by decide⟩, ⟨16, 2, 40, 123456000, by decide⟩⟩
  host := "mail".toList
  program := "postfix/out/bounce".toList
  process? := none
  stampWords := .rfc3339 (IsPlainWord.isWord (by decide)) rfl
  isWord_host := IsPlainWord.isWord (by decide)
  isWord_program := IsPlainWord.isWord (by decide)
  unbracketed := by decide
  isNumber_process := nofun
  service := "postfix/out".toList
  daemon := "bounce".toList
  identifier := "3F1A2B4C5D".toList
  program_eq := rfl
  served := ⟨_, rfl⟩
  daemon_last := by decide
  isQueueId_identifier := rfl

/-- A header of the same daemon with a stamp that lacks the year. -/
def yearlessOpening : Opening :=
  { reportOpening with
    first := "Jun".toList
    others := ["5".toList, "16:02:40".toList]
    stamp := .yearless 6 5 ⟨16, 2, 40, 0, by decide⟩
    program := "postfix-out/bounce".toList
    process? := some "5216".toList
    stampWords := WrittenStamp.stampWords (.classic rfl (List.cons_ne_nil _ _) rfl (by decide)
      (@Reading.IsClock.mk "16".toList "02".toList "40".toList _ ⟨rfl, rfl⟩ ⟨rfl, rfl⟩ ⟨rfl, rfl⟩ rfl))
    isWord_program := IsPlainWord.isWord (by decide)
    unbracketed := by decide
    isNumber_process := by
      intro process given
      cases given
      exact ⟨5216, rfl⟩
    service := "postfix-out".toList
    program_eq := rfl
    served := ⟨_, rfl⟩ }

/-- Behind the header with two spaces in front of the day a report is told as it is behind the
other one. -/
theorem parse_record_report :
    let head := "Jun  5 16:02:40 mail postfix-out/bounce[5216]: ".toList
    let text := "sender non-delivery notification: 4Xyz1234abczABCD".toList
    let raw := head ++ ("3F1A2B4C5D:".toList ++ ' ' :: text)
    (∀ c ∈ text.getLast?, isBlank c = false) ∧
      Gapped reportOpening.words (reportOpening.toHeading.text ++ [' ']) ∧
      Gapped yearlessOpening.words head ∧
      parse raw =
        { raw
          stamp := some yearlessOpening.stamp
          transaction := some "3F1A2B4C5D".toList
          direction := .bouncedNotify
          related := some "4Xyz1234abczABCD".toList } := by
  intro head text raw
  have ended : ∀ c ∈ text.getLast?, isBlank c = false := by
    intro c last
    cases last
    rfl
  have gapped := reportOpening.gapped_text
  have padded : Gapped yearlessOpening.words head := gapped_padded (by decide)
  obtain ⟨_, told, restamped, _⟩ := parse_record reportOpening gapped ended
  have report := told _ _ _ (.reported rfl (rfl : isQueueId "4Xyz1234abczABCD".toList = true))
  have same := restamped yearlessOpening head padded rfl rfl
  rw [report] at same
  exact ⟨ended, gapped, padded, same⟩

end DeliveryTrace.Postfix
