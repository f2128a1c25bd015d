import DeliveryTrace.Attempt
import DeliveryTrace.Proofs.Log.Exim
import DeliveryTrace.Proofs.Log.Postfix

/-! # Acceptances that carry a message identifier

A bare message identifier is a word of its own in both grammars, in angle brackets or without them,
and stripping leaves it alone. The main statements say that an arrival that Exim logs and a record
of the Postfix cleanup daemon are acceptances that carry the identifier.
-/

namespace DeliveryTrace

open Text

/-- The identifier has no blanks or quotes, and no bracket opens in it. -/
structure IsBare (identifier : Text) : Prop extends IsPlainWord identifier where
  unopened : '<' ∉ identifier

variable {identifier rest : Text}

/-! ## Bare identifiers -/

/-- The identifier in angle brackets. -/
def bracketed (identifier : Text) : Text := '<' :: (identifier ++ ['>'])

theorem IsBare.isPlainWord_bracketed (bare : IsBare identifier) :
    IsPlainWord (bracketed identifier) := by
  have opens : IsPlainWord ['<'] := by decide
  exact opens.append (bare.toIsPlainWord.append (by decide))

theorem unwrap_bracketed (identifier : Text) :
    unwrap '<' '>' (bracketed identifier) = identifier :=
  unwrap_append '<' '>' identifier

/-- The attempt records the identifier, perhaps in angle brackets and between blanks. -/
def Attempt.Carries (attempt : Attempt) (identifier : Text) : Prop :=
  ∃ before written after : Text, attempt.identifier = before ++ written ++ after ∧
    (written = identifier ∨ written = bracketed identifier) ∧
    (∀ c ∈ before, isBlank c = true) ∧ ∀ c ∈ after, isBlank c = true

/-- Stripping yields the identifier. -/
theorem IsBare.plainIdentifier_eq {written before after : Text} (bare : IsBare identifier)
    (leading : ∀ c ∈ before, isBlank c = true) (trailing : ∀ c ∈ after, isBlank c = true)
    (form : written = identifier ∨ written = bracketed identifier) :
    plainIdentifier (before ++ written ++ after) = identifier := by
  rcases form with rfl | rfl
  · rw [plainIdentifier, trim_append leading bare.toIsPlainWord trailing]
    exact unwrap_of_not_mem bare.unopened '>'
  · rw [plainIdentifier, trim_append leading bare.isPlainWord_bracketed trailing]
    exact unwrap_bracketed identifier

theorem IsBare.plainIdentifier_self (bare : IsBare identifier) :
    plainIdentifier identifier = identifier := by
  have plain := @IsBare.plainIdentifier_eq identifier identifier [] [] bare (by simp) (by simp)
    (.inl rfl)
  rwa [List.nil_append, List.append_nil] at plain

theorem IsBare.logIdentifier? {attempt : Attempt} (bare : IsBare identifier)
    (carries : attempt.Carries identifier) : attempt.logIdentifier? = some identifier := by
  obtain ⟨before, written, after, same, form, leading, trailing⟩ := carries
  have plain := bare.plainIdentifier_eq leading trailing form
  rw [Attempt.logIdentifier?, same, plain]
  exact if_neg bare.nonempty

/-! ## Arrivals -/

namespace Exim.Opening

variable (opening : Opening)

/-- **An arrival carries the identifier of its first `id` field**, whatever gaps there are between
its words. -/
theorem parse_arrival {text sender : Text} {fields : List Text}
    (gapped : Gapped (opening.words ++ opening.identifier :: ['<', '='] :: sender :: fields) text)
    (named : sender ≠ ['<', '>']) (foreign : ∀ field ∈ fields, ¬ "id=".toList <+: field)
    (bare : IsBare identifier) (ends : EndsWord rest) :
    let raw := text ++ ("id=".toList ++ identifier ++ rest)
    parse raw =
      { raw
        stamp := some (.exact opening.moment)
        transaction := some opening.identifier
        direction := .inboundAccept
        messageId := some identifier } := by
  intro raw
  obtain ⟨head, gap, behind, rfl, opened, isGap, told⟩ := gapped.exists_append_cons
  let word := "id=".toList ++ identifier
  have key : IsPlainWord "id=".toList := by decide
  have plain : IsPlainWord word := key.append bare.toIsPlainWord
  have whole : raw = head ++ (opening.identifier ++ (gap ++ (behind ++ (word ++ rest)))) := by
    simp only [raw, word, List.append_assoc]
  have trimmed : trimStart (trimEnd (gap ++ (behind ++ (word ++ rest)))) =
      trimStart (behind ++ (word ++ trimEnd rest)) := by
    rw [← List.append_assoc, ← List.append_assoc, trimEnd_append plain, List.append_assoc,
      List.append_assoc, trimStart_append_of_isBlank isGap.isBlank]
  have stays : (some identifier).filter (· ≠ []) = some identifier :=
    Option.filter_eq_some_iff.mpr ⟨rfl, decide_eq_true bare.nonempty⟩
  have entry := opening.isEntry_unwrapped opened (isGap.endsWord (behind ++ (word ++ rest)))
  rw [← whole, trimmed] at entry
  rw [parse_eq_event entry, event_identified _ told named foreign plain.isWord ends.trimEnd,
    unwrap_of_not_mem bare.unquoted, unwrap_of_not_mem bare.unopened, stays]

end Exim.Opening

namespace Postfix.Opening

variable (opening : Opening)

/-- **The cleanup daemon records the identifier of an accepted message**, whatever gaps there are
between the words in front of the record. -/
theorem parse_messageId {text : Text}
    (gapped : Gapped (opening.words ++ [opening.identifier ++ [':']]) text)
    (bare : IsBare identifier) (ends : EndsWord rest) :
    let raw := text ++ ("message-id=".toList ++ bracketed identifier ++ rest)
    parse raw =
      { raw
        stamp := some opening.stamp
        transaction := some opening.identifier
        direction := .inboundAccept
        messageId := some identifier } := by
  intro raw
  obtain ⟨head, gap, _, rfl, headed, isGap, nothing⟩ := gapped.exists_append_cons
  cases nothing
  let word := "message-id=".toList ++ bracketed identifier
  have key : IsPlainWord "message-id=".toList := by decide
  have plain : IsPlainWord word := key.append bare.isPlainWord_bracketed
  have whole : raw = head ++ (opening.identifier ++ [':'] ++ (gap ++ (word ++ rest))) := by
    simp only [raw, word, List.append_assoc, List.nil_append]
  have recorded : trimStart (trimEnd (gap ++ (word ++ rest))) =
      "message-id=".toList ++ (bracketed identifier ++ trimEnd rest) := by
    rw [← List.append_assoc, trimEnd_append plain, List.append_assoc,
      trimStart_append_of_isBlank isGap.isBlank,
      trimStart_of_visible (plain.isWord.startsVisible_append _), List.append_assoc]
  have carried : messageId? (bracketed identifier ++ trimEnd rest) = some identifier :=
    messageId?_bracketed bare.nonempty bare.isComplete ends.trimEnd
  have entry := opening.isEntry_gapped headed (isGap.endsWord (word ++ rest))
  rw [← whole] at entry
  rw [parse_of_isEntry entry, recorded, record_messageId, carried]
  rfl

end Postfix.Opening

end DeliveryTrace
