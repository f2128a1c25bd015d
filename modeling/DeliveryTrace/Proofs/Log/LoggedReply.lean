import DeliveryTrace.Proofs.Log.QuotedField
import DeliveryTrace.Proofs.Log.Reply

/-! # The reply that a delivery quotes

Exim logs the reply of the next server in the `C` field of a delivery. The main statement says what
is read from it: the code of the reply, and its identifier unless a word with a quote stands in
front of the first `id=` word. A recipient that starts with `C=` counts instead of the field.
-/

namespace DeliveryTrace.Exim

open Text

variable {raw front behind flag recipient reply transaction : Text} {fields : List Text}
  {moment : Moment}

/-- The first word that starts with `C=` gives the reply: the recipient or, if no field stands in
between, the field that quotes the reply. -/
theorem field?_reply (gapped : Gapped (recipient :: fields) front)
    (first : ∀ field ∈ fields, ¬ "C=".toList <+: field) (ends : EndsWord behind) :
    field? ['C'] (front ++ (quotedField ['C'] reply ++ behind)) =
      some (((behind? "C=".toList recipient).map (unwrap '"' '"')).getD (escaped reply)) := by
  have isKey : IsKey ['C'] := isKey_of_isAsciiAlnum (List.all_eq_true.mp rfl)
  have mark : ['C'] ++ ['='] = "C=".toList := rfl
  have split : words (front ++ (quotedField ['C'] reply ++ behind)) =
      recipient :: (fields ++ quotedField ['C'] reply :: words behind) := by
    rw [words_gapped gapped, words_append (isKey.isWord_quotedField reply),
      scanWord_of_endsWord ends, List.append_nil, List.cons_append]
  have missed : fields.findSome? (behind? "C=".toList) = none := by
    rw [List.findSome?_eq_none_iff]
    exact fun field member => behind?_eq_none_iff.mpr (first field member)
  have quotes : behind? "C=".toList (quotedField ['C'] reply) = some (inQuotes reply) :=
    behind?_append "C=".toList (inQuotes reply)
  rw [field?, mark, split, List.findSome?_cons]
  cases behind? "C=".toList recipient with
  | some value => rfl
  | none =>
      simp only
      rw [List.findSome?_append, missed, List.findSome?_cons, quotes, Option.none_or,
        Option.map_some, unwrap_inQuotes]
      rfl

/-- **What a delivery tells of the reply that it quotes.** It is a relay with the code of the reply.
It points at the identifier of the reply unless quotes come first. -/
theorem parse_loggedReply
    (entry : IsEntry raw moment transaction (front ++ (quotedField ['C'] reply ++ behind)))
    (delivers : flag ∈ deliveryFlags) (gapped : Gapped (flag :: recipient :: fields) front)
    (first : ∀ field ∈ fields, ¬ "C=".toList <+: field) (ends : EndsWord behind) :
    (parse raw).direction = .outboundRelay ∧
      (¬ "C=".toList <+: recipient →
        (parse raw).replyCode = Reply.code? reply ∧
          (¬ Reply.QuotesBeforeId reply → (parse raw).related = Reply.queueId? reply) ∧
          (Reply.QuotesBeforeId reply → (parse raw).related = Reply.queuedAs? reply)) ∧
      ∀ value, recipient = "C=".toList ++ value →
        (parse raw).replyCode = Reply.code? (unwrap '"' '"' value) ∧
          (parse raw).related = Reply.queueId? (unwrap '"' '"' value) := by
  obtain ⟨tail, others, delivered⟩ := event_delivery
    { raw, stamp := some (.exact moment), transaction := some transaction } delivers gapped
  rw [parse_eq_event entry, delivered, delivery, field?_trimStart,
    field?_reply others first ends]
  refine ⟨rfl, fun other => ?_, fun value same => ?_⟩
  · rw [behind?_eq_none_iff.mpr other]
    obtain ⟨unhidden, hidden⟩ := Reply.queueId?_escaped reply
    exact ⟨Reply.code?_escaped reply, unhidden, hidden⟩
  · rw [same, behind?_append]
    exact ⟨rfl, rfl⟩

/-- A reply with a backslash in it is told as it is. -/
theorem parse_loggedReply_backslash :
    let reply := "250 OK id=1cNiyG-00040U-Ls by mx\\\\a".toList
    let front := "=> foi@example.com R=x T=remote_smtp ".toList
    let raw := "2017-01-01 16:26:57 1cNiyG-0001hR-8R ".toList ++
      (front ++ (quotedField ['C'] reply ++ " QT=1s".toList))
    (parse raw).direction = .outboundRelay ∧ (parse raw).replyCode = some 250 ∧
      (parse raw).related = some "1cNiyG-00040U-Ls".toList := by
  intro reply front raw
  have entry : IsEntry raw ⟨⟨2017, 1, 1, by decide⟩, ⟨16, 26, 57, 0, by decide⟩⟩
      "1cNiyG-0001hR-8R".toList (front ++ (quotedField ['C'] reply ++ " QT=1s".toList)) := by
    decide +kernel
  have gapped : Gapped ["=>".toList, "foi@example.com".toList, "R=x".toList,
      "T=remote_smtp".toList] front :=
    gapped_of_isPlainWord (by decide)
  have unquoted : ∀ word ∈ words reply, '"' ∉ word := by decide +kernel
  have early : ¬ Reply.QuotesBeforeId reply := by
    rintro ⟨before, named, after, split, _, word, member, quote⟩
    rw [split] at unquoted
    exact unquoted word (List.mem_append_left _ member) quote
  have coded : Reply.code? reply = some 250 := by decide
  have named : Reply.queueId? reply = some "1cNiyG-00040U-Ls".toList := by decide +kernel
  obtain ⟨relay, told, _⟩ :=
    parse_loggedReply entry (by decide) gapped (by decide) (endsWord_cons _)
  obtain ⟨code, pointed, _⟩ := told (by decide)
  exact ⟨relay, code.trans coded, (pointed early).trans named⟩

/-- A word with a quote in front of the `id=` word loses the identifier. -/
theorem related_parse_quotes :
    let reply := "250 \"OK\" id=1cNiyG-00040U-Ls".toList
    let front := "=> foi@example.com R=x T=remote_smtp ".toList
    let raw := "2017-01-01 16:26:57 1cNiyG-0001hR-8R ".toList ++
      (front ++ quotedField ['C'] reply)
    (∃ moment, IsEntry raw moment "1cNiyG-0001hR-8R".toList (front ++ quotedField ['C'] reply)) ∧
      Gapped ["=>".toList, "foi@example.com".toList, "R=x".toList, "T=remote_smtp".toList] front ∧
      Reply.queueId? reply = some "1cNiyG-00040U-Ls".toList ∧
      (parse raw).direction = .outboundRelay ∧ (parse raw).replyCode = some 250 ∧
      (parse raw).related = none := by
  intro reply front raw
  have entry : IsEntry raw ⟨⟨2017, 1, 1, by decide⟩, ⟨16, 26, 57, 0, by decide⟩⟩
      "1cNiyG-0001hR-8R".toList (front ++ quotedField ['C'] reply) := by decide +kernel
  have gapped : Gapped ["=>".toList, "foi@example.com".toList, "R=x".toList,
      "T=remote_smtp".toList] front :=
    gapped_of_isPlainWord (by decide)
  refine ⟨⟨_, entry⟩, gapped, by decide +kernel, ?_⟩
  decide +kernel

end DeliveryTrace.Exim
