import DeliveryTrace.Proofs.Log.Reply
import DeliveryTrace.Proofs.Log.Selectors

/-! # SMTP errors of an Exim log

Exim logs the error of a remote server behind the recipient, the host and the address of the server,
and the code of the error is the first one behind a colon and a blank. The main statement says that
this is the code of the server itself, whatever recipient, host, address and error text look like.
-/

namespace DeliveryTrace

open Text

variable {word rest : Text}

/-! ## Colons and blanks -/

theorem Text.afters_append {m : Char} {mark front : Text} (absent : m ∉ front) (rest : Text) :
    afters (m :: mark) (front ++ rest) = afters (m :: mark) rest := by
  induction front with
  | nil => rfl
  | cons c front ih =>
      rw [List.mem_cons, not_or] at absent
      rw [List.cons_append, afters, behind?, if_neg absent.1]
      exact ih absent.2

/-- A word that is written in front of a blank may have the mark at its end only. -/
theorem Text.afters_word {m b : Char} (other : m ≠ b) (unbroken : b ∉ word) (rest : Text) :
    afters [m, b] (word ++ b :: rest) =
      (if word.getLast? = some m then [rest] else []) ++ afters [m, b] rest := by
  induction word with
  | nil =>
      rw [List.nil_append, afters, behind?, if_neg other]
      rfl
  | cons c word ih =>
      rw [List.mem_cons, not_or] at unbroken
      have later := ih unbroken.2
      rw [List.cons_append, afters, behind?]
      cases word with
      | nil =>
          rw [later, List.nil_append, behind?, if_pos rfl, List.getLast?_singleton]
          by_cases marked : m = c
          · rw [if_pos marked, if_pos (congrArg some marked.symm)]
            rfl
          · have unmarked : some c ≠ some m := fun same => marked (Option.some.inj same).symm
            rw [if_neg marked, if_neg unmarked]
            rfl
      | cons d word =>
          have within : b ≠ d := fun same => unbroken.2 (same ▸ List.mem_cons_self)
          rw [later, List.cons_append, behind?, if_neg within, ite_self, List.getLast?_cons_cons]

/-! ## Codes -/

namespace Reply

theorem code?_decimal {code : Nat} (least : 200 ≤ code) (most : code ≤ 599)
    (ends : endsCode rest = true) : code? (decimal code ++ rest) = some code := by
  have isNumeral : IsNumeral 3 (decimal code) := isNumeral_decimal (by omega) (by omega)
  have value := ofDigits_decimal code
  have visible := isNumeral.isPlainWord.isWord.startsVisible_append rest
  have digits := List.all_eq_true.mp isNumeral.numeral
  obtain ⟨a, b, c, written⟩ := List.length_eq_three.mp isNumeral.length_eq
  rw [written] at value digits visible
  simp only [List.forall_mem_cons] at digits
  obtain ⟨first, second, third, _⟩ := digits
  have leading : '2' ≤ a ∧ a ≤ '5' := by
    have hundreds := toNat_of_isDigit first
    have tens := toNat_of_isDigit second
    have ones := toNat_of_isDigit third
    rw [ofDigits_three] at value
    change 50 ≤ a.toNat ∧ a.toNat ≤ 53
    omega
  rw [code?_eq_some_iff, written]
  exact ⟨a, b, c, rest, trimStart_of_visible visible,
    ⟨leading.1, leading.2, second, third, ends⟩, value⟩

theorem code?_cons_eq_none {c : Char} (shown : isBlank c = false) (other : ¬ ('2' ≤ c ∧ c ≤ '5'))
    (text : Text) : code? (c :: text) = none := by
  rw [Option.eq_none_iff_forall_ne_some]
  intro code found
  obtain ⟨a, _, _, _, start, ⟨least, most, _⟩, _⟩ := code?_eq_some_iff.mp found
  rw [trimStart_of_visible (startsVisible_cons shown text)] at start
  cases start
  exact other ⟨least, most⟩

theorem endsCode_trimEnd (ends : endsCode rest = true) : endsCode (trimEnd rest) = true := by
  obtain ⟨dropped, same⟩ := trimEnd_prefix rest
  cases kept : trimEnd rest with
  | nil => rfl
  | cons c tail =>
      rw [kept] at same
      rw [← same] at ends
      exact ends

end Reply

/-! ## Errors -/

namespace Exim

/-- What is logged in front of the code of an error. -/
def errorText (address host ip : Text) : Text :=
  "SMTP error from remote mail server after RCPT TO:<".toList ++ address ++ ">: host ".toList ++
    host ++ " [".toList ++ ip ++ "]: ".toList

/-- The word of the recipient. -/
def recipientWord (address : Text) : Text := "TO:<".toList ++ (address ++ ['>']) ++ [':']

/-- The word of the address of the server. -/
def serverWord (ip : Text) : Text := '[' :: (ip ++ [']']) ++ [':']

variable {address host ip : Text} {code : Nat}

theorem errorText_append (address host ip rest : Text) :
    errorText address host ip ++ rest =
      "SMTP error from remote mail server after RCPT ".toList ++ (recipientWord address ++ ' ' ::
        ("host ".toList ++ (host ++ ' ' :: (serverWord ip ++ ' ' :: rest)))) := by
  have first : "SMTP error from remote mail server after RCPT TO:<".toList =
      "SMTP error from remote mail server after RCPT ".toList ++ "TO:<".toList := rfl
  have second : ">: host ".toList = ['>', ':'] ++ ' ' :: "host ".toList := rfl
  unfold errorText recipientWord serverWord
  rw [first, second]
  simp only [List.append_assoc, List.cons_append, List.nil_append]
  rfl

/-- Behind a colon and a blank stand the host, its address if the name of the host ends in a colon,
and the code. -/
theorem afters_errorText (inAddress : ' ' ∉ address) (inHost : ' ' ∉ host) (inIp : ' ' ∉ ip)
    (rest : Text) :
    afters [':', ' '] (errorText address host ip ++ rest) =
      ("host ".toList ++ (host ++ ' ' :: (serverWord ip ++ ' ' :: rest))) ::
        ((if host.getLast? = some ':' then [serverWord ip ++ ' ' :: rest] else []) ++
          rest :: afters [':', ' '] rest) := by
  have colon : ':' ≠ ' ' := by decide
  have inRecipient : ' ' ∉ recipientWord address := by simp [recipientWord, inAddress]
  have inServer : ' ' ∉ serverWord ip := by simp [serverWord, inIp]
  have recipientEnds : (recipientWord address).getLast? = some ':' := List.getLast?_concat
  have serverEnds : (serverWord ip).getLast? = some ':' := List.getLast?_concat
  rw [errorText_append, afters_append (by decide), afters_word colon inRecipient,
    afters_append (by decide), afters_word colon inHost, afters_word colon inServer,
    if_pos recipientEnds, if_pos serverEnds]
  rfl

/-- **The first code is that of the server.** Neither a host nor the bracket of an address reads as
a code. -/
theorem findSome?_code?_errorText (spaceless : ∀ word ∈ [address, host, ip], ' ' ∉ word)
    (coded : Reply.code? rest = some code) :
    (afters [':', ' '] (errorText address host ip ++ rest)).findSome? Reply.code? = some code := by
  simp only [List.forall_mem_cons] at spaceless
  obtain ⟨inAddress, inHost, inIp, _⟩ := spaceless
  have atHost (text : Text) : Reply.code? ("host ".toList ++ text) = none :=
    Reply.code?_cons_eq_none rfl (by decide) _
  have atServer (text : Text) : Reply.code? (serverWord ip ++ text) = none :=
    Reply.code?_cons_eq_none rfl (by decide) _
  rw [afters_errorText inAddress inHost inIp, List.findSome?_cons, atHost]
  dsimp only
  split
  · rw [List.singleton_append, List.findSome?_cons, atServer, List.findSome?_cons, coded]
  · rw [List.nil_append, List.findSome?_cons, coded]

theorem errorDirection_some (most : code ≤ 599) :
    errorDirection (some code) =
      if code < 400 then .unparseable else if code < 500 then .deferred else .bouncedNotify := by
  dsimp only [errorDirection]
  by_cases early : code < 400
  · rw [if_pos early, if_neg (by omega), if_neg (by omega)]
  · by_cases late : code < 500
    · rw [if_neg early, if_pos late, if_pos (by omega)]
    · rw [if_neg early, if_neg late, if_neg (by omega), if_pos (by omega)]

theorem startsWith_errorText (address host ip rest : Text) :
    "SMTP error from remote mail server".toList <+: errorText address host ip ++ rest := by
  have whole : "SMTP error from remote mail server after RCPT ".toList =
      "SMTP error from remote mail server".toList ++ " after RCPT ".toList := rfl
  rw [errorText_append, whole, List.append_assoc]
  exact List.prefix_append _ _

/-- An SMTP error is classified by its first code. -/
theorem event_error (line : LogLine) {text : Text}
    (fails : "SMTP error from remote mail server".toList <+: text) :
    event line text =
      let code := (afters [':', ' '] text).findSome? Reply.code?
      { line with direction := errorDirection code, replyCode := code } := by
  have isError := startsWith_iff.mpr fails
  obtain ⟨rest, rfl⟩ := fails
  have plain : IsPlainWord "SMTP".toList := by decide
  have first : splitWord? ("SMTP error from remote mail server".toList ++ rest) =
      some ("SMTP".toList, _) :=
    splitWord?_append plain.isWord (endsWord_cons ("error from remote mail server".toList ++ rest))
  have flagless : Event.ofFlag? "SMTP".toList = none := rfl
  have goesOn : startsWith "Completed".toList
      ("SMTP error from remote mail server".toList ++ rest) = false := rfl
  simp only [event, first, flagless]
  rw [unflagged, goesOn, isError]
  rfl

/-- **An SMTP error is classified by the code of the remote server**, behind any opening of a line,
whatever the recipient, the host, its address and the text behind the code look like. -/
theorem parse_smtpError (opening : Opening) {lead wrapper : Text} (isWrapper : IsWrapper wrapper)
    (leading : ∀ c ∈ lead, isBlank c = true) (spaceless : ∀ word ∈ [address, host, ip], ' ' ∉ word)
    (least : 200 ≤ code) (most : code ≤ 599) {separator : Char}
    (separates : separator = ' ' ∨ separator = '-') (text : Text) :
    let raw := lead ++ (wrapper ++ (opening.text ++ ' ' ::
      (errorText address host ip ++ decimal code ++ separator :: text)))
    parse raw =
      { raw
        stamp := some (.exact opening.moment)
        transaction := some opening.identifier
        replyCode := some code
        direction :=
          if code < 400 then .unparseable
          else if code < 500 then .deferred
          else .bouncedNotify } := by
  intro raw
  let rest := trimEnd (separator :: text)
  have entry : IsEntry raw opening.moment opening.identifier
      (errorText address host ip ++ (decimal code ++ rest)) := by
    have plain := isPlainWord_decimal code
    have trimmed : trimEnd (' ' :: (errorText address host ip ++ decimal code ++
        separator :: text)) = ' ' :: (errorText address host ip ++ (decimal code ++ rest)) := by
      have kept := trimEnd_append plain (' ' :: errorText address host ip) (separator :: text)
      simpa only [List.append_assoc, List.cons_append, List.nil_append] using kept
    have visible : StartsVisible (errorText address host ip ++ (decimal code ++ rest)) := by
      obtain ⟨later, same⟩ := startsWith_errorText address host ip (decimal code ++ rest)
      rw [← same]
      exact startsVisible_cons rfl _
    have whole := opening.isEntry_wrapped isWrapper leading
      (endsWord_cons (errorText address host ip ++ decimal code ++ separator :: text))
    rwa [trimmed, trimStart_space, trimStart_of_visible visible] at whole
  have ends : Reply.endsCode rest = true := by
    apply Reply.endsCode_trimEnd
    rcases separates with rfl | rfl <;> rfl
  have coded := findSome?_code?_errorText spaceless (Reply.code?_decimal least most ends)
  rw [parse_eq_event entry, event_error _ (startsWith_errorText address host ip _), coded]
  dsimp only
  rw [errorDirection_some most]

/-- A recipient, a host, an address and a text with codes of their own do not count. -/
theorem parse_smtpError_codes :
    let address := "421:@250.example".toList
    let host := "554:".toList
    let ip := "::ffff:200".toList
    let wrapper := "Jan  3 10:00:01 relay exim4[7706]: ".toList
    let raw := "\t".toList ++ (wrapper ++ (selectedOpening.text ++ ' ' ::
      (errorText address host ip ++ decimal 452 ++ '-' :: "4.2.2: 550 full ".toList)))
    IsWrapper wrapper ∧ (∀ word ∈ [address, host, ip], ' ' ∉ word) ∧
      (parse raw).direction = .deferred ∧ (parse raw).replyCode = some 452 := by
  intro address host ip wrapper raw
  have isWrapper : IsWrapper wrapper := .syslog gapped_wrapperHeading ⟨"4".toList, rfl⟩
  have spaceless : ∀ word ∈ [address, host, ip], ' ' ∉ word := by decide
  have told : parse raw = _ := parse_smtpError selectedOpening isWrapper
    (List.forall_mem_singleton.mpr rfl) spaceless (by decide) (by decide) (.inr rfl)
    "4.2.2: 550 full ".toList
  rw [told]
  exact ⟨isWrapper, spaceless, rfl, rfl⟩

end Exim

end DeliveryTrace
