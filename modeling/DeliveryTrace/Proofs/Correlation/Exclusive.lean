import DeliveryTrace.Proofs.Correlation.Growth
import DeliveryTrace.Proofs.Text.Cut

/-! # No line belongs to both grammars

Both grammars read syslog headers, and the program of the header decides whose line it is: an Exim
program and the service of a Postfix daemon differ in their first letter. The main statement says
that at most one grammar finds a transaction in a text, so that nothing is correlated in a log that
is read in the wrong format.
-/

namespace DeliveryTrace

namespace Exim

variable {program daemon : Text}

/-- The program of a Postfix daemon is none of Exim's. -/
theorem startsWith_exim_of_daemon? (tagged : Postfix.daemon? program = some daemon) :
    Text.startsWith "exim".toList program = false := by
  simp only [Postfix.daemon?, Option.bind_eq_bind, Option.bind_eq_some_iff] at tagged
  obtain ⟨⟨service, _⟩, cut, served⟩ := tagged
  have leads : Text.startsWith "postfix".toList service = true := by
    by_contra other
    rw [if_neg other] at served
    cases served
  obtain ⟨rest, behind⟩ := Option.isSome_iff_exists.mp leads
  rw [Text.append_of_cutLast? cut, Text.behind?_eq_some_iff.mp behind]
  rfl

/-- A header of a Postfix daemon rules a line out. -/
theorem parse_of_isEntry {raw transaction text : Text} {header : Header}
    (entry : Postfix.IsEntry raw header daemon transaction text) :
    parse raw = .unrecognised raw := by
  have foreign := startsWith_exim_of_daemon? entry.tagged
  have closed : body? (Text.trimEnd raw) = none := by
    simp only [body?, entry.headed, foreign, Bool.false_eq_true, if_false]
  rw [parse, closed, Option.bind_none]

end Exim

/-- At most one grammar finds a transaction in a text. -/
theorem LogLine.transaction_eq_none_or (raw : Text) :
    (ofText .eximLog raw).transaction = none ∨ (ofText .postfixLog raw).transaction = none := by
  rcases Postfix.isEntry_or_unrecognised raw with ⟨_, _, _, _, entry⟩ | bare
  · left
    rw [ofText, Exim.parse_of_isEntry entry]
    rfl
  · right
    rw [ofText, bare]
    rfl

theorem LogLine.transaction_eq_none_of_ne {own other : LogFormat} {raw : Text}
    (different : own ≠ other) (owned : (ofText own raw).transaction ≠ none) :
    (ofText other raw).transaction = none := by
  have either := transaction_eq_none_or raw
  cases own <;> cases other
  · exact absurd rfl different
  · exact either.resolve_left owned
  · exact either.resolve_right owned
  · exact absurd rfl different

namespace MailLog

variable {log : MailLog} {limit : Nat} {attempts : List Attempt}

/-- A line without a transaction belongs to no message. -/
theorem IsRead.correlate_eq_nil (read : log.IsRead)
    (bare : ∀ line ∈ log.lines, line.transaction = none) : log.correlate limit attempts = [] := by
  rw [List.eq_nil_iff_forall_not_mem]
  intro line member
  obtain ⟨logged, belongs⟩ := (mem_correlate read).mp member
  have unowned := bare line logged
  rcases belongs with ⟨transaction, owned, _⟩ | ⟨_, _, notice, _⟩
  · cases unowned.symm.trans owned
  · obtain ⟨transaction, owned⟩ := read.exists_transaction logged (by simp [notice.1])
    cases unowned.symm.trans owned

/-- **No line belongs to both grammars.** Of every text at most one grammar finds the transaction.
So if each line of a window has a transaction in one format, then nothing in the window is
correlated in the other format, and the report on it is empty. -/
theorem exclusive_grammars :
    (∀ raw : Text, (LogLine.ofText .eximLog raw).transaction = none ∨
      (LogLine.ofText .postfixLog raw).transaction = none) ∧
    ∀ (own other : LogFormat) (window : Window), own ≠ other →
      (∀ raw ∈ window.lines, (LogLine.ofText own raw).transaction ≠ none) →
      ∀ (limit : Nat) (attempts : List Attempt),
        (ofWindow other window).correlate limit attempts = [] ∧
        ((ofWindow other window).assess limit attempts).lines = [] ∧
        ((ofWindow other window).assess limit attempts).transactions = [] ∧
        ((ofWindow other window).assess limit attempts).status = .unknown := by
  refine ⟨LogLine.transaction_eq_none_or, ?_⟩
  intro own other window different owned limit attempts
  have bare : ∀ line ∈ (ofWindow other window).lines, line.transaction = none := by
    intro line member
    obtain ⟨raw, logged, rfl⟩ := List.mem_map.mp member
    exact LogLine.transaction_eq_none_of_ne different (owned raw logged)
  have nothing : (ofWindow other window).correlate limit attempts = [] :=
    (isRead_ofWindow other window).correlate_eq_nil bare
  refine ⟨nothing, nothing, ?_, ?_⟩
  · exact congrArg transactionIds nothing
  · exact congrArg Status.ofLines nothing

set_option maxRecDepth 100000 in
/-- The delivery of a message by Exim is nothing to Postfix. -/
theorem exclusive_grammars_delivery :
    let window := Window.ofLines deliveryLines
    (∀ raw ∈ window.lines, (LogLine.ofText .eximLog raw).transaction ≠ none) ∧
      (ofWindow .eximLog window).correlate 8 [deliveredAttempt] ≠ [] ∧
      (ofWindow .postfixLog window).correlate 8 [deliveredAttempt] = [] ∧
      ((ofWindow .postfixLog window).assess 8 [deliveredAttempt]).status = .unknown := by
  intro window
  have owned : ∀ raw ∈ window.lines, (LogLine.ofText .eximLog raw).transaction ≠ none := by
    decide +kernel
  obtain ⟨nothing, _, _, unknown⟩ :=
    exclusive_grammars.2 .eximLog .postfixLog window (by decide) owned 8 [deliveredAttempt]
  exact ⟨owned, by decide +kernel, nothing, unknown⟩

end MailLog

end DeliveryTrace
