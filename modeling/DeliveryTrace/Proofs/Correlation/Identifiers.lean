import DeliveryTrace.History
import DeliveryTrace.Proofs.Correlation.Belonging
import Mathlib.Data.Finset.Max

/-! # The identifiers of a message and the acceptances that carry them

The seeds of a message are the transactions accepted with an identifier of the message, stripped of
blanks and brackets once more. An identifier that this changes has an acceptance that the search
misses; the main statement says that seeds and identifiers agree in every log exactly if no
identifier of the message changes.
-/

namespace DeliveryTrace

/-! ## Plain identifiers -/

theorem Text.dropTail_sublist (drop : Char → Bool) (text : Text) :
    (dropTail drop text).Sublist text := by
  unfold dropTail
  have kept := (List.dropWhile_sublist (l := text.reverse) drop).reverse
  rwa [List.reverse_reverse] at kept

theorem Text.trim_sublist (text : Text) : (trim text).Sublist text :=
  (dropTail_sublist isBlank (trimStart text)).trans (List.dropWhile_sublist isBlank)

theorem Text.unwrap_sublist (opening closing : Char) (text : Text) :
    (unwrap opening closing text).Sublist text := by
  unfold unwrap
  cases found : inside? opening closing text with
  | none => exact List.Sublist.refl text
  | some inner =>
      unfold inside? at found
      split at found
      · cases found
      · split at found
        · rw [withoutEnd?_eq_some_iff] at found
          subst found
          exact (List.sublist_append_left inner [closing]).cons _
        · cases found

/-- Stripping an identifier keeps it or shortens it. -/
theorem length_plainIdentifier_lt {identifier : Text}
    (changes : plainIdentifier identifier ≠ identifier) :
    (plainIdentifier identifier).length < identifier.length := by
  have kept : (plainIdentifier identifier).Sublist identifier :=
    (Text.unwrap_sublist '<' '>' _).trans (Text.trim_sublist identifier)
  exact Nat.lt_of_le_of_ne kept.length_le fun same => changes (kept.eq_of_length same)

namespace MailLog

/-! ## Seeds -/

variable {log : MailLog} {history : History} {message identifier transaction : Text}

theorem isSeed_attempts_iff :
    log.IsSeed (history.attempts message) transaction ↔
      ∃ identifier ∈ history.identifiers message,
        log.AcceptsWith (plainIdentifier identifier) transaction := by
  simp only [isSeed_iff, History.identifiers, List.mem_eraseDups]

/-- The seeds of a message are the transactions accepted with exactly one of its identifiers. -/
def SeedsAgree (log : MailLog) (history : History) (message : Text) : Prop :=
  ∀ transaction, transaction ∈ log.seeds (history.attempts message) ↔
    ∃ identifier ∈ history.identifiers message, log.AcceptsWith identifier transaction

/-- Identifiers that stripping leaves alone are looked up as they are. -/
theorem seedsAgree_of_plain
    (plain : ∀ identifier ∈ history.identifiers message, plainIdentifier identifier = identifier) :
    log.SeedsAgree history message := by
  intro transaction
  rw [mem_seeds, isSeed_attempts_iff]
  refine exists_congr fun identifier => and_congr_right fun member => ?_
  rw [plain identifier member]

/-- The log of one line, which accepts a transaction with an identifier. -/
def acceptance (identifier transaction : Text) : MailLog :=
  ofLines .eximLog
    [{ raw := [], transaction := some transaction, messageId := some identifier,
       direction := .inboundAccept }]

theorem acceptsWith_acceptance {other : Text} :
    (acceptance identifier transaction).AcceptsWith other transaction ↔ other = identifier := by
  simp [AcceptsWith, acceptance, ofLines, LogLine.Accepts, eq_comm]

/-- An identifier that stripping changes is one that stripping yields from a longer one, if seeds
and identifiers agree in the log of one acceptance with it. -/
theorem exists_longer (agree : ∀ log : MailLog, log.SeedsAgree history message)
    (member : identifier ∈ history.identifiers message)
    (changes : plainIdentifier identifier ≠ identifier) :
    ∃ longer ∈ history.identifiers message, plainIdentifier longer ≠ longer ∧
      identifier.length < longer.length := by
  have seed := (agree (acceptance identifier []) []).mpr
    ⟨identifier, member, acceptsWith_acceptance.mpr rfl⟩
  rw [mem_seeds, isSeed_attempts_iff] at seed
  obtain ⟨longer, known, accepted⟩ := seed
  have stripped := acceptsWith_acceptance.mp accepted
  have other : plainIdentifier longer ≠ longer := by
    intro plain
    rw [plain] at stripped
    exact changes (stripped ▸ plain)
  exact ⟨longer, known, other, stripped ▸ length_plainIdentifier_lt other⟩

/-- The longest of the identifiers that stripping changes has an acceptance that is missed. -/
theorem plain_of_seedsAgree (agree : ∀ log : MailLog, log.SeedsAgree history message) :
    ∀ identifier ∈ history.identifiers message, plainIdentifier identifier = identifier := by
  by_contra changing
  push Not at changing
  obtain ⟨identifier, member, changes⟩ := changing
  obtain ⟨longest, chosen, most⟩ := Finset.exists_max_image
    ((history.identifiers message).toFinset.filter fun other => plainIdentifier other ≠ other)
    List.length ⟨identifier, by simpa using ⟨member, changes⟩⟩
  simp only [Finset.mem_filter, List.mem_toFinset] at chosen most
  -- The longest one stems from a still longer identifier, which stripping changes as well.
  obtain ⟨longer, known, other, above⟩ := exists_longer agree chosen.1 chosen.2
  exact absurd (most longer ⟨known, other⟩) (Nat.not_le.mpr above)

/-- **Seeds are looked up by identifiers stripped twice.** The seeds of a message are the
transactions accepted with one of its identifiers, stripped once more. They are the transactions
accepted with exactly one of its identifiers, in every log, if and only if stripping leaves all
identifiers of the message alone; and an acceptance with such an identifier is correlated. -/
theorem seedsAgree_iff_plain (history : History) (message : Text) :
    (∀ (log : MailLog) (transaction : Text), transaction ∈ log.seeds (history.attempts message) ↔
      ∃ identifier ∈ history.identifiers message,
        log.AcceptsWith (plainIdentifier identifier) transaction) ∧
    ((∀ log : MailLog, log.SeedsAgree history message) ↔
      ∀ identifier ∈ history.identifiers message, plainIdentifier identifier = identifier) ∧
    ∀ (format : LogFormat) (window : Window) (limit : Nat),
      ∀ identifier ∈ history.identifiers message, plainIdentifier identifier = identifier →
        ∀ line ∈ (ofWindow format window).lines, line.direction = .inboundAccept →
          line.messageId = some identifier →
            line ∈ (ofWindow format window).correlate limit (history.attempts message) := by
  refine ⟨fun log transaction => mem_seeds.trans isSeed_attempts_iff,
    ⟨plain_of_seedsAgree, fun plain log => seedsAgree_of_plain plain⟩, ?_⟩
  intro format window limit identifier named plain line member accepting carried
  have read := isRead_ofWindow format window
  obtain ⟨transaction, owned⟩ := read.exists_transaction member (by simp [accepting])
  refine (mem_correlate read).mpr ⟨member, .inl ⟨transaction, owned, 0, Nat.zero_le limit, ?_⟩⟩
  refine .seed (isSeed_attempts_iff.mpr ⟨identifier, named, line, member, ⟨accepting, owned⟩, ?_⟩)
  rw [plain, carried]

set_option maxRecDepth 100000 in
/-- The identifier in two pairs of brackets is reported with one pair, and so the log carries it;
but the acceptance is no seed. -/
theorem not_seedsAgree_nested_brackets :
    let history := History.recordSent .empty "m".toList "<<first@localhost>>".toList ⟨0, 0⟩
    let log := ofWindow .eximLog (.ofLines
      ["2017-01-02 10:00:00 1cNiyF-00040R-Kc <= r@localhost id=<<first@localhost>>".toList])
    history.identifiers "m".toList = ["<first@localhost>".toList] ∧
      log.AcceptsWith "<first@localhost>".toList "1cNiyF-00040R-Kc".toList ∧
      log.correlate 5 (history.attempts "m".toList) = [] ∧
      ¬ log.SeedsAgree history "m".toList := by
  intro history log
  have named : history.identifiers "m".toList = ["<first@localhost>".toList] := by decide +kernel
  have accepted : log.AcceptsWith "<first@localhost>".toList "1cNiyF-00040R-Kc".toList := by
    refine ⟨_, List.mem_singleton_self _, ⟨?_, ?_⟩, ?_⟩ <;> decide +kernel
  have unseeded : log.seeds (history.attempts "m".toList) = [] := by decide +kernel
  refine ⟨named, accepted, by decide +kernel, fun agree => ?_⟩
  have seed := (agree _).mpr ⟨_, named ▸ List.mem_singleton_self _, accepted⟩
  rw [unseeded] at seed
  cases seed

end MailLog

end DeliveryTrace
