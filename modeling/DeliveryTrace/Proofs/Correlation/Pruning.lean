import DeliveryTrace.Proofs.Correlation.Growth

/-! # Leaving out unrelated lines

Whatever the search for a message relies on belongs to the message: the acceptances that name the
seeds, the relays that it follows and the acceptances of their targets. So lines that do not belong
to the message can be left out of a log, all of them or some. The main statement says that this
changes neither the correlated lines nor the report.
-/

namespace DeliveryTrace

namespace MailLog

/-- The pruned log has lines of the other one only, among them all lines of the message. -/
structure Prunes (pruned log : MailLog) (limit : Nat) (attempts : List Attempt) : Prop where
  format_eq : pruned.format = log.format
  inside : pruned.lines ⊆ log.lines
  keeps : ∀ line ∈ log.lines, log.Belongs limit attempts line → line ∈ pruned.lines

variable {pruned log : MailLog} {limit length : Nat} {attempts : List Attempt}
  {transaction : Text} {line : LogLine}

theorem Prunes.keeps_of_chain (prunes : pruned.Prunes log limit attempts)
    (chain : log.ChainTo attempts length transaction) (within : length ≤ limit)
    (member : line ∈ log.lines) (owned : line.transaction = some transaction) :
    line ∈ pruned.lines :=
  prunes.keeps line member (.inl ⟨transaction, owned, length, within, chain⟩)

/-- A chain within the limit lives on lines of the message. -/
theorem Prunes.chainTo (prunes : pruned.Prunes log limit attempts)
    (chain : log.ChainTo attempts length transaction) (within : length ≤ limit) :
    pruned.ChainTo attempts length transaction := by
  induction chain with
  | seed named =>
      have start := ChainTo.seed named
      obtain ⟨identifier, known, line, logged, accepts, carried⟩ := isSeed_iff.mp named
      have kept := prunes.keeps_of_chain start within logged accepts.2
      exact .seed (isSeed_iff.mpr ⟨identifier, known, line, kept, accepts, carried⟩)
  | @handoff length source target chain hands ih =>
      have next := chain.handoff hands
      obtain ⟨⟨relay, logged, relays⟩, other, acceptance, member, accepts⟩ := hands
      have relayed := prunes.keeps_of_chain chain (by omega) logged relays.2.1
      -- The acceptance of the target belongs to the message since the chain goes on to it.
      have accepted := prunes.keeps_of_chain next within member accepts.2
      exact .handoff (ih (by omega)) ⟨⟨relay, relayed, relays⟩, other, acceptance, accepted, accepts⟩

theorem Prunes.reached_iff (prunes : pruned.Prunes log limit attempts) :
    pruned.Reached limit attempts transaction ↔ log.Reached limit attempts transaction := by
  constructor
  · intro reached
    exact reached.mono prunes.inside
  · intro reached
    obtain ⟨length, within, chain⟩ := reached
    exact ⟨length, within, prunes.chainTo chain within⟩

theorem Prunes.belongs_iff (prunes : pruned.Prunes log limit attempts) :
    pruned.Belongs limit attempts line ↔ log.Belongs limit attempts line := by
  simp only [Belongs, prunes.reached_iff, prunes.format_eq]

end MailLog

open MailLog

variable {pruned window : Window} {place : Nat → Nat} {format : LogFormat} {limit : Nat}
  {attempts : List Attempt}

namespace Window.StandsIn

/-! ## Pruned windows -/

section Covering

variable (stands : pruned.StandsIn window place)
  (covers : ∀ position ∈ (ofWindow format window).matchedPositions limit attempts,
    ∃ kept < pruned.lines.length, place kept = position)
include stands covers

theorem prunes : (ofWindow format pruned).Prunes (ofWindow format window) limit attempts where
  format_eq := rfl
  inside := stands.subset_lines format
  keeps line member belongs := by
    obtain ⟨position, logged⟩ := List.mem_iff_getElem?.mp member
    have matched := (MailLog.mem_matchedPositions (isRead_ofWindow format window)).mpr
      ⟨line, logged, belongs⟩
    obtain ⟨kept, within, rfl⟩ := covers position matched
    rw [stands.getElem?_lines format within] at logged
    exact List.mem_of_getElem? logged

/-- The pruned window lists the same lines. -/
theorem map_positions_eq :
    ((ofWindow format pruned).positions limit attempts).map place =
      (ofWindow format window).positions limit attempts := by
  refine stands.pairwise_map_positions.eq_of_mem_iff (positions_pairwise _ limit attempts) ?_
  intro position
  constructor
  · intro listed
    obtain ⟨kept, matched, rfl⟩ := List.mem_map.mp listed
    exact stands.mem_positions matched
  · intro listed
    have matched := (mem_positions_iff_mem_matchedPositions (isRead_ofWindow format _)).mp listed
    obtain ⟨kept, within, rfl⟩ := covers position matched
    obtain ⟨line, logged, belongs⟩ :=
      (MailLog.mem_positions (isRead_ofWindow format window)).mp listed
    rw [stands.getElem?_lines format within] at logged
    refine List.mem_map_of_mem ((MailLog.mem_positions (isRead_ofWindow format pruned)).mpr ?_)
    exact ⟨line, logged, (stands.prunes covers).belongs_iff.mpr belongs⟩

theorem correlate_eq :
    (ofWindow format pruned).correlate limit attempts =
      (ofWindow format window).correlate limit attempts := by
  apply List.map_injective_iff.mpr (Option.some_injective LogLine)
  rw [stands.map_some_correlate, stands.map_positions_eq covers, ← MailLog.map_some_correlate]

end Covering

end Window.StandsIn

/-! ## The matched lines alone -/

/-- The window of the raw texts of the matched lines. -/
def Window.ofMatched (format : LogFormat) (window : Window) (limit : Nat)
    (attempts : List Attempt) : Window :=
  .ofLines (((ofWindow format window).correlate limit attempts).map LogLine.raw)

theorem length_positions (format : LogFormat) (window : Window) (limit : Nat)
    (attempts : List Attempt) :
    ((ofWindow format window).positions limit attempts).length =
      (window.ofMatched format limit attempts).lines.length := by
  simp [Window.ofMatched, Window.ofLines, length_correlate]

/-- Each matched line stands at its own position. -/
theorem Window.standsIn_ofMatched (format : LogFormat) (window : Window) (limit : Nat)
    (attempts : List Attempt) :
    (window.ofMatched format limit attempts).StandsIn window fun rank =>
      ((ofWindow format window).positions limit attempts)[rank]?.getD 0 where
  ordered earlier later before within := by
    rw [← length_positions] at within
    have rising := positions_pairwise (ofWindow format window) limit attempts
    rw [List.pairwise_iff_getElem] at rising
    have first := rising earlier later (by omega) within before
    simpa [List.getElem?_eq_getElem within,
      List.getElem?_eq_getElem (Nat.lt_trans before within)] using first
  kept rank within := by
    rw [← length_positions] at within
    have found := getElem?_correlate within
    rw [List.getElem?_eq_getElem within, Option.getD_some]
    calc window.lines[((ofWindow format window).positions limit attempts)[rank]]?
        = ((ofWindow format window).lines.map LogLine.raw)[
            ((ofWindow format window).positions limit attempts)[rank]]? := by rw [map_raw_lines]
      _ = (((ofWindow format window).correlate limit attempts).map LogLine.raw)[rank]? := by
        rw [List.getElem?_map, List.getElem?_map, found]

theorem Window.covers_ofMatched (format : LogFormat) (window : Window) (limit : Nat)
    (attempts : List Attempt) :
    ∀ position ∈ (ofWindow format window).matchedPositions limit attempts,
      ∃ rank < (window.ofMatched format limit attempts).lines.length,
        ((ofWindow format window).positions limit attempts)[rank]?.getD 0 = position := by
  intro position matched
  rw [← mem_positions_iff_mem_matchedPositions (isRead_ofWindow format window)] at matched
  obtain ⟨rank, within, rfl⟩ := List.mem_iff_getElem.mp matched
  refine ⟨rank, length_positions format window limit attempts ▸ within, ?_⟩
  simp [List.getElem?_eq_getElem within]

/-- **Unrelated lines do not matter.** Leave out any lines of a window that are not matched, some or
all of them: the correlated lines and the report stay the same. In particular the matched lines
alone yield themselves. -/
theorem correlate_pruned (format : LogFormat) (window : Window) (limit : Nat)
    (attempts : List Attempt) :
    (∀ (pruned : Window) (place : Nat → Nat), pruned.StandsIn window place →
      (∀ position ∈ (ofWindow format window).matchedPositions limit attempts,
        ∃ kept < pruned.lines.length, place kept = position) →
      (ofWindow format pruned).correlate limit attempts =
          (ofWindow format window).correlate limit attempts ∧
        (ofWindow format pruned).assess limit attempts =
          (ofWindow format window).assess limit attempts) ∧
    (ofWindow format (window.ofMatched format limit attempts)).correlate limit attempts =
      (ofWindow format window).correlate limit attempts := by
  constructor
  · intro pruned place stands covers
    have same := stands.correlate_eq covers
    exact ⟨same, congrArg (fun lines => Report.ofLines lines attempts) same⟩
  · exact (window.standsIn_ofMatched format limit attempts).correlate_eq
      (window.covers_ofMatched format limit attempts)

set_option maxRecDepth 100000 in
/-- One of two unrelated lines is left out. -/
theorem correlate_pruned_interleaved :
    let window := Window.ofLines interleavedLines
    let pruned := Window.ofLines (interleavedLines.drop 1)
    pruned.StandsIn window (fun position => position + 1) ∧
      (∀ position ∈ (ofWindow .eximLog window).matchedPositions 0 [deliveredAttempt],
        ∃ kept < pruned.lines.length, kept + 1 = position) ∧
      ((ofWindow .eximLog window).correlate 0 [deliveredAttempt]).length = 2 ∧
      (ofWindow .eximLog pruned).correlate 0 [deliveredAttempt] =
        (ofWindow .eximLog window).correlate 0 [deliveredAttempt] := by
  intro window pruned
  have stands : pruned.StandsIn window fun position => position + 1 :=
    { ordered := fun earlier later before _ => by omega
      kept := by decide +kernel }
  have listed : ∀ position ∈
      ((ofWindow .eximLog window).matchedPositions 0 [deliveredAttempt]).toList,
      ∃ kept < pruned.lines.length, kept + 1 = position := by decide +kernel
  have covers : ∀ position ∈ (ofWindow .eximLog window).matchedPositions 0 [deliveredAttempt],
      ∃ kept < pruned.lines.length, kept + 1 = position :=
    fun position matched => listed position (Std.TreeSet.mem_toList.mpr matched)
  have two : ((ofWindow .eximLog window).correlate 0 [deliveredAttempt]).length = 2 := by
    decide +kernel
  have unrelated := (correlate_pruned .eximLog window 0 [deliveredAttempt]).1 pruned _ stands covers
  exact ⟨stands, covers, two, unrelated.1⟩

end DeliveryTrace
