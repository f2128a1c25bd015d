import DeliveryTrace.Proofs.Correlation.Belonging
import DeliveryTrace.Proofs.Verdict
import Mathlib.Data.List.Sort

/-! # Growing logs

The lines of a window stand in a wider one if these are among its lines, in the same order; what
else the wider one holds may be older or newer or in between. The main statement says that a
line which is matched in the smaller window is matched at its place in the wider one, so a window
under a limit never matches more, and that a message with a fate does not lose it altogether.
-/

namespace DeliveryTrace

/-- The lines of a window stand at these places of a wider one, in the same order. -/
structure Window.StandsIn (window wider : Window) (place : Nat → Nat) : Prop where
  ordered : ∀ earlier later, earlier < later → later < window.lines.length →
    place earlier < place later
  kept : ∀ position < window.lines.length, wider.lines[place position]? = window.lines[position]?

namespace MailLog

/-! ## Logs with more lines -/

section Subset

variable {log wider : MailLog} {attempts : List Attempt} {limit length : Nat}
  {identifier transaction source target : Text} {line : LogLine}

theorem AcceptsWith.mono (accepted : log.AcceptsWith identifier transaction)
    (inside : log.lines ⊆ wider.lines) : wider.AcceptsWith identifier transaction := by
  obtain ⟨line, member, accepts⟩ := accepted
  exact ⟨line, inside member, accepts⟩

theorem IsSeed.mono (seed : log.IsSeed attempts transaction) (inside : log.lines ⊆ wider.lines) :
    wider.IsSeed attempts transaction := by
  rw [isSeed_iff] at seed ⊢
  obtain ⟨identifier, named, accepted⟩ := seed
  exact ⟨identifier, named, accepted.mono inside⟩

theorem HandsOver.mono (hands : log.HandsOver source target) (inside : log.lines ⊆ wider.lines) :
    wider.HandsOver source target := by
  obtain ⟨⟨relay, logged, relays⟩, other, acceptance, member, accepts⟩ := hands
  exact ⟨⟨relay, inside logged, relays⟩, other, acceptance, inside member, accepts⟩

theorem ChainTo.mono (chain : log.ChainTo attempts length transaction)
    (inside : log.lines ⊆ wider.lines) : wider.ChainTo attempts length transaction :=
  chain.imp (fun _ seed => seed.mono inside) fun _ _ hands => hands.mono inside

theorem Reached.mono (reached : log.Reached limit attempts transaction)
    (inside : log.lines ⊆ wider.lines) : wider.Reached limit attempts transaction := by
  obtain ⟨length, within, chain⟩ := reached
  exact ⟨length, within, chain.mono inside⟩

theorem Belongs.mono (belongs : log.Belongs limit attempts line)
    (inside : log.lines ⊆ wider.lines) (same : log.format = wider.format) :
    wider.Belongs limit attempts line := by
  rcases belongs with ⟨transaction, owned, reached⟩ | ⟨exim, bounced, notice, reached⟩
  · exact .inl ⟨transaction, owned, reached.mono inside⟩
  · exact .inr ⟨same.symm.trans exim, bounced, notice, reached.mono inside⟩

end Subset

end MailLog

open MailLog

variable {window wider : Window} {place : Nat → Nat} {format : LogFormat} {limit : Nat}
  {attempts : List Attempt} {position : Nat}

theorem lt_of_mem_positions
    (listed : position ∈ (ofWindow format window).positions limit attempts) :
    position < window.lines.length := by
  obtain ⟨line, logged, _⟩ := (mem_positions (isRead_ofWindow format window)).mp listed
  obtain ⟨within, _⟩ := List.getElem?_eq_some_iff.mp logged
  exact length_lines format window ▸ within

namespace Window.StandsIn

/-! ## Windows with more lines -/

theorem getElem?_lines (stands : window.StandsIn wider place) (format : LogFormat)
    (within : position < window.lines.length) :
    (ofWindow format wider).lines[place position]? = (ofWindow format window).lines[position]? := by
  have same := stands.kept position within
  simp only [ofWindow, MailLog.ofLines, List.getElem?_map, same]

theorem subset_lines (stands : window.StandsIn wider place) (format : LogFormat) :
    (ofWindow format window).lines ⊆ (ofWindow format wider).lines := by
  intro line member
  obtain ⟨position, within, rfl⟩ := List.mem_iff_getElem.mp member
  have shorter : position < window.lines.length := length_lines format window ▸ within
  have found := stands.getElem?_lines format shorter
  rw [List.getElem?_eq_getElem within] at found
  exact List.mem_of_getElem? found

/-- A position that the smaller window lists is listed at its place in the wider one. -/
theorem mem_positions (stands : window.StandsIn wider place)
    (listed : position ∈ (ofWindow format window).positions limit attempts) :
    place position ∈ (ofWindow format wider).positions limit attempts := by
  have within := lt_of_mem_positions listed
  rw [MailLog.mem_positions (isRead_ofWindow format window)] at listed
  obtain ⟨line, logged, belongs⟩ := listed
  rw [MailLog.mem_positions (isRead_ofWindow format wider)]
  refine ⟨line, ?_, belongs.mono (stands.subset_lines format) rfl⟩
  rw [stands.getElem?_lines format within, logged]

theorem pairwise_map_positions (stands : window.StandsIn wider place) :
    (((ofWindow format window).positions limit attempts).map place).Pairwise (· < ·) := by
  rw [List.pairwise_map]
  refine (positions_pairwise _ limit attempts).imp_of_mem ?_
  intro earlier later _ listed before
  exact stands.ordered earlier later before (lt_of_mem_positions listed)

/-- The lines at the places of the listed positions are the correlated lines. -/
theorem map_some_correlate (stands : window.StandsIn wider place) :
    ((ofWindow format window).correlate limit attempts).map some =
      (((ofWindow format window).positions limit attempts).map place).map fun position =>
        (ofWindow format wider).lines[position]? := by
  rw [MailLog.map_some_correlate, List.map_map]
  apply List.map_congr_left
  intro position listed
  exact (stands.getElem?_lines format (lt_of_mem_positions listed)).symm

/-- Correlating a wider window yields the same lines and perhaps more. -/
theorem correlate_sublist (stands : window.StandsIn wider place) :
    ((ofWindow format window).correlate limit attempts).Sublist
      ((ofWindow format wider).correlate limit attempts) := by
  have listed : ((ofWindow format window).positions limit attempts).map place ⊆
      (ofWindow format wider).positions limit attempts := by
    intro position member
    obtain ⟨earlier, matched, rfl⟩ := List.mem_map.mp member
    exact stands.mem_positions matched
  have rising : (((ofWindow format window).positions limit attempts).map place).Pairwise (· < ·) :=
    stands.pairwise_map_positions
  have kept := List.sublist_of_subperm_of_pairwise (List.subperm_of_subset rising.nodup listed)
    rising (positions_pairwise _ limit attempts)
  have lines := (kept.map fun position => (ofWindow format wider).lines[position]?).filterMap id
  rw [← stands.map_some_correlate, ← MailLog.map_some_correlate] at lines
  simpa using lines

/-- A line that is matched in the smaller window is matched at its place in the wider one. -/
theorem mem_matchedPositions (stands : window.StandsIn wider place)
    (matched : position ∈ (ofWindow format window).matchedPositions limit attempts) :
    place position ∈ (ofWindow format wider).matchedPositions limit attempts := by
  rw [← mem_positions_iff_mem_matchedPositions (isRead_ofWindow format _)] at matched ⊢
  exact stands.mem_positions matched

/-- A fate that the smaller window tells does not get lost in the wider one. -/
theorem status_ne_unknown (stands : window.StandsIn wider place)
    (fate : ((ofWindow format window).assess limit attempts).status ∈
      [Status.delivered, .deferred, .failed]) :
    ((ofWindow format wider).assess limit attempts).status ≠ .unknown := by
  obtain ⟨line, member, outcome, told⟩ := exists_outcome_of_ofLines fate
  exact ofLines_ne_unknown (stands.correlate_sublist.subset member) outcome told

end Window.StandsIn

/-! ## Windows under a limit -/

theorem keepNewest_eq_drop (most : Option Nat) (lines : List Text) :
    keepNewest most lines = lines.drop (lines.length - (keepNewest most lines).length) := by
  cases most with
  | none => simp [keepNewest]
  | some most =>
      have kept : (lines.drop (lines.length - most)).length =
          lines.length - (lines.length - most) := List.length_drop
      simp only [keepNewest, kept]
      congr 1
      omega

/-- The newest lines stand at the end of the window. -/
theorem Window.standsIn_withLimit (window : Window) (most : Option Nat) :
    (window.withLimit most).StandsIn window fun position =>
      position + (window.lines.length - (window.withLimit most).lines.length) where
  ordered earlier later before _ := Nat.add_lt_add_right before _
  kept position _ := by
    have newest : (window.withLimit most).lines = window.lines.drop _ :=
      keepNewest_eq_drop most window.lines
    conv_rhs => rw [newest, List.getElem?_drop, Nat.add_comm]
    rfl

/-- **A growing log loses no evidence.** Whatever lines are added to a window, and wherever, a line
that was matched is still matched, and a message whose fate was known has a status. So a limit on a
window takes matched lines away and adds none. -/
theorem matched_of_standsIn (format : LogFormat) (limit : Nat) (attempts : List Attempt) :
    (∀ (window wider : Window) (place : Nat → Nat), window.StandsIn wider place →
      (∀ position ∈ (ofWindow format window).matchedPositions limit attempts,
        place position ∈ (ofWindow format wider).matchedPositions limit attempts) ∧
      (((ofWindow format window).assess limit attempts).status ∈
          [Status.delivered, .deferred, .failed] →
        ((ofWindow format wider).assess limit attempts).status ≠ .unknown)) ∧
    ∀ (window : Window) (most : Option Nat),
      (∀ position ∈ (ofWindow format (window.withLimit most)).matchedPositions limit attempts,
        position + (window.lines.length - (window.withLimit most).lines.length) ∈
          (ofWindow format window).matchedPositions limit attempts) ∧
      ((ofWindow format (window.withLimit most)).correlate limit attempts).Sublist
        ((ofWindow format window).correlate limit attempts) := by
  constructor
  · intro window wider place stands
    exact ⟨fun position matched => stands.mem_matchedPositions matched, stands.status_ne_unknown⟩
  · intro window most
    have stands := window.standsIn_withLimit most
    exact ⟨fun position matched => stands.mem_matchedPositions matched, stands.correlate_sublist⟩

/-- The acceptance and the delivery of a message. -/
def deliveryLines : List Text :=
  ["2017-01-02 10:00:00 1cNiyF-00040R-Kc <= r@localhost id=a@localhost".toList,
    "2017-01-02 10:00:02 1cNiyF-00040R-Kc => s@localhost".toList]

/-- These two lines, and one of another transaction in front of each. -/
def interleavedLines : List Text :=
  deliveryLines.flatMap fun line =>
    ["2017-01-02 10:00:01 1cNiyG-00040U-Ls Completed".toList, line]

/-- The attempt that led to the delivery. -/
def deliveredAttempt : Attempt := { identifier := "a@localhost".toList, sentAt := ⟨0, 0⟩ }

set_option maxRecDepth 100000 in
/-- The delivery is found again among lines of another transaction. -/
theorem matched_of_standsIn_interleaved :
    let window := Window.ofLines deliveryLines
    let wider := Window.ofLines interleavedLines
    let attempts := [deliveredAttempt]
    window.StandsIn wider (fun position => 2 * position + 1) ∧
      1 ∈ (ofWindow .eximLog window).matchedPositions 0 attempts ∧
      ((ofWindow .eximLog window).assess 0 attempts).status = .delivered ∧
      3 ∈ (ofWindow .eximLog wider).matchedPositions 0 attempts ∧
      ((ofWindow .eximLog wider).assess 0 attempts).status ≠ .unknown := by
  intro window wider attempts
  have stands : window.StandsIn wider fun position => 2 * position + 1 :=
    { ordered := fun earlier later before _ => by omega
      kept := by decide +kernel }
  have delivered : ((ofWindow .eximLog window).assess 0 attempts).status = .delivered := by
    decide +kernel
  have found : 1 ∈ (ofWindow .eximLog window).matchedPositions 0 attempts := by decide +kernel
  obtain ⟨matched, known⟩ := (matched_of_standsIn .eximLog 0 attempts).1 window wider _ stands
  exact ⟨stands, found, delivered, matched 1 found, known (by simp [delivered])⟩

end DeliveryTrace
