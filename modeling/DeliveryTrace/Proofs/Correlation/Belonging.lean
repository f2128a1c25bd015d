import DeliveryTrace.Proofs.Correlation.Lookup
import DeliveryTrace.Proofs.Correlation.Search
import DeliveryTrace.Proofs.Log.Entry

/-! # The lines that belong to a message

A line belongs to a message if a chain of handoffs within the limit leads to its transaction, or if
it is an Exim notification about a transaction to which such a chain leads. The main statement says
that correlating yields the lines at exactly these positions, in log order and each position once.
-/

namespace DeliveryTrace.MailLog

/-- The line belongs to the message of the attempts: its transaction is reached, or it notifies that
a reached transaction bounced. -/
def Belongs (log : MailLog) (limit : Nat) (attempts : List Attempt) (line : LogLine) : Prop :=
  (∃ transaction, line.transaction = some transaction ∧
    log.Reached limit attempts transaction) ∨
  log.format = .eximLog ∧
    ∃ bounced, line.Notifies bounced ∧ log.Reached limit attempts bounced

/-- The lines of the log were read from texts. -/
def IsRead (log : MailLog) : Prop :=
  ∀ line ∈ log.lines, ∃ raw, line = .ofText log.format raw

variable {log : MailLog} {limit : Nat} {attempts : List Attempt}

theorem isRead_ofWindow (format : LogFormat) (window : Window) :
    (ofWindow format window).IsRead := by
  intro line member
  obtain ⟨raw, _, rfl⟩ := List.mem_map.mp member
  exact ⟨raw, rfl⟩

/-- Reading a window loses none of its texts. -/
theorem map_raw_lines (format : LogFormat) (window : Window) :
    (ofWindow format window).lines.map LogLine.raw = window.lines := by
  simp [ofWindow, ofLines, Function.comp_def, LogLine.raw_ofText]

theorem length_lines (format : LogFormat) (window : Window) :
    (ofWindow format window).lines.length = window.lines.length := by
  simp [ofWindow, ofLines]

/-- A line that says something has a transaction, as it was read from a text. -/
theorem IsRead.exists_transaction {line : LogLine} (read : log.IsRead)
    (member : line ∈ log.lines) (said : line.direction ≠ .unparseable) :
    ∃ transaction, line.transaction = some transaction := by
  obtain ⟨raw, rfl⟩ := read line member
  rw [← Option.ne_none_iff_exists']
  intro bare
  rw [LogLine.ofText_of_transaction_eq_none bare] at said
  exact said rfl

/-- The entries filed under a transaction are its lines and the notifications about it. -/
theorem mem_entries (read : log.IsRead) {transaction : Text} {entry : PlacedLine} :
    entry ∈ log.index.transactions.items transaction ++ log.index.bounces.items transaction ↔
      log.lines[entry.2]? = some entry.1 ∧
        (entry.1.transaction = some transaction ∨
          log.format = .eximLog ∧ entry.1.Notifies transaction) := by
  rw [log.index_eq, Index.items_transactions, Index.items_bounces]
  simp only [List.mem_append, List.mem_filter, decide_eq_true_eq, List.mem_zipIdx_iff_getElem?]
  rw [← and_or_left]
  refine and_congr_right fun placed => or_congr_right (and_congr_right fun _ => ?_)
  refine and_iff_right_of_imp fun notice => Option.ne_none_iff_exists'.mpr ?_
  exact read.exists_transaction (List.mem_of_getElem? placed) (by simp [notice.1])

/-- The matched positions are those of the entries of reached transactions. -/
theorem mem_matchedPositions_iff_reached {position : Nat} :
    position ∈ log.matchedPositions limit attempts ↔
      ∃ transaction, log.Reached limit attempts transaction ∧ ∃ entry ∈
        log.index.transactions.items transaction ++ log.index.bounces.items transaction,
          entry.2 = position := by
  simp only [matchedPositions, Std.TreeSet.mem_ofList, List.contains_iff_mem, List.mem_flatMap,
    List.mem_map, mem_reached]

/-- The matched positions are those of the lines that belong to the message. -/
theorem mem_matchedPositions (read : log.IsRead) {position : Nat} :
    position ∈ log.matchedPositions limit attempts ↔
      ∃ line, log.lines[position]? = some line ∧ log.Belongs limit attempts line := by
  simp only [mem_matchedPositions_iff_reached, mem_entries read]
  constructor
  · intro matched
    obtain ⟨transaction, reached, ⟨line, place⟩, ⟨placed, kind⟩, rfl⟩ := matched
    rcases kind with owned | ⟨exim, notice⟩
    · exact ⟨line, placed, .inl ⟨transaction, owned, reached⟩⟩
    · exact ⟨line, placed, .inr ⟨exim, transaction, notice, reached⟩⟩
  · intro belongs
    obtain ⟨line, placed, kind⟩ := belongs
    rcases kind with ⟨transaction, owned, reached⟩ | ⟨exim, bounced, notice, reached⟩
    · exact ⟨transaction, reached, (line, position), ⟨placed, .inl owned⟩, rfl⟩
    · exact ⟨bounced, reached, (line, position), ⟨placed, .inr ⟨exim, notice⟩⟩, rfl⟩

/-- The matched positions alone decide which lines are correlated. -/
theorem correlate_eq_of_mem_iff {other : Nat} {resent : List Attempt}
    (same : ∀ position, position ∈ log.matchedPositions limit attempts ↔
      position ∈ log.matchedPositions other resent) :
    log.correlate limit attempts = log.correlate other resent := by
  refine congrArg (List.map Prod.fst) (List.filter_congr ?_)
  intro entry _
  rw [Bool.eq_iff_iff, ← Std.TreeSet.mem_iff_contains, ← Std.TreeSet.mem_iff_contains]
  exact same entry.2

/-- The positions of the correlated lines in increasing order. -/
def positions (log : MailLog) (limit : Nat) (attempts : List Attempt) : List Nat :=
  (log.lines.zipIdx.filter fun entry =>
    (log.matchedPositions limit attempts).contains entry.2).map Prod.snd

theorem positions_pairwise (log : MailLog) (limit : Nat) (attempts : List Attempt) :
    (log.positions limit attempts).Pairwise (· < ·) :=
  (log.placed_filter _).rising

theorem map_some_correlate (log : MailLog) (limit : Nat) (attempts : List Attempt) :
    (log.correlate limit attempts).map some =
      (log.positions limit attempts).map fun position => log.lines[position]? := by
  unfold correlate positions
  rw [List.map_map, List.map_map]
  apply List.map_congr_left
  intro entry member
  exact ((log.placed_filter _).found entry member).symm

theorem length_correlate (log : MailLog) (limit : Nat) (attempts : List Attempt) :
    (log.correlate limit attempts).length = (log.positions limit attempts).length := by
  simp [correlate, positions]

theorem getElem?_correlate {rank : Nat} (within : rank < (log.positions limit attempts).length) :
    (log.correlate limit attempts)[rank]? = log.lines[(log.positions limit attempts)[rank]]? := by
  have found := congrArg (fun lines => lines[rank]?) (log.map_some_correlate limit attempts)
  simp only [List.getElem?_map, List.getElem?_eq_getElem within, Option.map_some] at found
  obtain ⟨line, listed, logged⟩ := Option.map_eq_some_iff.mp found
  exact listed.trans logged

theorem mem_positions (read : log.IsRead) {position : Nat} :
    position ∈ log.positions limit attempts ↔
      ∃ line, log.lines[position]? = some line ∧ log.Belongs limit attempts line := by
  rw [← mem_matchedPositions read]
  unfold positions
  simp only [List.mem_map, List.mem_filter, List.mem_zipIdx_iff_getElem?,
    ← Std.TreeSet.mem_iff_contains]
  constructor
  · intro listed
    obtain ⟨entry, ⟨_, matched⟩, rfl⟩ := listed
    exact matched
  · intro matched
    obtain ⟨line, placed, _⟩ := (mem_matchedPositions read).mp matched
    exact ⟨(line, position), ⟨placed, matched⟩, rfl⟩

theorem mem_positions_iff_mem_matchedPositions (read : log.IsRead) {position : Nat} :
    position ∈ log.positions limit attempts ↔ position ∈ log.matchedPositions limit attempts :=
  (mem_positions read).trans (mem_matchedPositions read).symm

/-- The correlated lines are the lines of the log that belong to the message. -/
theorem mem_correlate (read : log.IsRead) {line : LogLine} :
    line ∈ log.correlate limit attempts ↔ line ∈ log.lines ∧ log.Belongs limit attempts line := by
  have placed : line ∈ log.correlate limit attempts ↔
      ∃ position ∈ log.positions limit attempts, log.lines[position]? = some line := by
    rw [← List.mem_map_of_injective fun _ _ => Option.some.inj, map_some_correlate, List.mem_map]
  rw [placed, List.mem_iff_getElem?]
  constructor
  · intro correlated
    obtain ⟨position, member, found⟩ := correlated
    obtain ⟨other, same, belongs⟩ := (mem_positions read).mp member
    cases same.symm.trans found
    exact ⟨⟨position, found⟩, belongs⟩
  · intro logged
    obtain ⟨⟨position, found⟩, belongs⟩ := logged
    exact ⟨position, (mem_positions read).mpr ⟨line, found, belongs⟩, found⟩

/-- **Correlating is bounded reachability.** The correlated lines stand at the positions of the
lines that belong to the message, in log order and each position once. Of a transaction that is not
reached, such as the one that delivers a linked notification, they are the notification lines
alone. -/
theorem correlate_ofWindow (format : LogFormat) (window : Window) (limit : Nat)
    (attempts : List Attempt) :
    let log := ofWindow format window
    (∃ positions : List Nat, positions.Pairwise (· < ·) ∧
      (log.correlate limit attempts).map some =
        positions.map (fun position => log.lines[position]?) ∧
      ∀ position, position ∈ positions ↔
        ∃ line, log.lines[position]? = some line ∧ log.Belongs limit attempts line) ∧
    ∀ own, ¬ log.Reached limit attempts own → ∀ line ∈ log.correlate limit attempts,
      line.transaction = some own →
        format = .eximLog ∧ ∃ bounced, line.Notifies bounced ∧
          log.Reached limit attempts bounced := by
  intro log
  have read : log.IsRead := isRead_ofWindow format window
  refine ⟨⟨log.positions limit attempts, log.positions_pairwise limit attempts,
    log.map_some_correlate limit attempts, fun position => mem_positions read⟩, ?_⟩
  intro own unreached line member owned
  rcases ((mem_correlate read).mp member).2 with ⟨transaction, named, reached⟩ | linked
  · cases named.symm.trans owned
    exact absurd reached unreached
  · exact linked

end DeliveryTrace.MailLog
