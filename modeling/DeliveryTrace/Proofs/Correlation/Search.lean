import DeliveryTrace.Proofs.Correlation.Chain
import Mathlib.Data.List.Nodup

/-! # Breadth-first search is bounded reachability

The main statement says that the search finds exactly the transactions to which a chain of at most
`limit` handoffs leads from a seed.

The invariant of the search is that depths never decrease along the queue and that no finding lies
more than one handoff behind a queued one. A transaction that is found again was therefore found
with as few handoffs the first time, and passing it over loses nothing within the limit.
-/

namespace DeliveryTrace

namespace Search

/-! ## What noting adds -/

/-- All findings of a search, those with lines still to be read last. -/
def findings (search : Search) : List Finding := search.done ++ search.queue

/-- Those of some transactions that a search has not found, each once. -/
def fresh (search : Search) (transactions : List Text) : List Text :=
  (transactions.filter fun transaction => transaction ∉ search.found).eraseDups

theorem mem_fresh {search : Search} {transactions : List Text} {transaction : Text} :
    transaction ∈ search.fresh transactions ↔
      transaction ∈ transactions ∧ transaction ∉ search.found := by
  simp [fresh, List.mem_eraseDups]

theorem nodup_fresh (search : Search) (transactions : List Text) :
    (search.fresh transactions).Nodup :=
  nodup_eraseDups _

theorem fresh_cons_of_mem {search : Search} {transaction : Text} (transactions : List Text)
    (known : transaction ∈ search.found) :
    search.fresh (transaction :: transactions) = search.fresh transactions := by
  simp [fresh, known]

theorem note_of_mem {search : Search} {transaction : Text} (depth : Nat)
    (known : transaction ∈ search.found) : search.note depth transaction = search := by
  simp [note, known]

theorem note_of_not_mem {search : Search} {transaction : Text} (depth : Nat)
    (unknown : transaction ∉ search.found) :
    search.note depth transaction =
      { search with
        found := search.found.insert transaction
        queue := search.queue ++ [⟨transaction, depth⟩] } := by
  simp [note, unknown]

theorem fresh_cons_of_not_mem {search : Search} {transaction : Text} (depth : Nat)
    (transactions : List Text) (unknown : transaction ∉ search.found) :
    search.fresh (transaction :: transactions) =
      transaction :: (search.note depth transaction).fresh transactions := by
  unfold fresh
  rw [note_of_not_mem depth unknown, List.filter_cons, if_pos (decide_eq_true unknown),
    List.eraseDups_cons, List.filter_filter]
  congr 2
  apply List.filter_congr
  intro other _
  by_cases same : transaction = other <;> simp [same, Ne.symm]

theorem done_noteAll (depth : Nat) (search : Search) (transactions : List Text) :
    (search.noteAll depth transactions).done = search.done := by
  induction transactions generalizing search with
  | nil => rfl
  | cons transaction transactions ih =>
      refine (ih (search.note depth transaction)).trans ?_
      unfold note
      split <;> rfl

theorem queue_noteAll (depth : Nat) (search : Search) (transactions : List Text) :
    (search.noteAll depth transactions).queue =
      search.queue ++ (search.fresh transactions).map fun transaction => ⟨transaction, depth⟩ := by
  induction transactions generalizing search with
  | nil => simp [noteAll, fresh]
  | cons transaction transactions ih =>
      change ((search.note depth transaction).noteAll depth transactions).queue = _
      rw [ih]
      by_cases known : transaction ∈ search.found
      · rw [note_of_mem depth known, fresh_cons_of_mem transactions known]
      · rw [fresh_cons_of_not_mem depth transactions known, note_of_not_mem depth known]
        simp

theorem mem_found_noteAll {depth : Nat} {search : Search} {transactions : List Text}
    {transaction : Text} :
    transaction ∈ (search.noteAll depth transactions).found ↔
      transaction ∈ search.found ∨ transaction ∈ transactions := by
  induction transactions generalizing search with
  | nil => simp [noteAll]
  | cons first transactions ih =>
      change transaction ∈ ((search.note depth first).noteAll depth transactions).found ↔ _
      rw [ih]
      by_cases known : first ∈ search.found
      · rw [note_of_mem depth known, List.mem_cons]
        constructor
        · intro noted
          rcases noted with found | later
          · exact .inl found
          · exact .inr (.inr later)
        · intro noted
          rcases noted with found | rfl | later
          · exact .inl found
          · exact .inl known
          · exact .inr later
      · rw [note_of_not_mem depth known, Std.TreeSet.mem_insert, Std.compare_eq_iff_eq,
          List.mem_cons]
        tauto

theorem findings_noteAll (depth : Nat) (search : Search) (transactions : List Text) :
    (search.noteAll depth transactions).findings =
      search.findings ++
        (search.fresh transactions).map fun transaction => ⟨transaction, depth⟩ := by
  unfold findings
  rw [done_noteAll, queue_noteAll, List.append_assoc]

theorem mem_findings_noteAll {depth : Nat} {search : Search} {transactions : List Text}
    {finding : Finding} :
    finding ∈ (search.noteAll depth transactions).findings ↔
      finding ∈ search.findings ∨
        finding.depth = depth ∧ finding.transaction ∈ search.fresh transactions := by
  rw [findings_noteAll, List.mem_append, List.mem_map]
  apply or_congr_right
  constructor
  · intro added
    obtain ⟨transaction, new, rfl⟩ := added
    exact ⟨rfl, new⟩
  · intro added
    obtain ⟨rfl, new⟩ := added
    exact ⟨finding.transaction, new, rfl⟩

/-- The set of found transactions lists the findings, which are of distinct transactions. -/
structure WellFormed (search : Search) : Prop where
  mem_found : ∀ transaction, transaction ∈ search.found ↔
    ∃ finding ∈ search.findings, finding.transaction = transaction
  nodup : (search.findings.map Finding.transaction).Nodup

theorem WellFormed.empty : WellFormed {} where
  mem_found transaction := by simp [findings]
  nodup := List.nodup_nil

theorem WellFormed.noteAll {search : Search} (wellFormed : search.WellFormed) (depth : Nat)
    (transactions : List Text) : (search.noteAll depth transactions).WellFormed where
  mem_found transaction := by
    rw [mem_found_noteAll, findings_noteAll]
    constructor
    · intro noted
      by_cases known : transaction ∈ search.found
      · obtain ⟨finding, member, same⟩ := (wellFormed.mem_found transaction).mp known
        exact ⟨finding, List.mem_append_left _ member, same⟩
      · have new := mem_fresh.mpr ⟨noted.resolve_left known, known⟩
        exact ⟨⟨transaction, depth⟩, List.mem_append_right _ (List.mem_map_of_mem new), rfl⟩
    · intro listed
      obtain ⟨finding, member, rfl⟩ := listed
      rcases List.mem_append.mp member with old | new
      · exact .inl ((wellFormed.mem_found _).mpr ⟨finding, old, rfl⟩)
      · obtain ⟨transaction, unseen, rfl⟩ := List.mem_map.mp new
        exact .inr (mem_fresh.mp unseen).1
  nodup := by
    rw [findings_noteAll, List.map_append, List.map_map]
    have same : Finding.transaction ∘ (fun transaction => ⟨transaction, depth⟩) = id := rfl
    rw [same, List.map_id]
    refine List.Nodup.append wellFormed.nodup (nodup_fresh search transactions) ?_
    intro transaction old new
    obtain ⟨finding, member, named⟩ := List.mem_map.mp old
    exact (mem_fresh.mp new).2 ((wellFormed.mem_found transaction).mpr ⟨finding, member, named⟩)

theorem findings_take_perm {search : Search} {finding : Finding} {queue : List Finding}
    (waiting : search.queue = finding :: queue) :
    (search.take finding queue).findings.Perm search.findings := by
  unfold findings take
  rw [waiting]
  exact List.perm_middle.symm

theorem WellFormed.take {search : Search} {finding : Finding} {queue : List Finding}
    (wellFormed : search.WellFormed) (waiting : search.queue = finding :: queue) :
    (search.take finding queue).WellFormed where
  mem_found transaction := by
    simp only [(findings_take_perm waiting).mem_iff]
    exact wellFormed.mem_found transaction
  nodup := ((findings_take_perm waiting).map _).nodup_iff.mpr wellFormed.nodup

end Search

namespace MailLog

/-! ## The invariant -/

/-- What holds of a search at every turn. -/
structure Explores (log : MailLog) (limit : Nat) (attempts : List Attempt) (search : Search) :
    Prop where
  wellFormed : search.WellFormed
  /-- Every seed is found without a handoff. -/
  seeds : ∀ transaction, log.IsSeed attempts transaction → ⟨transaction, 0⟩ ∈ search.findings
  /-- A chain within the limit leads to every finding. -/
  chain : ∀ finding ∈ search.findings, finding.depth ≤ limit ∧
    log.ChainTo attempts finding.depth finding.transaction
  /-- Depths never decrease along the queue. -/
  ordered : search.queue.Pairwise fun earlier later => earlier.depth ≤ later.depth
  /-- No finding lies more than one handoff behind a queued one. -/
  span : ∀ finding ∈ search.findings, ∀ queued ∈ search.queue, finding.depth ≤ queued.depth + 1
  /-- What a read finding leads to was found with at most one handoff more. -/
  closed : ∀ finding ∈ search.done, finding.depth < limit → ∀ target,
    log.HandsOver finding.transaction target →
      ∃ next ∈ search.findings, next.transaction = target ∧ next.depth ≤ finding.depth + 1

variable {log : MailLog} {limit : Nat} {attempts : List Attempt} {search : Search}

theorem mem_targets {finding : Finding} {target : Text} :
    target ∈ log.targets limit finding ↔
      finding.depth < limit ∧ log.HandsOver finding.transaction target := by
  unfold targets
  by_cases within : finding.depth < limit
  · simp [within, mem_handoffs]
  · simp [within]

/-- The search starts with the seeds. -/
theorem Explores.start (log : MailLog) (limit : Nat) (attempts : List Attempt) :
    log.Explores limit attempts (Search.noteAll 0 {} (log.seeds attempts)) := by
  have start (finding : Finding) :
      finding ∈ (Search.noteAll 0 {} (log.seeds attempts)).findings ↔
        finding.depth = 0 ∧ log.IsSeed attempts finding.transaction := by
    rw [Search.mem_findings_noteAll, Search.mem_fresh, mem_seeds]
    simp [Search.findings]
  refine
    { wellFormed := Search.WellFormed.empty.noteAll 0 (log.seeds attempts)
      seeds := fun transaction seed => (start ⟨transaction, 0⟩).mpr ⟨rfl, seed⟩
      chain := ?_
      ordered := ?_
      span := ?_
      closed := ?_ }
  · intro finding member
    obtain ⟨depth, seed⟩ := (start finding).mp member
    rw [depth]
    exact ⟨Nat.zero_le limit, .seed seed⟩
  · rw [Search.queue_noteAll, List.nil_append, List.pairwise_map]
    exact List.pairwise_of_forall fun _ _ => Nat.le_refl 0
  · intro finding member queued _
    rw [((start finding).mp member).1]
    exact Nat.zero_le _
  · intro finding member
    rw [Search.done_noteAll] at member
    cases member

theorem mem_findings_follow {finding : Finding} {queue : List Finding}
    (waiting : search.queue = finding :: queue) {other : Finding} :
    other ∈ (log.follow limit finding (search.take finding queue)).findings ↔
      other ∈ search.findings ∨ other.depth = finding.depth + 1 ∧
        other.transaction ∈ log.targets limit finding ∧ other.transaction ∉ search.found := by
  unfold follow
  rw [Search.mem_findings_noteAll, (Search.findings_take_perm waiting).mem_iff, Search.mem_fresh]
  rfl

theorem mem_queue_follow {finding : Finding} {queue : List Finding} {other : Finding}
    (member : other ∈ (log.follow limit finding (search.take finding queue)).queue) :
    other ∈ queue ∨ other.depth = finding.depth + 1 := by
  unfold follow at member
  rw [Search.queue_noteAll] at member
  rcases List.mem_append.mp member with old | new
  · exact .inl old
  · obtain ⟨transaction, _, rfl⟩ := List.mem_map.mp new
    exact .inr rfl

/-- Whatever a finding within the limit leads to is found once its lines were read. -/
theorem Explores.target_found {finding : Finding} {queue : List Finding}
    (explores : log.Explores limit attempts search) (waiting : search.queue = finding :: queue)
    (within : finding.depth < limit) {target : Text}
    (hands : log.HandsOver finding.transaction target) :
    ∃ next ∈ (log.follow limit finding (search.take finding queue)).findings,
      next.transaction = target ∧ next.depth ≤ finding.depth + 1 := by
  by_cases known : target ∈ search.found
  · obtain ⟨next, old, named⟩ := (explores.wellFormed.mem_found target).mp known
    have near := explores.span next old finding (waiting ▸ List.mem_cons_self)
    exact ⟨next, (mem_findings_follow waiting).mpr (.inl old), named, near⟩
  · have new := mem_targets.mpr ⟨within, hands⟩
    exact ⟨⟨target, finding.depth + 1⟩, (mem_findings_follow waiting).mpr (.inr ⟨rfl, new, known⟩),
      rfl, Nat.le_refl _⟩

/-- One turn keeps the invariant. -/
theorem Explores.follow {finding : Finding} {queue : List Finding}
    (explores : log.Explores limit attempts search) (waiting : search.queue = finding :: queue) :
    log.Explores limit attempts (log.follow limit finding (search.take finding queue)) := by
  have queued : finding ∈ search.queue := waiting ▸ List.mem_cons_self
  have known : finding ∈ search.findings := List.mem_append_right _ queued
  have ordered := waiting ▸ explores.ordered
  rw [List.pairwise_cons] at ordered
  refine
    { wellFormed := (explores.wellFormed.take waiting).noteAll _ _
      seeds := fun transaction seed =>
        (mem_findings_follow waiting).mpr (.inl (explores.seeds transaction seed))
      chain := ?_
      ordered := ?_
      span := ?_
      closed := ?_ }
  · intro other member
    rcases (mem_findings_follow waiting).mp member with old | ⟨depth, new, _⟩
    · exact explores.chain other old
    · obtain ⟨within, hands⟩ := mem_targets.mp new
      rw [depth]
      exact ⟨within, .handoff (explores.chain finding known).2 hands⟩
  · unfold MailLog.follow
    rw [Search.queue_noteAll, List.pairwise_append, List.pairwise_map]
    refine ⟨ordered.2, List.pairwise_of_forall fun _ _ => Nat.le_refl _, ?_⟩
    intro old member new added
    obtain ⟨transaction, _, rfl⟩ := List.mem_map.mp added
    have earlier : old ∈ search.queue := waiting ▸ List.mem_cons_of_mem _ member
    exact explores.span old (List.mem_append_right _ earlier) finding queued
  · intro other member later added
    -- Whatever is found or queued now lies within one handoff of the finding that was taken up.
    have shallow : other.depth ≤ finding.depth + 1 := by
      rcases (mem_findings_follow waiting).mp member with old | ⟨depth, _⟩
      · exact explores.span other old finding queued
      · omega
    have deep : finding.depth ≤ later.depth := by
      rcases mem_queue_follow added with old | depth
      · exact ordered.1 later old
      · omega
    omega
  · intro read member within target hands
    unfold MailLog.follow at member
    rw [Search.done_noteAll] at member
    rcases List.mem_cons.mp member with rfl | earlier
    · exact explores.target_found waiting within hands
    · obtain ⟨next, old, named, near⟩ := explores.closed read earlier within target hands
      exact ⟨next, (mem_findings_follow waiting).mpr (.inl old), named, near⟩

/-! ## Whole searches -/

theorem Explores.explore (explores : log.Explores limit attempts search) :
    log.Explores limit attempts (log.explore limit search) := by
  fun_induction MailLog.explore log limit search with
  | case1 search empty => exact explores
  | case2 search finding queue waiting ih => exact ih (explores.follow waiting)

theorem queue_explore (log : MailLog) (limit : Nat) (search : Search) :
    (log.explore limit search).queue = [] := by
  fun_induction MailLog.explore log limit search with
  | case1 search empty => exact empty
  | case2 search finding queue waiting ih => exact ih

theorem explores_search (log : MailLog) (limit : Nat) (attempts : List Attempt) :
    log.Explores limit attempts (log.search limit attempts) :=
  (Explores.start log limit attempts).explore

theorem findings_search (log : MailLog) (limit : Nat) (attempts : List Attempt) :
    (log.search limit attempts).findings = (log.search limit attempts).done := by
  unfold Search.findings search
  rw [queue_explore, List.append_nil]

/-- A chain within the limit ends at a finding that the search made with no more handoffs. -/
theorem ChainTo.found {length : Nat} {transaction : Text}
    (chain : log.ChainTo attempts length transaction) (within : length ≤ limit) :
    ∃ finding ∈ (log.search limit attempts).done,
      finding.transaction = transaction ∧ finding.depth ≤ length := by
  have explores := log.explores_search limit attempts
  rw [← findings_search]
  induction chain with
  | seed named => exact ⟨_, explores.seeds _ named, rfl, Nat.le_refl 0⟩
  | @handoff length source target chain hands ih =>
      obtain ⟨finding, member, rfl, early⟩ := ih (by omega)
      rw [findings_search] at member
      obtain ⟨next, found, named, near⟩ := explores.closed finding member (by omega) target hands
      exact ⟨next, found, named, by omega⟩

/-- **The search is bounded reachability.** It finds the transactions to which a chain of at most
`limit` handoffs leads from a seed, and no others. -/
theorem mem_reached {transaction : Text} :
    transaction ∈ log.reached limit attempts ↔ log.Reached limit attempts transaction := by
  unfold reached
  rw [List.mem_map]
  constructor
  · intro listed
    obtain ⟨finding, member, rfl⟩ := listed
    rw [← findings_search] at member
    obtain ⟨within, chain⟩ := (log.explores_search limit attempts).chain finding member
    exact ⟨finding.depth, within, chain⟩
  · intro reached
    obtain ⟨length, within, chain⟩ := reached
    obtain ⟨finding, member, named, _⟩ := chain.found within
    exact ⟨finding, member, named⟩

end MailLog

end DeliveryTrace
