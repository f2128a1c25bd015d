import DeliveryTrace.Report
import Mathlib.Logic.Relation

/-! # The verdict and the lines that count

A line counts towards the verdict if it reports the fate of a delivery attempt, or if it is an
acceptance and no line reports the fate of a delivery attempt of its transaction. The main statement
says that the verdict is the outcome of the newest such line that has one, so that lines that do not
count may come, go and move freely.
-/

namespace DeliveryTrace

namespace LogLine

/-- The line reports the fate of a delivery attempt of the transaction. -/
def Concludes (line : LogLine) (transaction : Text) : Prop :=
  line.direction.isOutcome ∧ line.transaction = some transaction

instance (line : LogLine) (transaction : Text) : Decidable (line.Concludes transaction) :=
  inferInstanceAs (Decidable (_ ∧ _))

/-- The line counts towards the verdict on some lines. -/
def IsEffective (line : LogLine) (lines : List LogLine) : Prop :=
  line.direction.isOutcome ∨
    line.direction = .inboundAccept ∧
      ∀ transaction ∈ line.transaction, ∀ report ∈ lines, ¬ report.Concludes transaction

/-- The line does not count: it ends a transaction or tells nothing, or it accepts a transaction
with a delivery attempt whose fate some line reports. -/
def IsIdle (line : LogLine) (lines : List LogLine) : Prop :=
  line.direction = .removed ∨ line.direction = .unparseable ∨
    line.direction = .inboundAccept ∧
      ∃ transaction ∈ line.transaction, ∃ report ∈ lines, report.Concludes transaction

instance (line : LogLine) (lines : List LogLine) : Decidable (line.IsEffective lines) :=
  inferInstanceAs (Decidable (_ ∨ _ ∧ ∀ _ ∈ _, ∀ _ ∈ _, ¬ _))

/-- A line either counts or does not. -/
theorem not_isEffective_iff {line : LogLine} {lines : List LogLine} :
    ¬ line.IsEffective lines ↔ line.IsIdle lines := by
  unfold IsEffective IsIdle
  cases line.direction <;> simp [Direction.isOutcome]

end LogLine

/-- The lines that count towards the verdict, in log order. -/
def effective (lines : List LogLine) : List LogLine :=
  lines.filter fun line => line.IsEffective lines

/-- The second list is the first one with one more line, which does not count. -/
def AddsIdle (lines more : List LogLine) : Prop :=
  ∃ before line after, lines = before ++ after ∧ more = before ++ line :: after ∧
    line.IsIdle lines

variable {lines : List LogLine} {line : LogLine}

/-! ## Lines that count -/

theorem mem_concluded {transaction : Text} :
    transaction ∈ concluded lines ↔ ∃ report ∈ lines, report.Concludes transaction := by
  simp only [concluded, List.mem_filterMap, List.mem_filter, LogLine.Concludes, and_assoc]

theorem isSuperseded_iff :
    line.isSuperseded (concluded lines) ↔
      line.direction = .inboundAccept ∧
        ∃ transaction ∈ line.transaction, ∃ report ∈ lines, report.Concludes transaction := by
  unfold LogLine.isSuperseded
  rw [Bool.and_eq_true, decide_eq_true_eq, Option.any_eq_true]
  simp only [List.contains_iff_mem, mem_concluded, Option.mem_def]

/-- Lines that end a transaction or tell nothing have no outcome anyway. -/
theorem superseded_eq_effective (line : LogLine) (lines : List LogLine) :
    (if line.isSuperseded (concluded lines) then none else line.outcome?) =
      if line.IsEffective lines then line.outcome? else none := by
  by_cases counts : line.IsEffective lines
  · have current : ¬ line.isSuperseded (concluded lines) := by
      rw [isSuperseded_iff]
      rintro ⟨accepting, transaction, owned, report, member, concludes⟩
      rcases counts with outcome | ⟨_, unanswered⟩
      · rw [accepting] at outcome
        cases outcome
      · exact unanswered transaction owned report member concludes
    rw [if_pos counts, if_neg current]
  · rw [if_neg counts]
    rcases LogLine.not_isEffective_iff.mp counts with removed | unread | superseded
    · simp [LogLine.outcome?, removed]
    · simp [LogLine.outcome?, unread]
    · rw [if_pos (isSuperseded_iff.mpr superseded)]

/-- The verdict is the outcome of the newest line that counts and has an outcome. -/
theorem ofLines_eq_getLast (lines : List LogLine) :
    Status.ofLines lines =
      (((effective lines).filterMap LogLine.outcome?).getLast?).getD .unknown := by
  unfold Status.ofLines effective
  simp only [superseded_eq_effective]
  rw [List.filterMap_filter, List.getLast?_filterMap]
  simp

theorem outcome?_ne_unknown (line : LogLine) : line.outcome? ≠ some .unknown := by
  unfold LogLine.outcome?
  cases line.direction with
  | outboundRelay =>
      cases line.replyCode with
      | none => simp
      | some code => grind
  | inboundAccept | removed | deferred | bouncedNotify | unparseable => simp

/-- The verdict is open exactly if no line that counts has an outcome. -/
theorem ofLines_eq_unknown_iff (lines : List LogLine) :
    Status.ofLines lines = .unknown ↔ ∀ line ∈ effective lines, line.outcome? = none := by
  rw [ofLines_eq_getLast]
  cases newest : ((effective lines).filterMap LogLine.outcome?).getLast? with
  | none =>
      rw [List.getLast?_eq_none_iff, List.filterMap_eq_nil_iff] at newest
      exact iff_of_true rfl newest
  | some status =>
      obtain ⟨line, member, found⟩ := List.mem_filterMap.mp (List.mem_of_getLast? newest)
      constructor
      · rintro rfl
        exact absurd found (outcome?_ne_unknown line)
      · intro silent
        cases (silent line member).symm.trans found

/-- Behind a verdict that says more than `sent` stands a line that reports a fate. -/
theorem exists_outcome_of_ofLines
    (fate : Status.ofLines lines ∈ [Status.delivered, .deferred, .failed]) :
    ∃ line ∈ lines, line.direction.isOutcome ∧ line.outcome? ≠ none := by
  rw [ofLines_eq_getLast] at fate
  cases newest : ((effective lines).filterMap LogLine.outcome?).getLast? with
  | none =>
      rw [newest] at fate
      exact absurd fate (by decide)
  | some status =>
      rw [newest, Option.getD_some] at fate
      obtain ⟨line, counted, found⟩ := List.mem_filterMap.mp (List.mem_of_getLast? newest)
      obtain ⟨member, counts⟩ := List.mem_filter.mp counted
      refine ⟨line, member, ?_, by simp [found]⟩
      rcases of_decide_eq_true counts with outcome | ⟨accepting, _⟩
      · exact outcome
      · rw [LogLine.outcome?, accepting] at found
        cases found
        exact absurd fate (by decide)

/-- A line that reports a fate always counts. -/
theorem ofLines_ne_unknown (member : line ∈ lines) (outcome : line.direction.isOutcome)
    (told : line.outcome? ≠ none) : Status.ofLines lines ≠ .unknown := by
  rw [Ne, ofLines_eq_unknown_iff]
  intro silent
  exact told (silent line (List.mem_filter.mpr ⟨member, decide_eq_true (.inl outcome)⟩))

/-! ## Lines that do not count -/

/-- One more line that does not count leaves the status of every line as it was. -/
theorem AddsIdle.isEffective_iff {more : List LogLine} (adds : AddsIdle lines more) :
    line.IsEffective more ↔ line.IsEffective lines := by
  obtain ⟨before, idle, after, rfl, rfl, silent⟩ := adds
  have concludes (transaction : Text) : ¬ idle.Concludes transaction := by
    rintro ⟨outcome, _⟩
    exact LogLine.not_isEffective_iff.mpr silent (.inl outcome)
  simp [LogLine.IsEffective, or_imp, forall_and, concludes]

theorem AddsIdle.effective_eq {more : List LogLine} (adds : AddsIdle lines more) :
    effective more = effective lines := by
  unfold effective
  simp only [adds.isEffective_iff]
  obtain ⟨before, idle, after, rfl, rfl, silent⟩ := adds
  rw [List.filter_append, List.filter_append, List.filter_cons_of_neg]
  simpa using LogLine.not_isEffective_iff.mpr silent

/-- Lines that do not count may come and go, one after the other. -/
theorem effective_eq_of_eqvGen {other : List LogLine}
    (rearranged : Relation.EqvGen AddsIdle lines other) : effective lines = effective other := by
  induction rearranged with
  | rel lines more adds => exact adds.effective_eq.symm
  | refl lines => rfl
  | symm lines other _ ih => exact ih.symm
  | trans lines middle other _ _ first second => exact first.trans second

/-- **The newest line that counts decides.** The verdict is the outcome of the newest line that
counts and has an outcome, and it is open if there is none. So lists of lines with the same lines
that count have the same verdict, whatever the attempts; and adding, dropping and moving lines that
do not count changes nothing. -/
theorem status_ofLines (lines : List LogLine) (attempts : List Attempt) :
    (Report.ofLines lines attempts).status =
        (((effective lines).filterMap LogLine.outcome?).getLast?).getD .unknown ∧
      ((Report.ofLines lines attempts).status = .unknown ↔
        ∀ line ∈ effective lines, line.outcome? = none) ∧
      (∀ other resent, effective other = effective lines →
        (Report.ofLines other resent).status = (Report.ofLines lines attempts).status) ∧
      ∀ other resent, Relation.EqvGen AddsIdle lines other →
        (Report.ofLines other resent).status = (Report.ofLines lines attempts).status := by
  have same (other : List LogLine) (resent : List Attempt)
      (agree : effective other = effective lines) :
      (Report.ofLines other resent).status = (Report.ofLines lines attempts).status := by
    simp only [Report.ofLines, ofLines_eq_getLast, agree]
  refine ⟨ofLines_eq_getLast lines, ofLines_eq_unknown_iff lines, same, ?_⟩
  intro other resent rearranged
  exact same other resent (effective_eq_of_eqvGen rearranged).symm

/-- A delivery may be logged before the acceptance of its transaction. -/
example :
    Status.ofLines
      [{ raw := [], transaction := some ['1'], direction := .outboundRelay, replyCode := some 250 },
        { raw := [], transaction := some ['1'], direction := .inboundAccept }] = .delivered := by
  decide

end DeliveryTrace
