import Mathlib.Data.List.Basic

/-! # First occurrences

Without its duplicates a list has each item once, in the order of the first occurrences. The main
statement says this of items that are picked from the entries of a list: they come in the order of
the first entries that yield them.
-/

namespace DeliveryTrace

theorem nodup_eraseDups {α : Type} [BEq α] [LawfulBEq α] (list : List α) :
    list.eraseDups.Nodup :=
  match list with
  | [] => List.nodup_nil
  | first :: rest => by
    rw [List.eraseDups_cons, List.nodup_cons]
    refine ⟨?_, nodup_eraseDups _⟩
    simp [List.mem_eraseDups]
termination_by list.length
decreasing_by exact Nat.lt_succ_of_le (List.length_filter_le _ rest)

variable {α β : Type} [BEq β] [LawfulBEq β] [DecidableEq β] {first second : β}

/-- The entries that yield two items come in the order of these items. -/
theorem findIdx_lt_of_filterMap {pick : α → Option β} {list : List α}
    (earlier : (list.filterMap pick).idxOf first < (list.filterMap pick).idxOf second) :
    (list.findIdx fun entry => pick entry = some first) <
      list.findIdx fun entry => pick entry = some second := by
  induction list with
  | nil => exact earlier
  | cons entry list ih =>
      rw [List.findIdx_cons, List.findIdx_cons]
      cases picked : pick entry with
      | none =>
          rw [List.filterMap_cons_none picked] at earlier
          exact Nat.succ_lt_succ (ih earlier)
      | some item =>
          rw [List.filterMap_cons_some picked] at earlier
          by_cases isFirst : item = first
          · subst isFirst
            by_cases isSecond : item = second
            · subst isSecond
              exact absurd earlier (Nat.lt_irrefl _)
            · simp [isSecond]
          · by_cases isSecond : item = second
            · subst isSecond
              rw [List.idxOf_cons_self] at earlier
              exact absurd earlier (Nat.not_lt_zero _)
            · rw [List.idxOf_cons_ne _ isFirst, List.idxOf_cons_ne _ isSecond] at earlier
              simpa [isFirst, isSecond] using ih (Nat.lt_of_succ_lt_succ earlier)

/-- Leaving other items out keeps the order of two first occurrences. -/
theorem idxOf_lt_of_filter (keep : β → Bool) (keepsFirst : keep first = true)
    (keepsSecond : keep second = true) {list : List β}
    (earlier : (list.filter keep).idxOf first < (list.filter keep).idxOf second) :
    list.idxOf first < list.idxOf second := by
  have same {item : β} (kept : keep item = true) :
      (fun entry => decide (Option.guard keep entry = some item)) = (· == item) := by
    funext entry
    by_cases equal : entry = item
    · simp [equal, Option.guard, kept]
    · simp [equal, Option.guard]
  rw [← List.filterMap_eq_filter] at earlier
  have found := findIdx_lt_of_filterMap earlier
  rwa [same keepsFirst, same keepsSecond] at found

/-- Distinct items come in the order of their first occurrences. -/
theorem pairwise_idxOf_eraseDups (list : List β) :
    list.eraseDups.Pairwise fun first second => list.idxOf first < list.idxOf second := by
  match list with
  | [] => exact List.Pairwise.nil
  | item :: list =>
      have others : ∀ other ∈ (list.filter fun later => !later == item).eraseDups,
          item ≠ other ∧ (!other == item) = true := by
        intro other member
        rw [List.mem_eraseDups, List.mem_filter] at member
        refine ⟨?_, member.2⟩
        rintro rfl
        simp at member
      rw [List.eraseDups_cons, List.pairwise_cons]
      constructor
      · intro other member
        rw [List.idxOf_cons_self, List.idxOf_cons_ne _ (others other member).1]
        exact Nat.succ_pos _
      · have later := pairwise_idxOf_eraseDups (list.filter fun later => !later == item)
        refine later.imp_of_mem fun {first second} isFirst isSecond earlier => ?_
        rw [List.idxOf_cons_ne _ (others first isFirst).1,
          List.idxOf_cons_ne _ (others second isSecond).1]
        apply Nat.succ_lt_succ
        exact idxOf_lt_of_filter (fun later => !later == item) (others first isFirst).2
          (others second isSecond).2 earlier
termination_by list.length
decreasing_by exact Nat.lt_succ_of_le (List.length_filter_le _ _)

/-- Distinct items come in the order of the first entries that yield them. -/
theorem pairwise_findIdx_eraseDups (pick : α → Option β) (list : List α) :
    (list.filterMap pick).eraseDups.Pairwise fun first second =>
      (list.findIdx fun entry => pick entry = some first) <
        list.findIdx fun entry => pick entry = some second :=
  (pairwise_idxOf_eraseDups (list.filterMap pick)).imp findIdx_lt_of_filterMap

end DeliveryTrace
