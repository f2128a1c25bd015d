import DeliveryTrace.Command.Run

/-! # Writing a report does not fail

Lines and reports nest a few steps deep only, so object notation takes every one of them. Whatever
was loaded, each task writes its whole report, in text and in object notation.
-/

namespace DeliveryTrace

/-! ## How deep reports nest -/

namespace Ron.Value

variable {items : List Value} {fields : List (Text × Value)} {depth : Nat}

theorem nestingItems_le (bounded : ∀ item ∈ items, item.nesting ≤ depth) :
    nestingItems items ≤ depth + 1 := by
  induction items with
  | nil => exact Nat.zero_le _
  | cons item items ih =>
      rw [List.forall_mem_cons] at bounded
      exact Nat.max_le.mpr ⟨Nat.succ_le_succ bounded.1, ih bounded.2⟩

theorem nestingFields_le (bounded : ∀ field ∈ fields, field.2.nesting ≤ depth) :
    nestingFields fields ≤ depth + 1 := by
  induction fields with
  | nil => exact Nat.zero_le _
  | cons field fields ih =>
      rw [List.forall_mem_cons] at bounded
      exact Nat.max_le.mpr ⟨Nat.succ_le_succ bounded.1, ih bounded.2⟩

theorem nesting_option_map_le {α : Type} {shown : α → Value}
    (bounded : ∀ value, (shown value).nesting ≤ depth) (value? : Option α) :
    (option (value?.map shown)).nesting ≤ depth + 1 := by
  cases value? with
  | none => exact Nat.zero_le _
  | some value => exact Nat.succ_le_succ (bounded value)

end Ron.Value

namespace RonReport

open Ron.Value

theorem nesting_stamp_le (shown : Stamp) : (stamp shown).nesting ≤ 1 := by
  cases shown with
  | exact moment => exact Nat.le_refl 1
  | yearless month day clock => exact Nat.le_refl 1

theorem nesting_line_le (shown : LogLine) : (line shown).nesting ≤ 3 := by
  have leaf {α : Type} {leafOf : α → Ron.Value} (flat : ∀ value, (leafOf value).nesting = 0)
      (value? : Option α) : (option (value?.map leafOf)).nesting ≤ 2 :=
    nesting_option_map_le (fun value => flat value ▸ Nat.zero_le 1) value?
  apply nestingFields_le
  simp only [List.forall_mem_cons, List.not_mem_nil, false_imp_iff, implies_true, and_true]
  exact ⟨Nat.zero_le 2, nesting_option_map_le nesting_stamp_le shown.stamp, leaf (fun _ => rfl) _,
    leaf (fun _ => rfl) _, Nat.zero_le 2, leaf (fun _ => rfl) _, leaf (fun _ => rfl) _⟩

theorem nesting_report_le (shown : Report) : (report shown).nesting ≤ 5 := by
  have lines : ∀ item ∈ shown.lines.map line, item.nesting ≤ 3 :=
    List.forall_mem_map.mpr fun line _ => nesting_line_le line
  have transactions : ∀ item ∈ shown.transactions.map Ron.Value.text, item.nesting ≤ 3 :=
    List.forall_mem_map.mpr fun _ _ => Nat.zero_le 3
  apply nestingFields_le
  simp only [List.forall_mem_cons, List.not_mem_nil, false_imp_iff, implies_true, and_true]
  exact ⟨nestingItems_le lines, nestingItems_le transactions, Nat.zero_le 4, Nat.zero_le 4⟩

theorem nesting_status_le (reports : List (Text × Report)) : (status reports).nesting ≤ 7 := by
  apply nestingItems_le
  rw [List.forall_mem_map]
  intro (message, result) _
  apply nestingItems_le
  simp only [List.forall_mem_cons, List.not_mem_nil, false_imp_iff, implies_true, and_true]
  exact ⟨Nat.zero_le 5, nesting_report_le result⟩

end RonReport

/-! ## Writes that succeed -/

namespace Run

variable {first second : Run Unit} {before after : List Text}

/-- An action succeeds and leaves just these lines behind the lines written before. -/
def Writes (action : Run Unit) (lines : List Text) : Prop :=
  ∀ written, action.run.run written = (.ok (), lines.reverse ++ written)

theorem writes_writeLine (line : Text) : Writes (writeLine line) [line] := fun _ => rfl

theorem Writes.then (leads : Writes first before) (follows : Writes second after) :
    Writes (first >>= fun _ => second) (before ++ after) := by
  intro written
  rw [ExceptT.run_bind, StateT.run_bind, leads written]
  refine (follows _).trans ?_
  rw [List.reverse_append, List.append_assoc]

theorem Writes.forM {α : Type} {write : α → Run Unit} {shown : α → Text}
    (each : ∀ item, Writes (write item) [shown item]) (items : List α) :
    Writes (items.forM write) (items.map shown) := by
  induction items with
  | nil => exact fun _ => rfl
  | cons item items ih => exact (each item).then ih

theorem writes_writeLines (lines : List Text) : Writes (writeLines lines) lines := by
  have written := Writes.forM writes_writeLine lines
  rwa [List.map_id'] at written

theorem writes_writeValue {value : Ron.Value} (shallow : value.nesting ≤ Ron.Value.nestingLimit)
    (tooDeep : Failure) (shown : Ron.Value → Text) :
    Writes (writeValue tooDeep shown value) [shown value] := by
  rw [writeValue, if_pos shallow]
  exact writes_writeLine (shown value)

end Run

/-! ## Tasks -/

namespace Surroundings

open Run

variable (settings : Settings) (window : Window)

theorem writes_trace (now : Instant) (output : OutputStyle) (identifiers : List Text) :
    Writes (trace now settings window output identifiers)
      (let report := traceReport now settings window identifiers
      match output with
      | .text => TextReport.trace settings.format report
      | .ron => [(RonReport.report report).pretty 0]) := by
  cases output with
  | text => exact writes_writeLines _
  | ron =>
      have shallow := RonReport.nesting_report_le (traceReport now settings window identifiers)
      exact writes_writeValue (Nat.le_trans shallow (by decide)) _ _

theorem writes_status (output : OutputStyle) (history : History) :
    Writes (status settings window output history)
      (let reports := statusReports settings window history
      match output with
      | .text => TextReport.status reports
      | .ron => [(RonReport.status reports).pretty 0]) := by
  cases output with
  | text => exact writes_writeLines _
  | ron =>
      have shallow := RonReport.nesting_status_le (statusReports settings window history)
      exact writes_writeValue (Nat.le_trans shallow (by decide)) _ _

theorem writes_parse (year : Int) (output : OutputStyle) :
    Writes (parse year settings window output)
      (window.lines.map fun raw =>
        let line := LogLine.ofText settings.format raw
        match output with
        | .text => TextReport.line year line
        | .ron => (RonReport.line line).compact) := by
  apply Writes.forM
  intro raw
  cases output with
  | text => exact writes_writeLine _
  | ron =>
      have shallow := RonReport.nesting_line_le (LogLine.ofText settings.format raw)
      exact writes_writeValue (Nat.le_trans shallow (by decide)) _ _

end Surroundings

end DeliveryTrace
