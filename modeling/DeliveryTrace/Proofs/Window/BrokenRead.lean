import DeliveryTrace.Proofs.Window.Lines

/-! # Reads that break off

A source is read line by line: each line is pushed as soon as its line feed was read, and a fault
that trying again does not mend ends the reading at once. The main statement says that a read which
breaks off leaves the window as a read of the complete lines alone leaves it. So the unfinished line
is lost, and lines that the window held give way to the limit only.
-/

namespace DeliveryTrace.Window

variable {own : List UInt8} {fault? : Option Text}

/-! ## Reading line by line -/

/-- The next line of a source with its line feed, and the source behind it. The last line of a
source that ends well may lack a line feed; an empty line means that nothing is left. -/
def nextLine (source : ByteSource) : Except ReadFault (List UInt8 × ByteSource) :=
  match source.bytes.dropWhile (· ≠ 0x0A) with
  | lineFeed :: rest =>
    .ok (source.bytes.takeWhile (· ≠ 0x0A) ++ [lineFeed], { source with bytes := rest })
  | [] =>
    match source.fault? with
    | none => .ok (source.bytes, { source with bytes := [] })
    | some cause => .error ⟨cause⟩

/-- A line and the source behind it make up the source. -/
theorem append_of_nextLine {source rest : ByteSource} {line : List UInt8}
    (next : nextLine source = .ok (line, rest)) : line ++ rest.bytes = source.bytes := by
  unfold nextLine at next
  cases behind : source.bytes.dropWhile (· ≠ 0x0A) with
  | cons lineFeed later =>
      rw [behind] at next
      cases next
      rw [List.append_assoc, List.singleton_append, ← behind, List.takeWhile_append_dropWhile]
  | nil =>
      rw [behind] at next
      cases ending : source.fault? with
      | none =>
          rw [ending] at next
          cases next
          exact List.append_nil _
      | some cause =>
          rw [ending] at next
          cases next

/-- Push the lines of a source one by one and count them, until nothing is left or the source
breaks off. -/
def readByLine (window : Window) (count : Nat) (source : ByteSource) :
    Window × Except ReadFault Nat :=
  match _next : nextLine source with
  | .error fault => (window, .error fault)
  | .ok ([], _) => (window, .ok count)
  | .ok (byte :: line, rest) =>
    (window.push (Utf8.decodeLossy (byte :: line))).readByLine (count + 1) rest
termination_by source.bytes.length
decreasing_by
  rw [← append_of_nextLine _next, List.length_append, List.length_cons]
  omega

theorem ne_lineFeed_of_not_mem (absent : 0x0A ∉ own) :
    ∀ byte ∈ own, decide (byte ≠ 0x0A) = true := by
  intro byte member
  rw [decide_eq_true_eq]
  rintro rfl
  exact absent member

theorem nextLine_append (absent : 0x0A ∉ own) (rest : List UInt8) :
    nextLine ⟨own ++ 0x0A :: rest, fault?⟩ = .ok (own ++ [0x0A], ⟨rest, fault?⟩) := by
  have plain := ne_lineFeed_of_not_mem absent
  have behind : (own ++ 0x0A :: rest).dropWhile (· ≠ 0x0A) = 0x0A :: rest :=
    List.dropWhile_append_of_pos plain
  have before : (own ++ 0x0A :: rest).takeWhile (· ≠ 0x0A) = own := by
    rw [List.takeWhile_append_of_pos plain, List.takeWhile_cons_of_neg (by decide),
      List.append_nil]
  unfold nextLine
  rw [behind, before]

theorem nextLine_of_not_mem (absent : 0x0A ∉ own) :
    nextLine ⟨own, fault?⟩ =
      match fault? with
      | none => .ok (own, ⟨[], none⟩)
      | some cause => .error ⟨cause⟩ := by
  have behind : own.dropWhile (· ≠ 0x0A) = [] :=
    List.dropWhile_eq_nil_iff.mpr (ne_lineFeed_of_not_mem absent)
  unfold nextLine
  rw [behind]
  cases fault? <;> rfl

/-- A pushed line loses its line feed. -/
theorem push_lineFeed (window : Window) (own : List UInt8) :
    window.push (Utf8.decodeLossy (own ++ [0x0A])) = window.append [lineText own] := by
  unfold push lineText
  rw [Utf8.decodeLossy_append own (by decide) []]
  exact congrArg (fun line => window.append [line]) (Text.dropTail_append_singleton rfl _)

/-! ## Whole reads -/

theorem readByLine_append (window : Window) (count : Nat) (absent : 0x0A ∉ own)
    (rest : List UInt8) :
    window.readByLine count ⟨own ++ 0x0A :: rest, fault?⟩ =
      (window.append [lineText own]).readByLine (count + 1) ⟨rest, fault?⟩ := by
  rw [readByLine, nextLine_append absent, ← push_lineFeed]
  cases own <;> rfl

theorem readByLine_nil (window : Window) (count : Nat) :
    window.readByLine count { bytes := [] } = (window, .ok count) := by
  rw [readByLine]
  rfl

/-- Only a source that ends well yields an unfinished line. -/
theorem sourceLines_of_fault (absent : 0x0A ∉ own) (cause : Text) :
    sourceLines ⟨own, some cause⟩ = [] := by
  simp [sourceLines, splitLines_of_not_mem absent]

/-- Lines may be pushed one by one or all at once. -/
theorem readByLine_eq (window : Window) (count : Nat) (source : ByteSource) :
    window.readByLine count source =
      (window.append (sourceLines source),
        match source.fault? with
        | none => .ok (count + (sourceLines source).length)
        | some cause => .error ⟨cause⟩) := by
  obtain ⟨bytes, fault?⟩ := source
  induction bytes using line_induction generalizing window count with
  | unfinished own absent =>
      rw [readByLine, nextLine_of_not_mem absent]
      cases fault? with
      | some cause => rw [sourceLines_of_fault absent, append_nil]
      | none =>
          cases own with
          | nil =>
              rw [sourceLines_nil, append_nil]
              rfl
          | cons byte own =>
              rw [sourceLines_of_not_mem absent (List.cons_ne_nil byte own)]
              exact readByLine_nil _ (count + 1)
  | finished own rest absent ih =>
      rw [readByLine_append window count absent, ih, append_append, sourceLines_append absent,
        List.length_cons, Nat.add_right_comm]
      rfl

theorem read_eq_readByLine (window : Window) (source : ByteSource) :
    window.read source = window.readByLine 0 source := by
  rw [readByLine_eq, Nat.zero_add]
  rfl

/-! ## Complete lines -/

/-- The bytes up to and with the last line feed. -/
def completeLines (bytes : List UInt8) : List UInt8 := bytes.rdropWhile (· ≠ 0x0A)

theorem completeLines_of_not_mem (absent : 0x0A ∉ own) : completeLines own = [] :=
  List.rdropWhile_eq_nil_iff.mpr (ne_lineFeed_of_not_mem absent)

theorem completeLines_append (own rest : List UInt8) :
    completeLines (own ++ 0x0A :: rest) = own ++ 0x0A :: completeLines rest := by
  induction rest using List.reverseRecOn with
  | nil => exact List.rdropWhile_concat_neg _ own 0x0A (by decide)
  | append_singleton rest byte ih =>
      unfold completeLines at ih ⊢
      rw [← List.cons_append, ← List.append_assoc, List.rdropWhile_concat, List.rdropWhile_concat,
        ih]
      split
      · rfl
      · rw [List.append_assoc, List.cons_append]

/-- A source that breaks off has the lines that its complete lines have. -/
theorem sourceLines_eq_completeLines (bytes : List UInt8) (cause : Text) :
    sourceLines ⟨bytes, some cause⟩ = sourceLines { bytes := completeLines bytes } := by
  induction bytes using line_induction with
  | unfinished own absent =>
      rw [sourceLines_of_fault absent, completeLines_of_not_mem absent, sourceLines_nil]
  | finished own rest absent ih =>
      rw [sourceLines_append absent, ih, completeLines_append, sourceLines_append absent]

/-- Each line feed completes a line. -/
theorem length_sourceLines_completeLines (bytes : List UInt8) :
    (sourceLines { bytes := completeLines bytes }).length = bytes.count 0x0A := by
  induction bytes using line_induction with
  | unfinished own absent =>
      rw [completeLines_of_not_mem absent, sourceLines_nil, List.count_eq_zero_of_not_mem absent]
      rfl
  | finished own rest absent ih =>
      rw [completeLines_append, sourceLines_append absent, List.length_cons, ih, List.count_append,
        List.count_eq_zero_of_not_mem absent, List.count_cons_self, Nat.zero_add]

/-! ## Broken reads -/

/-- Lines are dropped only from a window that is full afterwards. -/
theorem exists_dropped_append (window : Window) (added : List Text) :
    ∃ dropped, dropped ++ (window.append added).lines = window.lines ++ added ∧
      (dropped ≠ [] → window.limit = some (window.append added).lines.length) := by
  have kept : (window.append added).lines = keepNewest window.limit (window.lines ++ added) := rfl
  rw [kept]
  cases window.limit with
  | none => exact ⟨[], rfl, fun dropped => absurd rfl dropped⟩
  | some most =>
      refine ⟨(window.lines ++ added).take ((window.lines ++ added).length - most),
        List.take_append_drop _ _, ?_⟩
      intro dropped
      have excess := mt List.take_eq_nil_iff.mpr dropped
      rw [not_or, Nat.sub_eq_zero_iff_le, Nat.not_le] at excess
      rw [keepNewest, List.length_drop, Nat.sub_sub_self (Nat.le_of_lt excess.1)]

/-- **A read that breaks off leaves the complete lines.** It answers with the fault, and the window
is as after a successful read of the bytes up to the last line feed, one line for each line feed; so
it does not change if there is none. Pushing the lines one by one comes to the same. The unfinished
line is not appended, and only the limit drops lines that were held. -/
theorem read_of_fault (window : Window) (bytes : List UInt8) (cause : Text) :
    let complete := window.read { bytes := completeLines bytes }
    let broken := window.read { bytes, fault? := some cause }
    broken = (complete.1, .error ⟨cause⟩) ∧ complete.2 = .ok (bytes.count 0x0A) ∧
    (window.readByLine 0 { bytes, fault? := some cause } = broken ∧
      window.readByLine 0 { bytes := completeLines bytes } = complete) ∧
    (0x0A ∉ bytes → broken.1 = window) ∧
    ∃ dropped, dropped ++ broken.1.lines =
        window.lines ++ Text.lines (Utf8.decodeLossy (completeLines bytes)) ∧
      (dropped ≠ [] → window.limit = some broken.1.lines.length) := by
  intro complete broken
  have lines := sourceLines_eq_completeLines bytes cause
  have left : broken.1 = complete.1 := congrArg window.append lines
  refine ⟨Prod.ext left rfl, congrArg Except.ok (length_sourceLines_completeLines bytes),
    ⟨(read_eq_readByLine _ _).symm, (read_eq_readByLine _ _).symm⟩, ?_, ?_⟩
  · intro absent
    have nothing : sourceLines ⟨bytes, some cause⟩ = [] := sourceLines_of_fault absent cause
    exact (congrArg window.append nothing).trans window.append_nil
  · rw [left, ← sourceLines_eq_lines]
    exact exists_dropped_append window _

/-- One line is complete and takes the place of the oldest one; without it nothing changes. -/
theorem read_of_fault_unfinished :
    let window := (Window.ofLines [['x'], ['y']]).withLimit (some 2)
    let broken := window.read { bytes := [0x61, 0x0A, 0x62], fault? := some ['e'] }
    broken.1.lines = [['y'], ['a']] ∧ broken.2 = .error ⟨['e']⟩ ∧
      0x0A ∉ ([0x62] : List UInt8) ∧
      (window.read { bytes := [0x62], fault? := some ['e'] }).1 = window := by
  intro window broken
  obtain ⟨left, _, _, _, _⟩ := read_of_fault window [0x61, 0x0A, 0x62] ['e']
  have absent : 0x0A ∉ ([0x62] : List UInt8) := by decide
  obtain ⟨_, _, _, unchanged, _⟩ := read_of_fault window [0x62] ['e']
  refine ⟨?_, congrArg Prod.snd left, absent, unchanged absent⟩
  have lines : broken.1.lines = _ := congrArg (fun read => read.1.lines) left
  exact lines.trans (by decide)

end DeliveryTrace.Window
