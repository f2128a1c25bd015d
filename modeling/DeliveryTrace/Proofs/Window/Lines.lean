import DeliveryTrace.Command.Load
import DeliveryTrace.Proofs.Text.Cut
import DeliveryTrace.Proofs.Text.Utf8
import DeliveryTrace.Proofs.Window.Retention

/-! # Reading is cutting the decoded text into lines

Bytes are cut at line feeds first and decoded line by line. The main statement says that this yields
the lines of the text that the whole input decodes to. So a line depends on its own bytes alone,
carriage returns in front of line feeds do not matter, and several files are read as one
concatenation of lines.
-/

namespace DeliveryTrace

/-- The lines of a text: its pieces between line feeds, without an empty last piece and without
carriage returns at their ends. -/
def Text.lines (text : Text) : List Text :=
  let pieces := pieces '\n' text
  (if pieces.getLast? = some [] then pieces.dropLast else pieces).map (dropTail (· = '\r'))

namespace Text

variable {own rest : Text}

/-! ## The lines of a text -/

/-- What no line feed ends is a line too. -/
theorem lines_of_not_mem (absent : '\n' ∉ own) (nonempty : own ≠ []) :
    lines own = [dropTail (· = '\r') own] := by
  have unfinished : [own].getLast? ≠ some [] := fun same => nonempty (Option.some.inj same)
  unfold lines
  simp only [pieces_of_not_mem absent, if_neg unfinished, List.map_singleton]

theorem lines_append (absent : '\n' ∉ own) (rest : Text) :
    lines (own ++ '\n' :: rest) = dropTail (· = '\r') own :: lines rest := by
  have nonempty := pieces_ne_nil '\n' rest
  unfold lines
  simp only [pieces_append absent, List.getLast?_cons_of_ne_nil nonempty,
    List.dropLast_cons_of_ne_nil nonempty]
  split <;> rfl

/-- A tail is dropped by what the test says about its characters. -/
theorem dropTail_congr {drop other : Char → Bool} {text : Text}
    (same : ∀ c ∈ text, drop c = other c) : dropTail drop text = dropTail other text := by
  induction text using List.reverseRecOn with
  | nil => rfl
  | append_singleton text c ih =>
      have last : drop c = other c := same c (by simp)
      have before := ih fun c member => same c (List.mem_append_left _ member)
      unfold dropTail at before ⊢
      rw [List.reverse_append, List.reverse_singleton, List.singleton_append]
      rw [List.dropWhile_cons, List.dropWhile_cons, last]
      split
      · exact before
      · rfl

theorem dropTail_append_singleton {drop : Char → Bool} {c : Char} (dropped : drop c = true)
    (text : Text) : dropTail drop (text ++ [c]) = dropTail drop text := by
  unfold dropTail
  rw [List.reverse_append, List.reverse_singleton, List.singleton_append,
    List.dropWhile_cons_of_pos dropped]

end Text

namespace Window

/-- The line that bytes without a line feed are read as. -/
def lineText (bytes : List UInt8) : Text := Text.dropTail isLineEnd (Utf8.decodeLossy bytes)

variable {own before after : List UInt8}

/-! ## Lines of bytes -/

/-- Every byte sequence is unfinished or starts with a line that a line feed ends. -/
theorem line_induction {motive : List UInt8 → Prop}
    (unfinished : ∀ own, 0x0A ∉ own → motive own)
    (finished : ∀ own rest, 0x0A ∉ own → motive rest → motive (own ++ 0x0A :: rest))
    (bytes : List UInt8) : motive bytes := by
  by_cases ends : 0x0A ∈ bytes
  · obtain ⟨own, rest, same, absent⟩ := List.eq_append_cons_of_mem ends
    have shorter : rest.length < bytes.length := by
      rw [same, List.length_append, List.length_cons]
      omega
    rw [same]
    exact finished own rest absent (line_induction unfinished finished rest)
  · exact unfinished bytes ends
termination_by bytes.length

theorem foldl_addByte_of_not_mem (absent : 0x0A ∉ own) (complete : List (List UInt8))
    (tail : List UInt8) :
    own.foldl addByte (complete, tail) = (complete, own.reverse ++ tail) := by
  induction own generalizing tail with
  | nil => rfl
  | cons byte own ih =>
      rw [List.mem_cons, not_or] at absent
      rw [List.foldl_cons, addByte, if_neg (Ne.symm absent.1), ih absent.2, List.reverse_cons,
        List.append_assoc]
      rfl

/-- Lines that are complete are carried along. -/
theorem foldl_addByte_append (bytes : List UInt8) (complete earlier : List (List UInt8))
    (tail : List UInt8) :
    bytes.foldl addByte (complete ++ earlier, tail) =
      ((bytes.foldl addByte (complete, tail)).1 ++ earlier,
        (bytes.foldl addByte (complete, tail)).2) := by
  induction bytes generalizing complete tail with
  | nil => rfl
  | cons byte bytes ih =>
      rw [List.foldl_cons, List.foldl_cons, addByte, addByte]
      split
      · exact ih (tail.reverse :: complete) []
      · exact ih complete (byte :: tail)

theorem splitLines_of_not_mem (absent : 0x0A ∉ own) : splitLines own = ([], own) := by
  simp [splitLines, foldl_addByte_of_not_mem absent]

theorem splitLines_append (absent : 0x0A ∉ own) (rest : List UInt8) :
    splitLines (own ++ 0x0A :: rest) = (own :: (splitLines rest).1, (splitLines rest).2) := by
  have carried := foldl_addByte_append rest [] [own] []
  rw [List.nil_append] at carried
  unfold splitLines
  rw [List.foldl_append, foldl_addByte_of_not_mem absent, List.append_nil, List.foldl_cons, addByte,
    if_pos rfl, List.reverse_reverse, carried]
  simp

theorem sourceLines_nil : sourceLines { bytes := [] } = [] := rfl

theorem sourceLines_of_not_mem (absent : 0x0A ∉ own) (nonempty : own ≠ []) :
    sourceLines { bytes := own } = [lineText own] := by
  simp [sourceLines, splitLines_of_not_mem absent, nonempty, lineText]

theorem sourceLines_append (absent : 0x0A ∉ own) (rest : List UInt8) {fault? : Option Text} :
    sourceLines ⟨own ++ 0x0A :: rest, fault?⟩ = lineText own :: sourceLines ⟨rest, fault?⟩ := by
  simp [sourceLines, splitLines_append absent, lineText]

/-- Bytes whose last line is finished are read apart from what follows. -/
theorem sourceLines_append_of_finished (finished : ∀ byte ∈ before.getLast?, byte = 0x0A)
    (rest : List UInt8) :
    sourceLines { bytes := before ++ rest } =
      sourceLines { bytes := before } ++ sourceLines { bytes := rest } := by
  induction before using line_induction with
  | unfinished own absent =>
      cases last : own.getLast? with
      | none =>
          rw [List.getLast?_eq_none_iff.mp last]
          rfl
      | some byte =>
          rw [← finished byte last] at absent
          exact absurd (List.mem_of_getLast? last) absent
  | finished own before absent ih =>
      have ends : ∀ byte ∈ before.getLast?, byte = 0x0A := by
        intro byte last
        apply finished byte
        rw [List.getLast?_append, List.getLast?_cons, Option.mem_def.mp last]
        rfl
      rw [List.append_assoc, List.cons_append, sourceLines_append absent, ih ends,
        sourceLines_append absent, List.cons_append]

/-! ## Lines of the decoded text -/

theorem lineText_eq (absent : 0x0A ∉ own) :
    lineText own = Text.dropTail (· = '\r') (Utf8.decodeLossy own) := by
  have other := Utf8.lineFeed_not_mem_decodeLossy absent
  apply Text.dropTail_congr
  intro c member
  have visible : c ≠ '\n' := by
    rintro rfl
    exact other member
  simp [isLineEnd, visible]

/-- Cutting and decoding commute. -/
theorem sourceLines_eq_lines (bytes : List UInt8) :
    sourceLines { bytes } = Text.lines (Utf8.decodeLossy bytes) := by
  induction bytes using line_induction with
  | unfinished own absent =>
      by_cases empty : own = []
      · rw [empty]
        rfl
      · have shown := mt Utf8.decodeLossy_eq_nil_iff.mp empty
        rw [sourceLines_of_not_mem absent empty, lineText_eq absent,
          Text.lines_of_not_mem (Utf8.lineFeed_not_mem_decodeLossy absent) shown]
  | finished own rest absent ih =>
      rw [sourceLines_append absent, Utf8.decodeLossy_append own (by decide) rest, ih,
        lineText_eq absent]
      exact (Text.lines_append (Utf8.lineFeed_not_mem_decodeLossy absent) _).symm

/-! ## Other line ends and other bytes -/

/-- The bytes with a carriage return in front of each line feed. -/
def withReturns (bytes : List UInt8) : List UInt8 :=
  bytes.flatMap fun byte => if byte = 0x0A then [0x0D, 0x0A] else [byte]

theorem withReturns_of_not_mem (absent : 0x0A ∉ own) : withReturns own = own := by
  induction own with
  | nil => rfl
  | cons byte own ih =>
      rw [List.mem_cons, not_or] at absent
      rw [withReturns, List.flatMap_cons, if_neg (Ne.symm absent.1)]
      exact congrArg (byte :: ·) (ih absent.2)

theorem lineText_append_return (own : List UInt8) : lineText (own ++ [0x0D]) = lineText own := by
  unfold lineText
  rw [Utf8.decodeLossy_append own (by decide) []]
  exact Text.dropTail_append_singleton rfl _

theorem sourceLines_withReturns (bytes : List UInt8) :
    sourceLines { bytes := withReturns bytes } = sourceLines { bytes } := by
  induction bytes using line_induction with
  | unfinished own absent => rw [withReturns_of_not_mem absent]
  | finished own rest absent ih =>
      have other : 0x0A ∉ own ++ [0x0D] := by simp [absent]
      have parts : withReturns (own ++ 0x0A :: rest) =
          (own ++ [0x0D]) ++ 0x0A :: withReturns rest := by
        unfold withReturns
        rw [List.flatMap_append, List.flatMap_cons, if_pos rfl]
        change withReturns own ++ _ = _
        rw [withReturns_of_not_mem absent, List.append_assoc]
        rfl
      rw [parts, sourceLines_append other, lineText_append_return, sourceLines_append absent, ih]

/-- At every other place stands the same line, whichever line stands at this one. -/
theorem getElem?_append_cons_of_ne {lines : List Text} {position : Nat}
    (other : position ≠ lines.length) (line changed : Text) (later : List Text) :
    (lines ++ line :: later)[position]? = (lines ++ changed :: later)[position]? := by
  rcases Nat.lt_or_gt_of_ne other with earlier | behind
  · rw [List.getElem?_append_left earlier, List.getElem?_append_left earlier]
  · obtain ⟨distance, rfl⟩ := Nat.exists_eq_add_of_lt behind
    rw [List.getElem?_append_right (by omega), List.getElem?_append_right (by omega),
      Nat.add_assoc, Nat.add_sub_cancel_left, List.getElem?_cons_succ, List.getElem?_cons_succ]

/-- The lines around one line of bytes do not depend on it. -/
theorem getElem?_sourceLines (finished : ∀ byte ∈ before.getLast?, byte = 0x0A)
    (ends : ∀ byte ∈ after.head?, byte = 0x0A) (absent : 0x0A ∉ own) {position : Nat}
    (other : position ≠ (sourceLines { bytes := before }).length) :
    (sourceLines { bytes := before ++ own ++ after })[position]? =
      (sourceLines { bytes := before } ++
        [] :: sourceLines { bytes := after.tail })[position]? := by
  rw [List.append_assoc, sourceLines_append_of_finished finished]
  cases after with
  | nil =>
      rw [List.append_nil, List.tail_nil, sourceLines_nil]
      by_cases empty : own = []
      · rw [empty, sourceLines_nil, List.append_nil]
        rcases Nat.lt_or_gt_of_ne other with earlier | behind
        · rw [List.getElem?_append_left earlier]
        · have beyond : (sourceLines { bytes := before } ++ [[]]).length ≤ position := by
            rwa [List.length_append]
          rw [List.getElem?_eq_none (Nat.le_of_lt behind), List.getElem?_eq_none beyond]
      · rw [sourceLines_of_not_mem absent empty]
        exact getElem?_append_cons_of_ne other _ _ []
  | cons byte rest =>
      obtain rfl := ends byte rfl
      rw [sourceLines_append absent, List.tail_cons]
      exact getElem?_append_cons_of_ne other _ _ _

/-! ## Several files -/

theorem foldlM_addLog {files : Files} {logs : List (Text × List UInt8)}
    (found : ∀ log ∈ logs, files log.1 = .file log.2) (window : Window) :
    (logs.map Prod.fst).foldlM files.addLog window =
      .ok (window.append (logs.flatMap fun log => sourceLines { bytes := log.2 })) := by
  induction logs generalizing window with
  | nil => exact congrArg Except.ok window.append_nil.symm
  | cons log logs ih =>
      rw [List.forall_mem_cons] at found
      have added : files.addLog window log.1 =
          .ok (window.append (sourceLines { bytes := log.2 })) := by
        rw [Files.addLog, found.1]
        rfl
      rw [List.map_cons, List.foldlM_cons, added, List.flatMap_cons, ← append_append]
      exact ih found.2 _

/-- **Reading is cutting the decoded text into lines.** A read appends the lines of the text that
the whole input decodes to, and it answers their number whatever the limit leaves. A changed line
leaves all other lines alone, and so do carriage returns in front of the line feeds. A window of
several files has the newest of all their lines; a line ends where its file ends. -/
theorem read_eq_lines :
    (∀ (window : Window) (bytes : List UInt8),
      let lines := Text.lines (Utf8.decodeLossy bytes)
      (window.read { bytes }).1.limit = window.limit ∧
        (window.read { bytes }).1.lines = keepNewest window.limit (window.lines ++ lines) ∧
        (window.read { bytes }).2 = .ok lines.length) ∧
    (∀ before own changed after : List UInt8, (∀ byte ∈ before.getLast?, byte = 0x0A) →
      (∀ byte ∈ after.head?, byte = 0x0A) → 0x0A ∉ own → 0x0A ∉ changed →
      ∀ position, position ≠ (sourceLines { bytes := before }).length →
        (sourceLines { bytes := before ++ own ++ after })[position]? =
          (sourceLines { bytes := before ++ changed ++ after })[position]?) ∧
    (∀ bytes : List UInt8,
      sourceLines { bytes := withReturns bytes } = sourceLines { bytes }) ∧
    ∀ (files : Files) (input : List UInt8) (limit : Option Nat) (logs : List (Text × List UInt8)),
      (∀ log ∈ logs, files log.1 = .file log.2) →
      ∃ window, files.window input limit (logs.map Prod.fst) = .ok window ∧
        window.lines = keepNewest limit
          ((if logs = [] then [input] else logs.map Prod.snd).flatMap fun bytes =>
            Text.lines (Utf8.decodeLossy bytes)) := by
  refine ⟨?_, ?_, sourceLines_withReturns, ?_⟩
  · intro window bytes lines
    have same : sourceLines { bytes } = lines := sourceLines_eq_lines bytes
    unfold read
    rw [same]
    exact ⟨rfl, rfl, rfl⟩
  · intro before own changed after finished ends absent other position elsewhere
    rw [getElem?_sourceLines finished ends absent elsewhere,
      getElem?_sourceLines finished ends other elsewhere]
  · intro files input limit logs found
    simp only [← sourceLines_eq_lines]
    by_cases unnamed : logs = []
    · subst unnamed
      refine ⟨_, rfl, ?_⟩
      change keepNewest limit (keepNewest limit [] ++ _) = _
      rw [keepNewest_append, if_pos rfl, List.flatMap_singleton]
      rfl
    · have loaded := foldlM_addLog found (({} : Window).withLimit limit)
      refine ⟨_, (if_neg (mt List.map_eq_nil_iff.mp unnamed)).trans loaded, ?_⟩
      change keepNewest limit (keepNewest limit [] ++ _) = _
      rw [keepNewest_append, if_neg unnamed, List.flatMap_map]
      rfl

/-- An ill-formed byte, a carriage return and a file without a final line feed. -/
theorem read_eq_lines_illFormed :
    let files : Files := fun path =>
      if path = ['a'] then .file [0x61, 0x0A, 0xE9, 0x0D, 0x0A, 0x62] else .file [0x63]
    (sourceLines { bytes := [0x61, 0x0A] ++ [0xE9, 0x0D] ++ [0x0A, 0x62] })[2]? =
        (sourceLines { bytes := [0x61, 0x0A] ++ [0xC3] ++ [0x0A, 0x62] })[2]? ∧
      ∃ window, files.window [] (some 3) [['a'], ['b']] = .ok window ∧
        window.lines = [['\uFFFD'], ['b'], ['c']] := by
  intro files
  obtain ⟨_, changed, _, several⟩ := read_eq_lines
  have finished : ∀ byte ∈ ([0x61, 0x0A] : List UInt8).getLast?, byte = 0x0A := by
    rintro byte ⟨⟩
    rfl
  have ends : ∀ byte ∈ ([0x0A, 0x62] : List UInt8).head?, byte = 0x0A := by
    rintro byte ⟨⟩
    rfl
  refine ⟨changed _ _ _ _ finished ends (by decide) (by decide) 2 (by decide), ?_⟩
  obtain ⟨window, loaded, newest⟩ := several files [] (some 3)
    [(['a'], [0x61, 0x0A, 0xE9, 0x0D, 0x0A, 0x62]), (['b'], [0x63])] (by simp [files])
  refine ⟨window, loaded, newest.trans ?_⟩
  decide

end Window

end DeliveryTrace
