import DeliveryTrace.Proofs.Text.Word

/-! # Words and the gaps between them

Two words may have any blanks between them, an ASCII blank first. Words with a gap behind each are
read back one by one. Conversely a word that something follows is read whole, and a gap stands
behind it; so reading it does not depend on what follows the gap.
-/

namespace DeliveryTrace.Text

/-- What may separate two words: an ASCII blank and any blanks behind it. -/
def IsGap (gap : Text) : Prop :=
  ∃ c rest, gap = c :: rest ∧ isAsciiBlank c = true ∧ ∀ d ∈ rest, isBlank d = true

/-- The text consists of the words, each with a gap behind it. -/
inductive Gapped : List Text → Text → Prop
  | nil : Gapped [] []
  | cons {word gap text : Text} {words : List Text} (isWord : IsWord word) (isGap : IsGap gap)
      (tail : Gapped words text) : Gapped (word :: words) (word ++ (gap ++ text))

variable {text word rest gap : Text} {written : List Text}

theorem IsGap.isBlank (isGap : IsGap gap) : ∀ c ∈ gap, isBlank c = true := by
  obtain ⟨c, rest, rfl, blank, blanks⟩ := isGap
  exact List.forall_mem_cons.mpr ⟨isBlank_of_isAsciiBlank blank, blanks⟩

theorem IsGap.endsWord (isGap : IsGap gap) (rest : Text) : EndsWord (gap ++ rest) := by
  obtain ⟨c, tail, rfl, blank, _⟩ := isGap
  rintro d ⟨⟩
  exact blank

theorem isGap_space : IsGap [' '] := ⟨' ', [], rfl, rfl, nofun⟩

/-- Two spaces, as in front of a day of one digit. -/
theorem isGap_padding : IsGap "  ".toList :=
  ⟨' ', [' '], rfl, rfl, List.forall_mem_singleton.mpr rfl⟩

theorem trimStart_append_of_isBlank (blanks : ∀ c ∈ gap, isBlank c = true) (rest : Text) :
    trimStart (gap ++ rest) = trimStart rest :=
  List.dropWhile_append_of_pos blanks

theorem trimStart_space (rest : Text) : trimStart (' ' :: rest) = trimStart rest :=
  List.dropWhile_cons_of_pos rfl

/-- Blanks at the end are dropped behind what is visible. -/
theorem trimEnd_append_cons {c : Char} (shown : isBlank c = false) (before rest : Text) :
    trimEnd (before ++ c :: rest) = before ++ c :: trimEnd rest := by
  rw [List.append_cons, List.append_cons before c (trimEnd rest)]
  apply dropTail_append
  rw [List.getLast?_concat]
  rintro _ ⟨⟩
  exact shown

theorem trimEnd_append_of_isBlank (blanks : ∀ c ∈ gap, isBlank c = true) (before : Text) :
    trimEnd (before ++ gap) = trimEnd before := by
  unfold trimEnd dropTail
  rw [List.reverse_append, List.dropWhile_append_of_pos]
  exact fun c member => blanks c (List.mem_reverse.mp member)

theorem trimStart_append_cons {c : Char} (shown : isBlank c = false) (text rest : Text) :
    trimStart (text ++ c :: rest) = trimStart text ++ c :: rest := by
  obtain ⟨gap, blanks, whole⟩ := exists_gap_append_trimStart text
  have visible : StartsVisible (trimStart text ++ c :: rest) := by
    intro d first
    cases start : trimStart text with
    | nil =>
        rw [start] at first
        cases first
        exact shown
    | cons e tail =>
        rw [start] at first
        exact startsVisible_trimStart text d (by rw [start]; exact first)
  rw [whole, List.append_assoc, trimStart_append_of_isBlank blanks, trimStart_of_visible visible,
    ← whole]

/-- Plain words may be written with a space behind each. -/
theorem gapped_of_isPlainWord (plain : ∀ word ∈ written, IsPlainWord word) :
    Gapped written (written.flatMap fun word => word ++ [' ']) := by
  induction written with
  | nil => exact .nil
  | cons word written ih =>
      rw [List.forall_mem_cons] at plain
      rw [List.flatMap_cons, List.append_assoc]
      exact .cons plain.1.isWord isGap_space (ih plain.2)

/-- Two spaces may stand behind the first of them. -/
theorem gapped_padded (plain : ∀ other ∈ word :: written, IsPlainWord other) :
    Gapped (word :: written)
      (word ++ ("  ".toList ++ written.flatMap fun other => other ++ [' '])) := by
  rw [List.forall_mem_cons] at plain
  exact .cons plain.1.isWord isGap_padding (gapped_of_isPlainWord plain.2)

/-- Words with a space in front of each. -/
def spaced (words : List Text) : Text := words.flatMap fun word => ' ' :: word

/-- Words with spaces between them have gaps behind them if a space follows. -/
theorem gapped_spaced (areWords : ∀ other ∈ word :: written, IsWord other) :
    Gapped (word :: written) (word ++ (spaced written ++ [' '])) := by
  induction written generalizing word with
  | nil =>
      have last : Gapped [word] (word ++ ([' '] ++ [])) :=
        .cons (areWords word List.mem_cons_self) isGap_space .nil
      exact last
  | cons next written ih =>
      rw [List.forall_mem_cons] at areWords
      have tail : spaced (next :: written) ++ [' '] =
          [' '] ++ (next ++ (spaced written ++ [' '])) := by
        simp [spaced]
      rw [tail]
      exact .cons areWords.1 isGap_space (ih areWords.2)

/-- Words with gaps behind them may be parted at any word. -/
theorem Gapped.exists_append_cons {more : List Text}
    (gapped : Gapped (written ++ word :: more) text) :
    ∃ front gap back, text = front ++ (word ++ (gap ++ back)) ∧ Gapped written front ∧
      IsGap gap ∧ Gapped more back := by
  induction written generalizing text with
  | nil =>
      cases gapped with
      | @cons _ gap back _ _ isGap others => exact ⟨[], gap, back, rfl, .nil, isGap, others⟩
  | cons first written ih =>
      cases gapped with
      | @cons _ blanks _ _ isWord isGap others =>
          obtain ⟨front, gap, back, rfl, leading, between, last⟩ := ih others
          refine ⟨first ++ (blanks ++ front), gap, back, ?_, .cons isWord isGap leading, between,
            last⟩
          simp only [List.append_assoc]

/-! ## Reading words that gaps follow -/

theorem splitWord?_append_of_isBlank (blanks : ∀ c ∈ gap, isBlank c = true) (rest : Text) :
    splitWord? (gap ++ rest) = splitWord? rest := by
  rw [← splitWord?_trimStart, trimStart_append_of_isBlank blanks, splitWord?_trimStart]

theorem Gapped.exists_cons {words : List Text} (gapped : Gapped (word :: words) text) :
    ∃ c tail, text = c :: tail ∧ isBlank c = false := by
  cases gapped with
  | @cons _ gap tail _ isWord isGap others =>
      obtain ⟨c, first, rfl⟩ := List.exists_cons_of_ne_nil isWord.nonempty
      exact ⟨c, first ++ (gap ++ tail), rfl, isWord.visible c rfl⟩

theorem splitWord?_gapped {words : List Text} (gapped : Gapped (word :: words) text) :
    ∃ tail, Gapped words tail ∧
      ∀ rest, splitWord? (text ++ rest) = some (word, trimStart (tail ++ rest)) := by
  cases gapped with
  | @cons _ gap tail _ isWord isGap others =>
      refine ⟨tail, others, fun rest => ?_⟩
      rw [List.append_assoc, List.append_assoc, splitWord?_append isWord (isGap.endsWord _),
        trimStart_append_of_isBlank isGap.isBlank]

/-- **Words are read back as they were written**, whatever gaps there are behind them. -/
theorem words_gapped (gapped : Gapped written text) (rest : Text) :
    words (text ++ rest) = written ++ words rest := by
  induction written generalizing text with
  | nil =>
      cases gapped
      rfl
  | cons word written ih =>
      obtain ⟨tail, others, split⟩ := splitWord?_gapped gapped
      rw [words_of_splitWord? (split rest), words_trimStart, ih others]
      rfl

/-- The first word with the key carries the value. -/
theorem field?_gapped {key value : Text} {fields : List Text} (gapped : Gapped fields text)
    (foreign : ∀ field ∈ fields, ¬ key ++ ['='] <+: field)
    (isWord : IsWord (key ++ ['='] ++ value)) (ends : EndsWord rest) :
    field? key (text ++ (key ++ ['='] ++ value ++ rest)) = some (unwrap '"' '"' value) := by
  have missed : fields.findSome? (behind? (key ++ ['='])) = none := by
    rw [List.findSome?_eq_none_iff]
    exact fun field member => behind?_eq_none_iff.mpr (foreign field member)
  have keyed := words_of_splitWord? (splitWord?_append isWord ends)
  rw [field?, words_gapped gapped, keyed, List.findSome?_append, missed, Option.none_or,
    List.findSome?_cons, behind?_append]
  rfl

/-- A word goes on up to the end of the first word of what follows it. -/
theorem words_append (isWord : IsWord word) (rest : Text) :
    words (word ++ rest) = (word ++ (scanWord false rest).1) :: words (scanWord false rest).2 := by
  rw [words_of_splitWord? (splitWord?_append_of_isWord isWord rest), words_trimStart]

/-! ## What a word that was read looks like -/

theorem endsWord_scanWord (inside : Bool) (text : Text) : EndsWord (scanWord inside text).2 := by
  fun_induction scanWord inside text with
  | case1 => rintro d ⟨⟩
  | case2 => rintro d ⟨⟩
  | case3 inside c _ hidden rest word after same ih => rwa [same] at ih
  | case4 inside c rest _ ends =>
      rintro d ⟨⟩
      exact (Bool.and_eq_true_iff.mp ends).2
  | case5 inside c rest _ _ word after same ih => rwa [same] at ih

/-- The word goes on from inside a quoted string and closes it. -/
def ClosesQuote (word : Text) : Prop :=
  ∃ inner tail, word = inner ++ '"' :: tail ∧ IsQuoted inner ∧ IsComplete tail

/-- A word that does not reach the end of the text has closed its quotes. -/
theorem isComplete_scanWord (inside : Bool) (text : Text)
    (stops : (scanWord inside text).2 ≠ []) :
    if inside then ClosesQuote (scanWord inside text).1
    else IsComplete (scanWord inside text).1 := by
  fun_induction scanWord inside text with
  | case1 => exact absurd rfl stops
  | case2 => exact absurd rfl stops
  | case3 inside c slash hidden rest word after same ih =>
      rw [same] at ih
      obtain ⟨rfl, rfl⟩ : inside = true ∧ c = '\\' := by simpa using slash
      obtain ⟨inner, tail, rfl, closed, complete⟩ := ih stops
      exact ⟨'\\' :: hidden :: inner, tail, rfl, .hidden closed, complete⟩
  | case4 inside c rest _ ends =>
      obtain ⟨rfl, _⟩ : inside = false ∧ isAsciiBlank c = true := by simpa using ends
      exact .nil
  | case5 inside c rest unhidden goes word after same ih =>
      rw [same] at ih
      by_cases isQuote : c = '"'
      · subst isQuote
        cases inside with
        | true => exact ⟨[], word, rfl, .nil, ih stops⟩
        | false =>
            obtain ⟨inner, tail, rfl, closed, complete⟩ := ih stops
            exact .quoted closed complete
      · rw [if_neg isQuote] at ih
        cases inside with
        | true =>
            obtain ⟨inner, tail, rfl, closed, complete⟩ := ih stops
            have ordinary : c ≠ '"' ∧ c ≠ '\\' := ⟨isQuote, by simpa using unhidden⟩
            exact ⟨c :: inner, tail, rfl, .plain ordinary closed, complete⟩
        | false => exact .plain ⟨isQuote, by simpa using goes⟩ (ih stops)

/-- The start of a visible text that is read as a word is a word if it does not reach the end. -/
theorem isWord_scanWord (visible : StartsVisible text) (stops : (scanWord false text).2 ≠ []) :
    IsWord (scanWord false text).1 := by
  have whole := scanWord_append false text
  have nonempty : (scanWord false text).1 ≠ [] := by
    intro empty
    rw [empty, List.nil_append] at whole
    obtain ⟨c, rest, same⟩ := List.exists_cons_of_ne_nil stops
    have blank := endsWord_scanWord false text c (by rw [same]; rfl)
    have shown := visible c (by rw [← whole, same]; rfl)
    cases shown.symm.trans (isBlank_of_isAsciiBlank blank)
  refine ⟨nonempty, fun c first => visible c ?_, isComplete_scanWord false text stops⟩
  rw [← whole, List.head?_append, Option.mem_def.mp first]
  rfl

/-- Blanks at which a word ends are a gap if something visible stands behind them. -/
theorem isGap_of_endsWord (ends : EndsWord (gap ++ rest)) (visible : StartsVisible rest)
    (nonempty : rest ≠ []) (blanks : ∀ c ∈ gap, isBlank c = true) : IsGap gap := by
  cases gap with
  | nil =>
      obtain ⟨c, tail, rfl⟩ := List.exists_cons_of_ne_nil nonempty
      cases (visible c rfl).symm.trans (isBlank_of_isAsciiBlank (ends c rfl))
  | cons c gap =>
      rw [List.forall_mem_cons] at blanks
      exact ⟨c, gap, rfl, ends c rfl, blanks.2⟩

/-- **What a word was read from.** Blanks stand in front of the word and behind it. If anything
follows these, the word is read whole, and the blanks behind it are a gap. -/
theorem exists_of_splitWord? (found : splitWord? text = some (word, rest)) :
    ∃ lead gap, text = lead ++ (word ++ (gap ++ rest)) ∧ (∀ c ∈ lead, isBlank c = true) ∧
      (∀ c ∈ gap, isBlank c = true) ∧ StartsVisible rest ∧
      (rest ≠ [] → IsWord word ∧ IsGap gap) := by
  obtain ⟨_, rfl, rfl⟩ := splitWord?_eq_some_iff.mp found
  obtain ⟨lead, leading, whole⟩ := exists_gap_append_trimStart text
  obtain ⟨gap, blanks, behind⟩ := exists_gap_append_trimStart (scanWord false (trimStart text)).2
  have visible := startsVisible_trimStart (scanWord false (trimStart text)).2
  refine ⟨lead, gap, ?_, leading, blanks, visible, fun follows => ⟨?_, ?_⟩⟩
  · rw [← behind, scanWord_append, ← whole]
  · apply isWord_scanWord (startsVisible_trimStart text)
    intro empty
    rw [empty] at follows
    exact follows rfl
  · have ends := endsWord_scanWord false (trimStart text)
    rw [behind] at ends
    exact isGap_of_endsWord ends visible follows blanks

/-! ## Words in front of something visible -/

/-- The word that ends within the text, if there is one. -/
def endedWord? (text : Text) : Option Text :=
  let (word, rest) := scanWord false (trimStart text)
  if rest = [] then none else some word

/-- A word that does not reach the end of the text is the same in a longer text. -/
theorem scanWord_append_of_ne_nil (stops : (scanWord false text).2 ≠ []) (more : Text) :
    scanWord false (text ++ more) = ((scanWord false text).1, (scanWord false text).2 ++ more) := by
  have whole := scanWord_append false text
  have complete : IsComplete (scanWord false text).1 := isComplete_scanWord false text stops
  have ends : EndsWord ((scanWord false text).2 ++ more) := by
    obtain ⟨c, rest, same⟩ := List.exists_cons_of_ne_nil stops
    have blank := endsWord_scanWord false text c (by rw [same]; rfl)
    rw [same]
    rintro d ⟨⟩
    exact blank
  have read := scanWord_append_of_isComplete complete ((scanWord false text).2 ++ more)
  rwa [← List.append_assoc, whole, scanWord_of_endsWord ends, List.append_nil] at read

/-- A word that reaches the end of the text takes in what follows the text. -/
theorem mem_scanWord {c : Char} {inside : Bool} (reaches : (scanWord inside text).2 = [])
    (visible : isAsciiBlank c = false) (more : Text) :
    c ∈ (scanWord inside (text ++ c :: more)).1 := by
  fun_induction scanWord inside text with
  | case1 inside =>
      rw [List.nil_append, scanWord.eq_def]
      simp only
      split
      · split <;> exact List.mem_cons_self
      · rw [visible, Bool.and_false, if_neg Bool.false_ne_true]
        exact List.mem_cons_self
  | case2 inside d slash =>
      rw [List.singleton_append, scanWord.eq_def]
      simp only [slash, if_true]
      exact List.mem_cons_of_mem d List.mem_cons_self
  | case3 inside d slash hidden rest word after same ih =>
      rw [same] at ih
      rw [List.cons_append, List.cons_append, scanWord.eq_def]
      simp only [slash, if_true]
      exact List.mem_cons_of_mem d (List.mem_cons_of_mem hidden (ih reaches))
  | case4 => cases reaches
  | case5 inside d rest unhidden goes word after same ih =>
      rw [same] at ih
      rw [List.cons_append, scanWord.eq_def]
      simp only [unhidden, goes]
      exact List.mem_cons_of_mem d (ih reaches)

/-- The first word in front of something visible ends there, or what is visible belongs to it. -/
theorem splitWord?_append_cons {c : Char} (shown : isBlank c = false) (text more : Text) :
    ∃ word rest, splitWord? (text ++ c :: more) = some (word, rest) ∧
      (endedWord? text = some word ∨ endedWord? text = none ∧ c ∈ word) := by
  have visible : isAsciiBlank c = false := by
    rw [Bool.eq_false_iff]
    intro blank
    cases shown.symm.trans (isBlank_of_isAsciiBlank blank)
  have start := trimStart_append_cons shown text more
  have nonempty : trimStart (text ++ c :: more) ≠ [] := by
    rw [start]
    exact List.append_ne_nil_of_right_ne_nil _ (List.cons_ne_nil c more)
  refine ⟨_, _, splitWord?_eq_some_iff.mpr ⟨nonempty, rfl, rfl⟩, ?_⟩
  rw [start]
  by_cases reaches : (scanWord false (trimStart text)).2 = []
  · exact .inr ⟨if_pos reaches, mem_scanWord reaches visible more⟩
  · rw [scanWord_append_of_ne_nil reaches]
    exact .inl (if_neg reaches)

/-! ## Reading is local -/

/-- What is read depends on what it is read from: the rest of the text may be replaced by anything
that does not start with a blank. -/
structure IsLocal {α : Type} (read : Text → Option (α × Text)) : Prop where
  suffix {text rest : Text} {value : α} (found : read text = some (value, rest)) : rest <:+ text
  replace {before after rest other : Text} {value : α}
    (found : read (before ++ rest) = some (value, after ++ rest)) (follows : rest ≠ [])
    (visible : StartsVisible other) : read (before ++ other) = some (value, after ++ other)

theorem startsVisible_append {after other : Text} (visible : StartsVisible (after ++ rest))
    (shown : StartsVisible other) : StartsVisible (after ++ other) := by
  cases after with
  | nil => exact shown
  | cons c after => exact visible

/-- A word is read without a look at what stands behind the gap. -/
theorem isLocal_splitWord? : IsLocal splitWord? where
  suffix {text rest word} found := by
    obtain ⟨lead, gap, rfl, _⟩ := exists_of_splitWord? found
    exact ⟨lead ++ (word ++ gap), by simp⟩
  replace {before after rest other word} found follows visible := by
    obtain ⟨lead, gap, whole, leading, _, shown, reads⟩ := exists_of_splitWord? found
    obtain ⟨isWord, isGap⟩ := reads (List.append_ne_nil_of_right_ne_nil after follows)
    have same : before ++ rest = lead ++ (word ++ (gap ++ after)) ++ rest := by
      rw [whole]
      simp only [List.append_assoc]
    have front := List.append_cancel_right same
    have read := splitWord?_append isWord (isGap.endsWord (after ++ other))
    rw [trimStart_append_of_isBlank isGap.isBlank,
      trimStart_of_visible (startsVisible_append shown visible)] at read
    rw [front, ← splitWord?_trimStart]
    simp only [List.append_assoc]
    rw [trimStart_append_of_isBlank leading, splitWord?_trimStart, read]

namespace IsLocal

variable {α β : Type}

theorem fail : IsLocal fun _ : Text => (none : Option (α × Text)) where
  suffix := nofun
  replace := nofun

/-- A value that is known may be given without reading. -/
theorem pure (value : α) : IsLocal fun text => some (value, text) where
  suffix := by
    rintro text rest _ ⟨⟩
    exact List.suffix_rfl
  replace {before after rest other given} found _ _ := by
    obtain ⟨rfl, same⟩ := Prod.mk.inj (Option.some.inj found)
    rw [List.append_cancel_right same]

/-- Parts may be read one behind the other. -/
theorem bind {read : Text → Option (α × Text)} {next : α × Text → Option (β × Text)}
    (first : IsLocal read) (second : ∀ value, IsLocal fun text => next (value, text)) :
    IsLocal fun text => (read text).bind next where
  suffix {text rest value} found := by
    obtain ⟨⟨middle, between⟩, started, finished⟩ := Option.bind_eq_some_iff.mp found
    exact ((second middle).suffix finished).trans (first.suffix started)
  replace {before after rest other value} found follows visible := by
    obtain ⟨⟨middle, between⟩, started, finished⟩ := Option.bind_eq_some_iff.mp found
    obtain ⟨taken, rfl⟩ := (second middle).suffix finished
    rw [← List.append_assoc] at started finished
    have starts := first.replace started follows visible
    have finishes := (second middle).replace finished follows visible
    exact Option.bind_eq_some_iff.mpr ⟨_, starts, finishes⟩

/-- What was read may be put to a test. -/
theorem test {next : α → Text → Option (β × Text)} (tested : Option α)
    (second : ∀ value, IsLocal (next value)) :
    IsLocal fun text => tested.bind fun value => next value text := by
  cases tested with
  | none => exact fail
  | some value => exact second value

end IsLocal

end DeliveryTrace.Text
