import DeliveryTrace.Proofs.Text.Gap
import DeliveryTrace.Proofs.Text.WordEnd

/-! # Words part their text

Reading the words of a text loses nothing but blanks: the text consists of its words and of the
blanks around them. Only the last word may leave a quote open, and words that are joined by single
spaces are read back. The main statement puts this together with the byte offsets at which a text is
cut into words.
-/

namespace DeliveryTrace.Text

open Utf8

variable {text word rest : Text} {written : List Text} {quoted : Bool} {c : Char}

/-! ## Quotes -/

/-- Whether a quote is open behind a text. Inside quotes a backslash hides the next character. -/
def leavesQuoted : (quoted : Bool) → Text → Bool
  | quoted, [] => quoted
  | quoted, c :: rest =>
    if quoted && c = '\\' then
      match rest with
      | [] => quoted
      | _ :: rest => leavesQuoted quoted rest
    else leavesQuoted (if c = '"' then !quoted else quoted) rest

theorem leavesQuoted_hidden (hidden : Char) (rest : Text) :
    leavesQuoted true ('\\' :: hidden :: rest) = leavesQuoted true rest := rfl

theorem leavesQuoted_cons (unhidden : ¬ (quoted && c = '\\') = true) (rest : Text) :
    leavesQuoted quoted (c :: rest) = leavesQuoted (if c = '"' then !quoted else quoted) rest := by
  rw [leavesQuoted.eq_def]
  exact if_neg unhidden

/-- A word has ASCII blanks inside quotes only. -/
theorem leavesQuoted_of_scanWord {before after : Text}
    (read : (scanWord quoted text).1 = before ++ c :: after) (blank : isAsciiBlank c = true) :
    leavesQuoted quoted before = true := by
  have visible : c ≠ '\\' := by
    rintro rfl
    cases blank
  fun_induction scanWord quoted text generalizing before with
  | case1 quoted => cases before <;> cases read
  | case2 quoted d slash =>
      obtain ⟨rfl, rfl⟩ : quoted = true ∧ d = '\\' := by simpa using slash
      cases before with
      | nil => exact absurd (List.cons.inj read).1.symm visible
      | cons first before => cases before <;> cases (List.cons.inj read).2
  | case3 quoted d slash hidden rest word behind same ih =>
      obtain ⟨rfl, rfl⟩ : quoted = true ∧ d = '\\' := by simpa using slash
      rw [same] at ih
      cases before with
      | nil => exact absurd (List.cons.inj read).1.symm visible
      | cons first before =>
          obtain ⟨rfl, behindSlash⟩ := List.cons.inj read
          cases before with
          | nil => rfl
          | cons second before =>
              obtain ⟨rfl, later⟩ := List.cons.inj behindSlash
              rw [leavesQuoted_hidden]
              exact ih later
  | case4 quoted d rest unhidden ends => cases before <;> cases read
  | case5 quoted d rest unhidden goes word behind same ih =>
      rw [same] at ih
      cases before with
      | nil =>
          obtain ⟨rfl, _⟩ := List.cons.inj read
          simpa [blank, leavesQuoted] using goes
      | cons first before =>
          obtain ⟨rfl, later⟩ := List.cons.inj read
          rw [leavesQuoted_cons unhidden]
          exact ih later

/-- A word that does not reach the end of the text closes its quotes. -/
theorem leavesQuoted_scanWord (stops : (scanWord quoted text).2 ≠ []) :
    leavesQuoted quoted (scanWord quoted text).1 = false := by
  fun_induction scanWord quoted text with
  | case1 => exact absurd rfl stops
  | case2 => exact absurd rfl stops
  | case3 quoted d slash hidden rest word after same ih =>
      obtain ⟨rfl, rfl⟩ : quoted = true ∧ d = '\\' := by simpa using slash
      rw [same] at ih
      rw [leavesQuoted_hidden]
      exact ih stops
  | case4 quoted d rest unhidden ends =>
      obtain ⟨rfl, _⟩ : quoted = false ∧ isAsciiBlank d = true := by simpa using ends
      rfl
  | case5 quoted d rest unhidden goes word after same ih =>
      rw [same] at ih
      rw [leavesQuoted_cons unhidden]
      exact ih stops

theorem leavesQuoted_of_isComplete (complete : IsComplete word) :
    leavesQuoted false word = false := by
  have read := scanWord_append_of_isComplete complete [' ']
  rw [scanWord_of_endsWord (endsWord_cons []), List.append_nil] at read
  have stops : (scanWord false (word ++ [' '])).2 ≠ [] := by
    rw [read]
    exact List.cons_ne_nil _ _
  have closed := leavesQuoted_scanWord stops
  rwa [read] at closed

/-- A word that stands alone is read again as it is. -/
theorem scanWord_scanWord (quoted : Bool) (text : Text) :
    scanWord quoted (scanWord quoted text).1 = ((scanWord quoted text).1, []) := by
  fun_induction scanWord quoted text with
  | case1 => rfl
  | case2 quoted d slash =>
      rw [scanWord.eq_def]
      exact if_pos slash
  | case3 quoted d slash hidden rest word after same ih =>
      rw [same] at ih
      rw [scanWord.eq_def]
      simp only [slash, if_true, ih]
  | case4 => rfl
  | case5 quoted d rest unhidden goes word after same ih =>
      rw [same] at ih
      rw [scanWord.eq_def]
      simp only [unhidden, goes, if_false, ih, Bool.false_eq_true]

/-! ## Single words -/

theorem words_nil : words [] = [] := words_eq_nil_iff.mpr (splitWord?_eq_none_iff.mpr rfl)

theorem fst_scanWord_ne_nil (nonempty : text ≠ []) (visible : StartsVisible text) :
    (scanWord false text).1 ≠ [] := by
  obtain ⟨c, tail, rfl⟩ := List.exists_cons_of_ne_nil nonempty
  apply scanWord_ne_nil
  rw [Bool.eq_false_iff]
  intro blank
  cases (visible c rfl).symm.trans (isBlank_of_isAsciiBlank blank)

/-- What stands between a word and the words behind it. -/
theorem exists_gap_of_splitWord? (found : splitWord? text = some (word, rest)) :
    ∃ lead gap, text = lead ++ (word ++ (gap ++ rest)) ∧ (∀ c ∈ lead, isBlank c = true) ∧
      (∀ c ∈ gap, isBlank c = true) ∧ (words rest ≠ [] → IsWord word ∧ IsGap gap) := by
  obtain ⟨lead, gap, whole, leading, blanks, _, reads⟩ := exists_of_splitWord? found
  refine ⟨lead, gap, whole, leading, blanks, fun follows => reads ?_⟩
  rintro rfl
  exact follows words_nil

/-- Each word is the first one of some part of the text. -/
theorem exists_of_mem_words (member : word ∈ words text) :
    ∃ start, start ≠ [] ∧ StartsVisible start ∧ (scanWord false start).1 = word := by
  induction text using words.induct with
  | case1 text missing =>
      rw [words_eq_nil_iff.mpr missing] at member
      cases member
  | case2 text first rest found ih =>
      rw [words_of_splitWord? found] at member
      rcases List.mem_cons.mp member with rfl | later
      · obtain ⟨visible, read, _⟩ := splitWord?_eq_some_iff.mp found
        exact ⟨_, visible, startsVisible_trimStart text, read⟩
      · exact ih later

theorem ne_nil_of_mem_words (member : word ∈ words text) : word ≠ [] := by
  obtain ⟨start, nonempty, visible, rfl⟩ := exists_of_mem_words member
  exact fst_scanWord_ne_nil nonempty visible

theorem startsVisible_of_mem_words (member : word ∈ words text) : StartsVisible word := by
  obtain ⟨start, nonempty, visible, rfl⟩ := exists_of_mem_words member
  have whole := scanWord_append false start
  intro c first
  apply visible c
  rw [← whole, List.head?_append, Option.mem_def.mp first]
  rfl

/-- A word that stands alone is the only word. -/
theorem words_of_mem_words (member : word ∈ words text) : words word = [word] := by
  have start := trimStart_of_visible (startsVisible_of_mem_words member)
  have alone : scanWord false word = (word, []) := by
    obtain ⟨origin, _, _, rfl⟩ := exists_of_mem_words member
    exact scanWord_scanWord false origin
  have found : splitWord? word = some (word, []) := by
    rw [splitWord?_eq_some_iff, start, alone]
    exact ⟨ne_nil_of_mem_words member, rfl, rfl⟩
  rw [words_of_splitWord? found, words_nil]

/-- A word that another one follows is read whole. -/
theorem isWord_of_mem_dropLast_words (member : word ∈ (words text).dropLast) : IsWord word := by
  induction text using words.induct with
  | case1 text missing =>
      rw [words_eq_nil_iff.mpr missing] at member
      cases member
  | case2 text first rest found ih =>
      obtain ⟨_, _, _, _, _, reads⟩ := exists_gap_of_splitWord? found
      rw [words_of_splitWord? found] at member
      cases others : words rest with
      | nil =>
          rw [others] at member
          cases member
      | cons next more =>
          rw [others] at member ih reads
          rcases List.mem_cons.mp member with rfl | later
          · exact (reads (List.cons_ne_nil next more)).1
          · exact ih later

/-! ## All words -/

/-- **Words joined by single spaces are read back.** -/
theorem words_intercalate (text : Text) : words ([' '].intercalate (words text)) = words text := by
  induction text using words.induct with
  | case1 text missing =>
      rw [words_eq_nil_iff.mpr missing]
      exact words_nil
  | case2 text word rest found ih =>
      obtain ⟨_, _, _, _, _, reads⟩ := exists_gap_of_splitWord? found
      have split := words_of_splitWord? found
      cases others : words rest with
      | nil =>
          rw [others] at split
          rw [split]
          exact (congrArg words (List.append_nil word)).trans
            (words_of_mem_words (split ▸ List.mem_cons_self))
      | cons next more =>
          rw [others] at split ih reads
          have isWord := (reads (List.cons_ne_nil next more)).1
          have joined : [' '].intercalate (word :: next :: more) =
              word ++ ' ' :: [' '].intercalate (next :: more) := rfl
          rw [split, joined, words_of_splitWord? (splitWord?_append isWord (endsWord_cons _)),
            words_trimStart, ← words_trimStart, trimStart_space, words_trimStart, ih]

/-- The text consists of blanks and of parts, each a word and the blanks behind it. Between two
words these start with an ASCII blank. -/
structure IsParted (text lead : Text) (parts : List (Text × Text)) : Prop where
  whole : text = lead ++ parts.flatMap fun part => part.1 ++ part.2
  leading : ∀ c ∈ lead, isBlank c = true
  blank : ∀ part ∈ parts, ∀ c ∈ part.2, isBlank c = true
  separated : ∀ part ∈ parts.dropLast, IsGap part.2

theorem isParted_nil (blanks : ∀ c ∈ text, isBlank c = true) : IsParted text text [] where
  whole := (List.append_nil text).symm
  leading := blanks
  blank := nofun
  separated := nofun

/-- A word goes in front, and the blanks behind it join those that led so far. -/
theorem IsParted.cons {lead inner gap : Text} {parts : List (Text × Text)}
    (parted : IsParted rest inner parts) (leading : ∀ c ∈ lead, isBlank c = true)
    (blanks : ∀ c ∈ gap, isBlank c = true) (separates : parts ≠ [] → IsGap gap) (word : Text) :
    IsParted (lead ++ (word ++ (gap ++ rest))) lead ((word, gap ++ inner) :: parts) where
  whole := by
    rw [parted.whole, List.flatMap_cons]
    simp only [List.append_assoc]
  leading := leading
  blank := List.forall_mem_cons.mpr
    ⟨List.forall_mem_append.mpr ⟨blanks, parted.leading⟩, parted.blank⟩
  separated := by
    cases parts with
    | nil => exact nofun
    | cons part parts =>
        obtain ⟨c, tail, rfl, blank, visible⟩ := separates (List.cons_ne_nil part parts)
        have joined : IsGap (c :: tail ++ inner) :=
          ⟨c, tail ++ inner, rfl, blank, List.forall_mem_append.mpr ⟨visible, parted.leading⟩⟩
        exact List.forall_mem_cons.mpr ⟨joined, parted.separated⟩

/-- A text consists of its words and the blanks around them. -/
theorem exists_isParted (text : Text) :
    ∃ lead parts, IsParted text lead parts ∧ parts.map Prod.fst = words text := by
  induction text using words.induct with
  | case1 text missing =>
      obtain ⟨gap, blanks, whole⟩ := exists_gap_append_trimStart text
      rw [splitWord?_eq_none_iff.mp missing, List.append_nil] at whole
      subst whole
      exact ⟨text, [], isParted_nil blanks, (words_eq_nil_iff.mpr missing).symm⟩
  | case2 text word rest found ih =>
      obtain ⟨inner, parts, parted, named⟩ := ih
      obtain ⟨lead, gap, rfl, leading, blanks, reads⟩ := exists_gap_of_splitWord? found
      have separates : parts ≠ [] → IsGap gap := by
        intro follows
        refine (reads ?_).2
        rw [← named]
        exact mt List.map_eq_nil_iff.mp follows
      refine ⟨lead, _, parted.cons leading blanks separates word, ?_⟩
      rw [words_of_splitWord? found, List.map_cons, named]

/-- **A text is parted into its words.** Cutting it by byte offsets ends with its words. Each offset
lies within the text, between two characters, and behind at least one byte of a text that starts
with a word. The words are not empty, and the text consists of them and of blanks, which start with
an ASCII blank between two words. ASCII blanks stand within quotes only, the last word alone may
leave a quote open, and words that are joined by single spaces are read back. -/
theorem words_partition (text : Text) :
    CutsInto text (words text) ∧
    (∀ start : Text,
      wordEnd (encode start) false 0 ≤ (encode start).length ∧
        splitAt? (wordEnd (encode start) false 0) start = some (scanWord false start) ∧
        (start ≠ [] → StartsVisible start → 1 ≤ wordEnd (encode start) false 0)) ∧
    (∃ lead parts, IsParted text lead parts ∧ parts.map Prod.fst = words text) ∧
    (∀ word ∈ words text, word ≠ [] ∧
      ∀ before c after, word = before ++ c :: after → isAsciiBlank c = true →
        leavesQuoted false before = true) ∧
    (∀ word ∈ (words text).dropLast, leavesQuoted false word = false) ∧
    words ([' '].intercalate (words text)) = words text := by
  refine ⟨cutsInto_words text, ?_, exists_isParted text, ?_, ?_, words_intercalate text⟩
  · intro start
    have cut := splitAt?_wordEnd start
    have ends := (splitAt?_eq_some_iff.mp cut).2
    have whole := congrArg (fun text => (encode text).length) (scanWord_append false start)
    simp only [encode_append, List.length_append] at whole
    refine ⟨by omega, cut, fun nonempty visible => ?_⟩
    rw [ends]
    exact length_encode_pos (fst_scanWord_ne_nil nonempty visible)
  · intro word member
    refine ⟨ne_nil_of_mem_words member, fun before c after whole blank => ?_⟩
    obtain ⟨start, _, _, rfl⟩ := exists_of_mem_words member
    exact leavesQuoted_of_scanWord whole blank
  · intro word member
    exact leavesQuoted_of_isComplete (isWord_of_mem_dropLast_words member).complete

end DeliveryTrace.Text
