import DeliveryTrace.Proofs.Text.Word

/-! # Escaped texts

Inside quotes a quote or a backslash of the text itself is written behind a backslash. Whatever the
text is, it then fills a quoted string, so it stays within one word. Read as a text of its own, an
escaped text has the words of the text in front of the first word with a quote; the quote opens a
string that nothing closes, so all the rest is one last word.
-/

namespace DeliveryTrace.Text

/-- The character is written behind a backslash. -/
def IsSpecial (c : Char) : Prop := c = '"' ∨ c = '\\'

instance (c : Char) : Decidable (IsSpecial c) := inferInstanceAs (Decidable (_ ∨ _))

/-- The text with a backslash in front of every quote and every backslash. -/
def escaped (text : Text) : Text :=
  text.flatMap fun c => if IsSpecial c then ['\\', c] else [c]

/-- The text as it is written in quotes. -/
def inQuotes (text : Text) : Text := '"' :: (escaped text ++ ['"'])

variable {text mark word rest : Text} {c : Char}

theorem escaped_cons_of_special (special : IsSpecial c) (text : Text) :
    escaped (c :: text) = '\\' :: c :: escaped text := by
  rw [escaped, List.flatMap_cons, if_pos special]
  rfl

theorem escaped_cons (ordinary : ¬ IsSpecial c) (text : Text) :
    escaped (c :: text) = c :: escaped text := by
  rw [escaped, List.flatMap_cons, if_neg ordinary]
  rfl

theorem mem_escaped (member : c ∈ text) : c ∈ escaped text := by
  refine List.mem_flatMap.mpr ⟨c, member, ?_⟩
  split
  · exact List.mem_cons_of_mem _ List.mem_cons_self
  · exact List.mem_cons_self

theorem not_isSpecial_of_not_mem (unquoted : '"' ∉ text) (unhidden : '\\' ∉ text) :
    ∀ c ∈ text, ¬ IsSpecial c := by
  rintro c member (rfl | rfl)
  · exact unquoted member
  · exact unhidden member

theorem escaped_eq_self (ordinary : ∀ c ∈ text, ¬ IsSpecial c) : escaped text = text := by
  induction text with
  | nil => rfl
  | cons c text ih =>
      rw [List.forall_mem_cons] at ordinary
      rw [escaped_cons ordinary.1, ih ordinary.2]

theorem exists_cons_of_escaped_eq_cons (ordinary : ¬ IsSpecial c)
    (start : escaped text = c :: rest) : ∃ tail, text = c :: tail ∧ escaped tail = rest := by
  cases text with
  | nil => cases start
  | cons first tail =>
      by_cases special : IsSpecial first
      · rw [escaped_cons_of_special special] at start
        cases start
        exact absurd (.inr rfl) ordinary
      · rw [escaped_cons special] at start
        cases start
        exact ⟨tail, rfl, rfl⟩

/-- An escaped text fills a quoted string. -/
theorem isQuoted_escaped (text : Text) : IsQuoted (escaped text) := by
  induction text with
  | nil => exact .nil
  | cons c text ih =>
      by_cases special : IsSpecial c
      · rw [escaped_cons_of_special special]
        exact .hidden ih
      · rw [escaped_cons special]
        exact .plain (not_or.mp special) ih

theorem isComplete_inQuotes (text : Text) : IsComplete (inQuotes text) :=
  .quoted (isQuoted_escaped text) .nil

theorem unwrap_inQuotes (text : Text) : unwrap '"' '"' (inQuotes text) = escaped text :=
  unwrap_append '"' '"' (escaped text)

/-! ## Marks -/

theorem behind?_escaped (ordinary : ∀ m ∈ mark, ¬ IsSpecial m) (text : Text) :
    behind? mark (escaped text) = (behind? mark text).map escaped := by
  induction mark generalizing text with
  | nil => rfl
  | cons m mark ih =>
      rw [List.forall_mem_cons] at ordinary
      cases text with
      | nil => rfl
      | cons c text =>
          by_cases special : IsSpecial c
          · have other : m ≠ c := fun same => ordinary.1 (same ▸ special)
            have slash : m ≠ '\\' := fun same => ordinary.1 (.inr same)
            rw [escaped_cons_of_special special, behind?, behind?, if_neg slash, if_neg other]
            rfl
          · rw [escaped_cons special, behind?, behind?]
            split
            · exact ih ordinary.2 text
            · rfl

/-- An escaped text is cut where the text is. -/
theorem cut?_escaped (nonempty : mark ≠ []) (ordinary : ∀ m ∈ mark, ¬ IsSpecial m) (text : Text) :
    cut? mark (escaped text) =
      (cut? mark text).map fun (before, after) => (escaped before, escaped after) := by
  induction text with
  | nil => simp [escaped, cut?, nonempty]
  | cons c text ih =>
      by_cases special : IsSpecial c
      · obtain ⟨m, mark, rfl⟩ := List.exists_cons_of_ne_nil nonempty
        rw [List.forall_mem_cons] at ordinary
        have other : m ≠ c := fun same => ordinary.1 (same ▸ special)
        have slash : m ≠ '\\' := fun same => ordinary.1 (.inr same)
        rw [escaped_cons_of_special special]
        simp only [cut?, behind?, if_neg slash, if_neg other, ih, Option.map_map]
        congr 1
        funext parts
        simp only [Function.comp_apply, escaped_cons_of_special special]
      · have leads := behind?_escaped ordinary (c :: text)
        rw [escaped_cons special] at leads ⊢
        rw [cut?, cut?, leads]
        cases behind? mark (c :: text) with
        | some after => rfl
        | none =>
            rw [Option.map_none, ih]
            simp only [Option.map_map]
            congr 1
            funext parts
            simp only [Function.comp_apply, escaped_cons special]

/-! ## Words -/

theorem isBlank_of_isSpecial (special : IsSpecial c) : isBlank c = false := by
  rcases special with rfl | rfl <;> decide

theorem trimStart_escaped (text : Text) : trimStart (escaped text) = escaped (trimStart text) := by
  induction text with
  | nil => rfl
  | cons c text ih =>
      cases blank : isBlank c with
      | true =>
          have ordinary : ¬ IsSpecial c := by
            intro special
            cases blank.symm.trans (isBlank_of_isSpecial special)
          rw [escaped_cons ordinary]
          simp only [trimStart, List.dropWhile_cons, blank, if_true]
          exact ih
      | false =>
          have shown : ∀ d ∈ (c :: text).head?, isBlank d = false := by
            rintro _ ⟨⟩
            exact blank
          rw [trimStart_of_visible shown]
          apply trimStart_of_visible
          by_cases special : IsSpecial c
          · rw [escaped_cons_of_special special]
            rintro _ ⟨⟩
            decide
          · rw [escaped_cons special]
            rintro _ ⟨⟩
            exact blank

/-- No quote closes in an escaped text. -/
theorem scanWord_true_escaped (text : Text) :
    scanWord true (escaped text) = (escaped text, []) := by
  induction text with
  | nil => rfl
  | cons c text ih =>
      by_cases special : IsSpecial c
      · rw [escaped_cons_of_special special, scanWord.eq_def]
        simp [ih]
      · obtain ⟨unquoted, unhidden⟩ := not_or.mp special
        rw [escaped_cons special, scanWord.eq_def]
        simp [unquoted, unhidden, ih]

theorem scanWord_false_cons (ordinary : c ≠ '"') (visible : isAsciiBlank c = false) (text : Text) :
    scanWord false (c :: text) = (c :: (scanWord false text).1, (scanWord false text).2) := by
  rw [scanWord.eq_def]
  simp [ordinary, visible]

theorem scanWord_false_quote (text : Text) :
    scanWord false ('"' :: text) = ('"' :: (scanWord true text).1, (scanWord true text).2) := by
  rw [scanWord.eq_def]
  simp [isAsciiBlank]

theorem scanWord_false_blank (blank : isAsciiBlank c = true) (text : Text) :
    scanWord false (c :: text) = ([], c :: text) := by
  rw [scanWord.eq_def]
  simp [blank]

theorem scanWord_false_backslash (text : Text) :
    scanWord false ('\\' :: text) = ('\\' :: (scanWord false text).1, (scanWord false text).2) :=
  scanWord_false_cons (by decide) rfl text

/-- A first word without a quote is escaped on its own. -/
theorem scanWord_escaped (unquoted : '"' ∉ (scanWord false text).1) :
    scanWord false (escaped text) =
      (escaped (scanWord false text).1, escaped (scanWord false text).2) := by
  induction text with
  | nil => rfl
  | cons c text ih =>
      cases blank : isAsciiBlank c with
      | true =>
          have ordinary : ¬ IsSpecial c := by
            rintro (rfl | rfl) <;> cases blank
          rw [scanWord_false_blank blank, escaped_cons ordinary, scanWord_false_blank blank]
          rfl
      | false =>
          have isNoQuote : c ≠ '"' := by
            rintro rfl
            rw [scanWord_false_quote] at unquoted
            exact unquoted List.mem_cons_self
          rw [scanWord_false_cons isNoQuote blank] at unquoted ⊢
          have later := ih fun quote => unquoted (List.mem_cons_of_mem c quote)
          by_cases special : IsSpecial c
          · rw [escaped_cons_of_special special, escaped_cons_of_special special,
              scanWord_false_backslash, scanWord_false_cons isNoQuote blank, later]
          · rw [escaped_cons special, escaped_cons special, scanWord_false_cons isNoQuote blank,
              later]

/-- A first word with a quote never ends in the escaped text. -/
theorem scanWord_escaped_of_mem (quote : '"' ∈ (scanWord false text).1) :
    scanWord false (escaped text) = (escaped text, []) := by
  induction text with
  | nil => rfl
  | cons c text ih =>
      by_cases isQuote : c = '"'
      · subst isQuote
        rw [escaped_cons_of_special (.inl rfl), scanWord_false_backslash,
          scanWord_false_quote, scanWord_true_escaped]
      · cases blank : isAsciiBlank c with
        | true =>
            rw [scanWord_false_blank blank] at quote
            cases quote
        | false =>
            rw [scanWord_false_cons isQuote blank] at quote
            have later := ih ((List.mem_cons.mp quote).resolve_left (Ne.symm isQuote))
            by_cases special : IsSpecial c
            · rw [escaped_cons_of_special special, scanWord_false_backslash,
                scanWord_false_cons isQuote blank, later]
            · rw [escaped_cons special, scanWord_false_cons isQuote blank, later]

theorem escaped_eq_nil_iff : escaped text = [] ↔ text = [] := by
  refine ⟨fun empty => List.eq_nil_iff_forall_not_mem.mpr fun c member => ?_, congrArg escaped⟩
  have kept := mem_escaped member
  rw [empty] at kept
  cases kept

theorem splitWord?_escaped (found : splitWord? text = some (word, rest)) (unquoted : '"' ∉ word) :
    splitWord? (escaped text) = some (escaped word, escaped rest) := by
  obtain ⟨nonempty, rfl, rfl⟩ := splitWord?_eq_some_iff.mp found
  rw [splitWord?_eq_some_iff, trimStart_escaped, scanWord_escaped unquoted, trimStart_escaped]
  exact ⟨mt escaped_eq_nil_iff.mp nonempty, rfl, rfl⟩

theorem splitWord?_escaped_of_mem (found : splitWord? text = some (word, rest))
    (quote : '"' ∈ word) :
    ∃ more, splitWord? (escaped text) = some (escaped (word ++ more), []) := by
  obtain ⟨nonempty, rfl, rfl⟩ := splitWord?_eq_some_iff.mp found
  refine ⟨(scanWord false (trimStart text)).2, ?_⟩
  rw [splitWord?_eq_some_iff, trimStart_escaped, scanWord_escaped_of_mem quote, scanWord_append]
  exact ⟨mt escaped_eq_nil_iff.mp nonempty, rfl, rfl⟩

theorem splitWord?_escaped_eq_none_iff :
    splitWord? (escaped text) = none ↔ splitWord? text = none := by
  rw [splitWord?_eq_none_iff, splitWord?_eq_none_iff, trimStart_escaped, escaped_eq_nil_iff]

/-- **Words without quotes are escaped one by one**, and the words of the escaped rest follow. -/
theorem words_escaped {front later : List Text} (split : words text = front ++ later)
    (unquoted : ∀ word ∈ front, '"' ∉ word) :
    ∃ rest, words rest = later ∧
      words (escaped text) = front.map escaped ++ words (escaped rest) := by
  induction front generalizing text with
  | nil => exact ⟨text, split, rfl⟩
  | cons word front ih =>
      rw [List.forall_mem_cons] at unquoted
      obtain ⟨behind, found, others⟩ := words_eq_cons_iff.mp split
      obtain ⟨rest, same, later⟩ := ih others unquoted.2
      refine ⟨rest, same, ?_⟩
      rw [words_of_splitWord? (splitWord?_escaped found unquoted.1), later]
      rfl

theorem words_escaped_of_not_mem (unquoted : ∀ word ∈ words text, '"' ∉ word) :
    words (escaped text) = (words text).map escaped := by
  obtain ⟨rest, empty, split⟩ := words_escaped (List.append_nil _).symm unquoted
  rw [words_eq_nil_iff, ← splitWord?_escaped_eq_none_iff, ← words_eq_nil_iff] at empty
  rw [split, empty, List.append_nil]

/-- A word with a quote is the last one of an escaped text. -/
theorem words_escaped_of_mem {front later : List Text} (split : words text = front ++ word :: later)
    (unquoted : ∀ word ∈ front, '"' ∉ word) (quote : '"' ∈ word) :
    ∃ more, words (escaped text) = front.map escaped ++ [escaped (word ++ more)] := by
  obtain ⟨rest, others, written⟩ := words_escaped split unquoted
  obtain ⟨behind, found, _⟩ := words_eq_cons_iff.mp others
  obtain ⟨more, last⟩ := splitWord?_escaped_of_mem found quote
  refine ⟨more, ?_⟩
  rw [written, words_of_splitWord? last, words_eq_nil_iff.mpr rfl]

end DeliveryTrace.Text
