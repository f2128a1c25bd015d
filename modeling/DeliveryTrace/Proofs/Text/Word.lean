import DeliveryTrace.Proofs.Text.Cut
import DeliveryTrace.Text.Word

/-! # Reading words back

A complete word consists of plain characters and quoted strings. It is read off the start of a text
if nothing or an ASCII blank follows it. Runs of ASCII letters and digits are such words.
-/

namespace DeliveryTrace.Text

/-! ## ASCII letters and digits -/

theorem toNat_of_isAsciiAlnum {c : Char} (alnum : isAsciiAlnum c = true) :
    48 ≤ c.toNat ∧ c.toNat ≤ 57 ∨ 65 ≤ c.toNat ∧ c.toNat ≤ 90 ∨
      97 ≤ c.toNat ∧ c.toNat ≤ 122 := by
  change (decide (65 ≤ c.val ∧ c.val ≤ 90) || decide (97 ≤ c.val) && decide (c.val ≤ 122) ||
    decide (48 ≤ c.val) && decide (c.val ≤ 57)) = true at alnum
  simp only [Bool.or_eq_true, Bool.and_eq_true, decide_eq_true_eq] at alnum
  change (65 ≤ c.toNat ∧ c.toNat ≤ 90 ∨ 97 ≤ c.toNat ∧ c.toNat ≤ 122) ∨
    48 ≤ c.toNat ∧ c.toNat ≤ 57 at alnum
  omega

theorem isAsciiAlnum_of_isDigit {c : Char} (digit : c.isDigit = true) : isAsciiAlnum c = true := by
  rw [isAsciiAlnum, Char.isAlphanum, digit, Bool.or_true]

theorem isBlank_of_isAsciiAlnum {c : Char} (alnum : isAsciiAlnum c = true) : isBlank c = false := by
  have range := toNat_of_isAsciiAlnum alnum
  simp only [isBlank, Bool.or_eq_false_iff, Bool.and_eq_false_iff, decide_eq_false_iff_not]
  omega

theorem ne_of_isAsciiAlnum {c other : Char} (alnum : isAsciiAlnum c = true)
    (mark : isAsciiAlnum other = false) : c ≠ other := by
  rintro rfl
  rw [alnum] at mark
  cases mark

/-! ## Words -/

/-- The character stands for itself within a word. -/
def IsPlain (c : Char) : Prop := c ≠ '"' ∧ isAsciiBlank c = false

instance (c : Char) : Decidable (IsPlain c) := inferInstanceAs (Decidable (_ ∧ _))

/-- A word may end in front of the text: nothing or an ASCII blank follows. -/
def EndsWord (text : Text) : Prop := ∀ c ∈ text.head?, isAsciiBlank c = true

/-- The text does not start with a blank. -/
def StartsVisible (text : Text) : Prop := ∀ c ∈ text.head?, isBlank c = false

/-- The inside of a quoted string: a quote or a backslash stands behind a backslash only. -/
inductive IsQuoted : Text → Prop
  | nil : IsQuoted []
  | plain {c : Char} {rest : Text} (ordinary : c ≠ '"' ∧ c ≠ '\\') (tail : IsQuoted rest) :
      IsQuoted (c :: rest)
  | hidden {c : Char} {rest : Text} (tail : IsQuoted rest) : IsQuoted ('\\' :: c :: rest)

/-- A sequence of plain characters and quoted strings. -/
inductive IsComplete : Text → Prop
  | nil : IsComplete []
  | plain {c : Char} {rest : Text} (plain : IsPlain c) (tail : IsComplete rest) :
      IsComplete (c :: rest)
  | quoted {inner rest : Text} (inside : IsQuoted inner) (tail : IsComplete rest) :
      IsComplete ('"' :: (inner ++ '"' :: rest))

/-- A word that is read as a whole; only an ASCII blank outside quotes would end it. -/
structure IsWord (word : Text) : Prop where
  nonempty : word ≠ []
  visible : ∀ c ∈ word.head?, isBlank c = false
  complete : IsComplete word

/-- A word without blanks and quotes. -/
structure IsPlainWord (word : Text) : Prop where
  nonempty : word ≠ []
  visible : ∀ c ∈ word, isBlank c = false
  unquoted : '"' ∉ word

variable {word rest inner : Text}

theorem isPlainWord_iff :
    IsPlainWord word ↔ word ≠ [] ∧ (word.all fun c => !isBlank c) = true ∧ '"' ∉ word := by
  simp only [List.all_eq_true, Bool.not_eq_true']
  exact ⟨fun plain => ⟨plain.nonempty, plain.visible, plain.unquoted⟩,
    fun ⟨nonempty, visible, unquoted⟩ => ⟨nonempty, visible, unquoted⟩⟩

instance (word : Text) : Decidable (IsPlainWord word) := decidable_of_iff' _ isPlainWord_iff

theorem isComplete_of_plain (plain : ∀ c ∈ word, IsPlain c) : IsComplete word := by
  induction word with
  | nil => exact .nil
  | cons c word ih =>
      rw [List.forall_mem_cons] at plain
      exact .plain plain.1 (ih plain.2)

theorem IsPlainWord.isComplete (plain : IsPlainWord word) : IsComplete word := by
  refine isComplete_of_plain fun c member => ⟨ne_of_mem_of_not_mem member plain.unquoted, ?_⟩
  rw [Bool.eq_false_iff]
  intro blank
  cases (plain.visible c member).symm.trans (isBlank_of_isAsciiBlank blank)

theorem IsPlainWord.isWord (plain : IsPlainWord word) : IsWord word where
  nonempty := plain.nonempty
  visible c first := plain.visible c (List.mem_of_mem_head? first)
  complete := plain.isComplete

theorem IsPlainWord.append (plain : IsPlainWord word) (more : IsPlainWord rest) :
    IsPlainWord (word ++ rest) where
  nonempty := List.append_ne_nil_of_left_ne_nil plain.nonempty rest
  visible := List.forall_mem_append.mpr ⟨plain.visible, more.visible⟩
  unquoted member := (List.mem_append.mp member).elim plain.unquoted more.unquoted

theorem isPlainWord_colon : IsPlainWord [':'] := by decide

theorem isPlainWord_of_isAsciiAlnum (nonempty : word ≠ [])
    (alnum : ∀ c ∈ word, isAsciiAlnum c = true) : IsPlainWord word where
  nonempty := nonempty
  visible c member := isBlank_of_isAsciiAlnum (alnum c member)
  unquoted member := absurd (alnum '"' member) (by decide)

theorem isPlainWord_of_isDigit (nonempty : word ≠ []) (numeral : word.all Char.isDigit = true) :
    IsPlainWord word := by
  rw [List.all_eq_true] at numeral
  exact isPlainWord_of_isAsciiAlnum nonempty fun c member =>
    isAsciiAlnum_of_isDigit (numeral c member)

theorem isQuoted_of_ordinary (unquoted : '"' ∉ inner) (unhidden : '\\' ∉ inner) :
    IsQuoted inner := by
  induction inner with
  | nil => exact .nil
  | cons c inner ih =>
      rw [List.mem_cons, not_or] at unquoted unhidden
      exact .plain ⟨Ne.symm unquoted.1, Ne.symm unhidden.1⟩ (ih unquoted.2 unhidden.2)

theorem IsComplete.append (complete : IsComplete word) (more : IsComplete rest) :
    IsComplete (word ++ rest) := by
  induction complete with
  | nil => exact more
  | plain plain _ ih => exact .plain plain ih
  | quoted inside _ ih =>
      rw [List.cons_append, List.append_assoc, List.cons_append]
      exact .quoted inside ih

/-- A word goes on with what may stand within a word. -/
theorem IsWord.append (isWord : IsWord word) (more : IsComplete rest) : IsWord (word ++ rest) := by
  obtain ⟨c, tail, rfl⟩ := List.exists_cons_of_ne_nil isWord.nonempty
  exact ⟨List.cons_ne_nil c _, isWord.visible, isWord.complete.append more⟩

/-! ## Reading one word -/

/-- A quoted string is read up to its closing quote. -/
theorem scanWord_quoted (inside : IsQuoted inner) (rest : Text) :
    scanWord true (inner ++ '"' :: rest) =
      (inner ++ '"' :: (scanWord false rest).1, (scanWord false rest).2) := by
  induction inside with
  | nil =>
      rw [List.nil_append, scanWord.eq_def]
      simp
  | plain ordinary _ ih =>
      rw [List.cons_append, scanWord.eq_def]
      simp [ordinary, ih]
  | hidden _ ih =>
      rw [List.cons_append, List.cons_append, scanWord.eq_def]
      simp [ih]

/-- A complete word is read on into what follows it. -/
theorem scanWord_append_of_isComplete (complete : IsComplete word) (rest : Text) :
    scanWord false (word ++ rest) = (word ++ (scanWord false rest).1, (scanWord false rest).2) := by
  induction complete with
  | nil => rfl
  | plain plain _ ih =>
      obtain ⟨unquoted, visible⟩ := plain
      rw [List.cons_append, scanWord.eq_def]
      simp [visible, unquoted, ih]
  | quoted inside _ ih =>
      rw [List.cons_append, List.append_assoc, List.cons_append, scanWord.eq_def]
      simp [isAsciiBlank, scanWord_quoted inside, ih]

theorem scanWord_of_endsWord (ends : EndsWord rest) : scanWord false rest = ([], rest) := by
  cases rest with
  | nil => rfl
  | cons c rest =>
      rw [scanWord.eq_def]
      simp [ends c rfl]

theorem trimStart_of_visible (visible : StartsVisible word) :
    trimStart word = word := by
  cases word with
  | nil => rfl
  | cons c word => exact List.dropWhile_cons_of_neg (by simp [visible c rfl])

theorem startsVisible_cons {c : Char} (shown : isBlank c = false) (rest : Text) :
    StartsVisible (c :: rest) := by
  rintro _ ⟨⟩
  exact shown

theorem IsWord.startsVisible_append (isWord : IsWord word) (rest : Text) :
    StartsVisible (word ++ rest) := by
  obtain ⟨c, tail, rfl⟩ := List.exists_cons_of_ne_nil isWord.nonempty
  exact startsVisible_cons (isWord.visible c rfl) (tail ++ rest)

theorem splitWord?_eq_some_iff :
    splitWord? text = some (word, rest) ↔
      trimStart text ≠ [] ∧ (scanWord false (trimStart text)).1 = word ∧
        trimStart (scanWord false (trimStart text)).2 = rest := by
  unfold splitWord?
  split
  · next empty => exact iff_of_false nofun fun found => found.1 empty
  · next nonempty =>
    rw [Option.some.injEq, Prod.mk.injEq]
    exact (and_iff_right nonempty).symm

theorem splitWord?_eq_none_iff : splitWord? text = none ↔ trimStart text = [] := by
  unfold splitWord?
  split
  · next empty => exact iff_of_true rfl empty
  · next nonempty => exact iff_of_false nofun nonempty

theorem splitWord?_append_of_isWord (isWord : IsWord word) (rest : Text) :
    splitWord? (word ++ rest) =
      some (word ++ (scanWord false rest).1, trimStart (scanWord false rest).2) := by
  obtain ⟨c, tail, rfl⟩ := List.exists_cons_of_ne_nil isWord.nonempty
  have start : trimStart (c :: tail ++ rest) = c :: tail ++ rest :=
    trimStart_of_visible isWord.visible
  rw [splitWord?_eq_some_iff, start, scanWord_append_of_isComplete isWord.complete]
  exact ⟨List.cons_ne_nil c _, rfl, rfl⟩

/-- A word that nothing or an ASCII blank follows is the first word of the text. -/
theorem splitWord?_append (isWord : IsWord word) (ends : EndsWord rest) :
    splitWord? (word ++ rest) = some (word, trimStart rest) := by
  rw [splitWord?_append_of_isWord isWord, scanWord_of_endsWord ends, List.append_nil]

theorem splitWord?_append_of_isAsciiAlnum (nonempty : word ≠ [])
    (alnum : ∀ c ∈ word, isAsciiAlnum c = true) (ends : EndsWord rest) :
    splitWord? (word ++ rest) = some (word, trimStart rest) :=
  splitWord?_append (isPlainWord_of_isAsciiAlnum nonempty alnum).isWord ends

theorem startsVisible_trimStart (text : Text) : StartsVisible (trimStart text) := by
  intro c first
  have kept := List.head?_dropWhile_not isBlank text
  rwa [show (text.dropWhile isBlank).head? = some c from first] at kept

theorem trimStart_trimStart (text : Text) : trimStart (trimStart text) = trimStart text :=
  trimStart_of_visible (startsVisible_trimStart text)

theorem splitWord?_trimStart (text : Text) : splitWord? (trimStart text) = splitWord? text := by
  unfold splitWord?
  rw [trimStart_trimStart]

/-! ## Reading one word after the other -/

theorem endsWord_nil : EndsWord [] := nofun

theorem endsWord_cons (rest : Text) : EndsWord (' ' :: rest) := by
  rintro c ⟨⟩
  rfl

theorem words_of_splitWord? {text : Text} (found : splitWord? text = some (word, rest)) :
    words text = word :: words rest := by
  rw [words.eq_def]
  split
  · next missing => cases found.symm.trans missing
  · next first others split =>
    cases found.symm.trans split
    rfl

theorem words_eq_nil_iff : words text = [] ↔ splitWord? text = none := by
  rw [words.eq_def]
  split
  · next missing => exact iff_of_true rfl missing
  · next found =>
    rw [found]
    exact iff_of_false (List.cons_ne_nil _ _) (Option.some_ne_none _)

theorem words_eq_cons_iff {others : List Text} :
    words text = word :: others ↔
      ∃ rest, splitWord? text = some (word, rest) ∧ words rest = others := by
  constructor
  · intro split
    cases found : splitWord? text with
    | none => cases (words_eq_nil_iff.mpr found).symm.trans split
    | some parts =>
        rw [words_of_splitWord? found, List.cons_eq_cons] at split
        obtain ⟨rfl, rfl⟩ := split
        exact ⟨parts.2, rfl, rfl⟩
  · rintro ⟨rest, found, rfl⟩
    exact words_of_splitWord? found

theorem words_trimStart (text : Text) : words (trimStart text) = words text := by
  rw [words.eq_def, words.eq_def text, splitWord?_trimStart]

theorem field?_trimStart (key text : Text) : field? key (trimStart text) = field? key text := by
  rw [field?, field?, words_trimStart]

/-! ## Dropping blanks -/

/-- What a tail leaves in front of it stays if it ends with a character that is kept. -/
theorem dropTail_append {drop : Char → Bool} {text : Text}
    (kept : ∀ c ∈ text.getLast?, drop c = false) (rest : Text) :
    dropTail drop (text ++ rest) = text ++ dropTail drop rest := by
  have whole : text.reverse.dropWhile drop = text.reverse := by
    cases reversed : text.reverse with
    | nil => rfl
    | cons c tail =>
        have last : text.getLast? = some c := by rw [← List.head?_reverse, reversed]; rfl
        exact List.dropWhile_cons_of_neg (by simp [kept c last])
  unfold dropTail
  rw [List.reverse_append, List.dropWhile_append, whole]
  split
  · next empty => simp [List.isEmpty_iff.mp empty]
  · simp

theorem dropTail_eq_self {drop : Char → Bool} {text : Text}
    (kept : ∀ c ∈ text.getLast?, drop c = false) : dropTail drop text = text := by
  have whole := dropTail_append kept []
  rw [List.append_nil] at whole
  exact whole.trans (List.append_nil text)

theorem mem_dropTail {drop : Char → Bool} {text : Text} {c : Char} (member : c ∈ text)
    (kept : drop c = false) : c ∈ dropTail drop text := by
  rw [dropTail, List.mem_reverse]
  have split := List.takeWhile_append_dropWhile (p := drop) (l := text.reverse)
  rw [← List.mem_reverse, ← split, List.mem_append] at member
  refine member.resolve_left fun dropped => ?_
  cases kept.symm.trans (List.all_eq_true.mp List.all_takeWhile c dropped)

/-- Blanks at the end are dropped behind a plain word only. -/
theorem trimEnd_append (plain : IsPlainWord word) (before rest : Text) :
    trimEnd (before ++ word ++ rest) = before ++ word ++ trimEnd rest := by
  refine dropTail_append (fun c last => plain.visible c ?_) rest
  rw [List.getLast?_append, List.getLast?_eq_some_getLast plain.nonempty] at last
  cases last
  exact List.getLast_mem plain.nonempty

/-- Blanks at both ends are dropped around a plain word. -/
theorem trim_append {before after : Text} (leading : ∀ c ∈ before, isBlank c = true)
    (plain : IsPlainWord word) (trailing : ∀ c ∈ after, isBlank c = true) :
    trim (before ++ word ++ after) = word := by
  have first : ∀ c ∈ (word ++ after).head?, isBlank c = false := by
    intro c start
    obtain ⟨other, tail, rfl⟩ := List.exists_cons_of_ne_nil plain.nonempty
    cases start
    exact plain.visible c List.mem_cons_self
  have front : trimStart (before ++ (word ++ after)) = word ++ after := by
    rw [trimStart, List.dropWhile_append_of_pos leading]
    exact trimStart_of_visible first
  have back : trimEnd after = [] := by
    have dropped : (after.reverse ++ []).dropWhile isBlank = [] :=
      List.dropWhile_append_of_pos fun c member => trailing c (List.mem_reverse.mp member)
    rw [List.append_nil] at dropped
    rw [trimEnd, dropTail, dropped, List.reverse_nil]
  have kept := trimEnd_append plain [] after
  rw [List.nil_append] at kept
  rw [trim, List.append_assoc, front, kept, back, List.append_nil]

theorem trimEnd_prefix (text : Text) : trimEnd text <+: text := by
  have kept := List.dropWhile_suffix (l := text.reverse) isBlank
  rw [← List.reverse_prefix, List.reverse_reverse] at kept
  exact kept

theorem EndsWord.trimEnd (ends : EndsWord rest) : EndsWord (trimEnd rest) := by
  intro c first
  obtain ⟨dropped, same⟩ := trimEnd_prefix rest
  apply ends c
  rw [← same, List.head?_append, Option.mem_def.mp first]
  rfl

end DeliveryTrace.Text
