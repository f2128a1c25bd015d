import DeliveryTrace.Proofs.Text.Word
import Mathlib.Data.List.Basic

/-! # Words cut by byte offsets

A text is stored as its UTF-8 bytes, and a scan over these bytes finds the offset at which the first
word ends. It knows ASCII only: inside quotes it skips the byte behind a backslash, which may be the
first of several of one character or not be there at all. The main statements say that each offset
lies between two characters, and that cutting word after word there ends with the words of the
text.
-/

namespace DeliveryTrace

/-! ## Bytes of a text -/

namespace Utf8

/-- The bytes of a text. -/
def encode (text : Text) : List UInt8 := text.flatMap String.utf8EncodeChar

/-- The byte is part of no ASCII character. -/
def IsHigh (byte : UInt8) : Prop := 0x80 ≤ byte.toNat

variable {c : Char} {text rest : Text}

theorem encode_cons (c : Char) (text : Text) :
    encode (c :: text) = String.utf8EncodeChar c ++ encode text :=
  List.flatMap_cons

theorem encode_append (text rest : Text) : encode (text ++ rest) = encode text ++ encode rest :=
  List.flatMap_append

theorem utf8EncodeChar_of_lt (ascii : c.toNat < 0x80) :
    String.utf8EncodeChar c = [UInt8.ofNat c.toNat] :=
  if_pos (Nat.le_of_lt_succ ascii)

theorem isHigh_ofNat {code : Nat} (beyond : 0x80 ≤ code) (small : code < 0x100) :
    IsHigh (UInt8.ofNat code) := by
  rwa [IsHigh, UInt8.toNat_ofNat_of_lt' small]

/-- A character beyond ASCII has no byte in common with ASCII. -/
theorem isHigh_of_mem_utf8EncodeChar (beyond : 0x80 ≤ c.toNat) :
    ∀ byte ∈ String.utf8EncodeChar c, IsHigh byte := by
  have large : ¬ c.val.toNat ≤ 127 := Nat.not_le.mpr beyond
  have follows : IsHigh (UInt8.ofNat (c.val.toNat % 64 + 128)) :=
    isHigh_ofNat (by omega) (by omega)
  have between (shift : Nat) : IsHigh (UInt8.ofNat (c.val.toNat / shift % 64 + 128)) :=
    isHigh_ofNat (by omega) (by omega)
  simp only [String.utf8EncodeChar, if_neg large]
  split
  · have lead : IsHigh (UInt8.ofNat (c.val.toNat / 64 % 32 + 192)) :=
      isHigh_ofNat (by omega) (by omega)
    simp only [List.forall_mem_cons, lead, follows, List.not_mem_nil, false_imp_iff, implies_true,
      and_self]
  · split
    · have lead : IsHigh (UInt8.ofNat (c.val.toNat / 4096 % 16 + 224)) :=
        isHigh_ofNat (by omega) (by omega)
      simp only [List.forall_mem_cons, lead, between, follows, List.not_mem_nil, false_imp_iff,
        implies_true, and_self]
    · have lead : IsHigh (UInt8.ofNat (c.val.toNat / 262144 % 8 + 240)) :=
        isHigh_ofNat (by omega) (by omega)
      simp only [List.forall_mem_cons, lead, between, follows, List.not_mem_nil, false_imp_iff,
        implies_true, and_self]

/-- Behind the first byte of a character stands nothing that is ASCII. -/
theorem exists_lead_of_utf8EncodeChar (c : Char) :
    ∃ lead tail, String.utf8EncodeChar c = lead :: tail ∧ ∀ byte ∈ tail, IsHigh byte := by
  by_cases ascii : c.toNat < 0x80
  · exact ⟨_, [], utf8EncodeChar_of_lt ascii, nofun⟩
  · have high := isHigh_of_mem_utf8EncodeChar (Nat.not_lt.mp ascii)
    have nonempty : String.utf8EncodeChar c ≠ [] := by
      rw [← List.length_pos_iff, String.length_utf8EncodeChar]
      exact c.utf8Size_pos
    obtain ⟨lead, tail, same⟩ := List.exists_cons_of_ne_nil nonempty
    rw [same, List.forall_mem_cons] at high
    exact ⟨lead, tail, same, high.2⟩

theorem length_encode_pos (nonempty : text ≠ []) : 0 < (encode text).length := by
  obtain ⟨c, rest, rfl⟩ := List.exists_cons_of_ne_nil nonempty
  rw [encode_cons, List.length_append, String.length_utf8EncodeChar]
  exact Nat.lt_of_lt_of_le c.utf8Size_pos (Nat.le_add_right _ _)

end Utf8

namespace Text

open Utf8

/-! ## The scan over bytes -/

/-- The ASCII blanks as bytes. -/
def isBlankByte (byte : UInt8) : Bool :=
  byte = 0x20 || byte = 0x09 || byte = 0x0A || byte = 0x0C || byte = 0x0D

/-- The offset at which the first word of some bytes ends, for a scan that has come to `offset`. A
backslash inside quotes makes it skip one byte, even at the end. -/
def wordEnd (bytes : List UInt8) (quoted : Bool) (offset : Nat) : Nat :=
  if inside : offset < bytes.length then
    let byte := bytes[offset]
    if byte = 0x5C && quoted then wordEnd bytes quoted (offset + 2)
    else if byte = 0x22 then wordEnd bytes (!quoted) (offset + 1)
    else if isBlankByte byte && !quoted then offset
    else wordEnd bytes quoted (offset + 1)
  else bytes.length
termination_by bytes.length - offset

variable {bytes front back part : List UInt8} {quoted : Bool}

theorem wordEnd_of_le {offset : Nat} (beyond : bytes.length ≤ offset) :
    wordEnd bytes quoted offset = bytes.length := by
  rw [wordEnd, dif_neg (Nat.not_lt.mpr beyond)]

/-- What the scan does at one byte. -/
theorem wordEnd_append_cons (front back : List UInt8) (byte : UInt8) (quoted : Bool) :
    wordEnd (front ++ byte :: back) quoted front.length =
      if byte = 0x5C && quoted then
        wordEnd (front ++ byte :: back) quoted (front.length + 2)
      else if byte = 0x22 then
        wordEnd (front ++ byte :: back) (!quoted) (front.length + 1)
      else if isBlankByte byte && !quoted then front.length
      else wordEnd (front ++ byte :: back) quoted (front.length + 1) := by
  have inside : front.length < (front ++ byte :: back).length := by simp
  have here : (front ++ byte :: back)[front.length] = byte := by simp
  rw [wordEnd, dif_pos inside]
  simp only [here]

/-- The scan passes over bytes beyond ASCII, inside quotes and outside. -/
theorem wordEnd_append_of_isHigh (high : ∀ byte ∈ part, IsHigh byte) (front back : List UInt8)
    (quoted : Bool) :
    wordEnd (front ++ (part ++ back)) quoted front.length =
      wordEnd (front ++ (part ++ back)) quoted (front.length + part.length) := by
  induction part generalizing front with
  | nil => rfl
  | cons byte part ih =>
      rw [List.forall_mem_cons] at high
      have differs (code : UInt8) (ascii : code.toNat < 0x80) : byte ≠ code := by
        rintro rfl
        exact Nat.not_le.mpr ascii high.1
      have visible : isBlankByte byte = false := by
        simp [isBlankByte, differs]
      have later := ih high.2 (front ++ [byte])
      rw [List.append_assoc, List.singleton_append, List.length_append, List.length_singleton]
        at later
      rw [List.cons_append, wordEnd_append_cons, visible]
      simp only [differs 0x5C (by decide), differs 0x22 (by decide), decide_false, Bool.false_and,
        Bool.false_eq_true, if_false, later, List.length_cons]
      congr 1
      omega

/-- An ASCII byte tells its character. -/
theorem ofNat_toNat_eq_iff {c : Char} (ascii : c.toNat < 0x80) (d : Char)
    (other : d.toNat < 0x80) : UInt8.ofNat c.toNat = UInt8.ofNat d.toNat ↔ c = d := by
  have small : (0x80 : Nat) ≤ 2 ^ 8 := by decide
  rw [← UInt8.toNat_inj, UInt8.toNat_ofNat_of_lt' (Nat.lt_of_lt_of_le ascii small),
    UInt8.toNat_ofNat_of_lt' (Nat.lt_of_lt_of_le other small), Char.toNat_inj]

variable {c : Char}

theorem eq_backslash_iff (ascii : c.toNat < 0x80) : UInt8.ofNat c.toNat = 0x5C ↔ c = '\\' :=
  ofNat_toNat_eq_iff ascii '\\' (by decide)

theorem eq_quote_iff (ascii : c.toNat < 0x80) : UInt8.ofNat c.toNat = 0x22 ↔ c = '"' :=
  ofNat_toNat_eq_iff ascii '"' (by decide)

theorem isBlankByte_ofNat (ascii : c.toNat < 0x80) :
    isBlankByte (UInt8.ofNat c.toNat) = isAsciiBlank c := by
  have same (d : Char) (other : d.toNat < 0x80) :
      decide (UInt8.ofNat c.toNat = UInt8.ofNat d.toNat) = decide (c = d) :=
    decide_eq_decide.mpr (ofNat_toNat_eq_iff ascii d other)
  rw [isAsciiBlank, ← same ' ' (by decide), ← same '\t' (by decide), ← same '\n' (by decide),
    ← same '\x0c' (by decide), ← same '\r' (by decide)]
  rfl

/-- The scan passes over a character that neither hides another one nor ends the word. -/
theorem wordEnd_append_encode (front : List UInt8) (rest : Text)
    (unhidden : (quoted && c = '\\') = false) (goes : (!quoted && isAsciiBlank c) = false) :
    wordEnd (front ++ encode (c :: rest)) quoted front.length =
      wordEnd (front ++ encode (c :: rest)) (if c = '"' then !quoted else quoted)
        (front.length + (String.utf8EncodeChar c).length) := by
  rw [encode_cons]
  by_cases ascii : c.toNat < 0x80
  · rw [utf8EncodeChar_of_lt ascii, List.singleton_append, wordEnd_append_cons,
      isBlankByte_ofNat ascii, List.length_singleton]
    simp only [eq_backslash_iff ascii, eq_quote_iff ascii]
    rw [Bool.and_comm, unhidden, Bool.and_comm (isAsciiBlank c), goes, if_neg Bool.false_ne_true,
      if_neg Bool.false_ne_true]
    split
    · rfl
    · rfl
  · have plain : c ≠ '"' := by
      rintro rfl
      exact ascii (by decide)
    rw [if_neg plain]
    exact wordEnd_append_of_isHigh (isHigh_of_mem_utf8EncodeChar (Nat.not_lt.mp ascii)) front _ _

/-- Behind a backslash inside quotes the scan passes over a whole character. -/
theorem wordEnd_append_hidden (front : List UInt8) (hidden : Char) (rest : Text) :
    wordEnd (front ++ encode ('\\' :: hidden :: rest)) true front.length =
      wordEnd (front ++ encode ('\\' :: hidden :: rest)) true
        (front.length + (1 + (String.utf8EncodeChar hidden).length)) := by
  obtain ⟨lead, tail, same, high⟩ := exists_lead_of_utf8EncodeChar hidden
  have skipped := wordEnd_append_of_isHigh high (front ++ [0x5C, lead]) (encode rest) true
  have whole : front ++ encode ('\\' :: hidden :: rest) =
      front ++ [0x5C, lead] ++ (tail ++ encode rest) := by
    rw [encode_cons, encode_cons, same, List.append_assoc]
    rfl
  have slash : front ++ [0x5C, lead] ++ (tail ++ encode rest) =
      front ++ 0x5C :: lead :: (tail ++ encode rest) := List.append_assoc _ _ _
  rw [whole, same, slash, wordEnd_append_cons, if_pos (by decide), ← slash]
  rw [List.length_append, List.length_cons, List.length_singleton] at skipped
  rw [skipped, List.length_cons]
  congr 1
  omega

/-- The scan stops in front of an ASCII blank outside quotes. -/
theorem wordEnd_append_blank (front : List UInt8) (rest : Text) (blank : isAsciiBlank c = true) :
    wordEnd (front ++ encode (c :: rest)) false front.length = front.length := by
  have ascii : c.toNat < 0x80 := by
    simp only [isAsciiBlank, Bool.or_eq_true, decide_eq_true_eq] at blank
    rcases blank with (((rfl | rfl) | rfl) | rfl) | rfl <;> decide
  have plain : c ≠ '"' := by
    rintro rfl
    cases blank
  rw [encode_cons, utf8EncodeChar_of_lt ascii, List.singleton_append, wordEnd_append_cons,
    isBlankByte_ofNat ascii, blank]
  simp only [eq_quote_iff ascii, plain, Bool.and_false, Bool.false_eq_true, if_false,
    Bool.not_false, Bool.and_self, if_true]

/-- The scan over bytes stops where the scan over characters does. -/
theorem wordEnd_encode (quoted : Bool) (text : Text) (front : List UInt8) :
    wordEnd (front ++ encode text) quoted front.length =
      front.length + (encode (scanWord quoted text).1).length := by
  fun_induction scanWord quoted text generalizing front with
  | case1 quoted =>
      rw [show encode [] = [] from rfl, List.append_nil]
      exact wordEnd_of_le (Nat.le_refl _)
  | case2 quoted c slash =>
      obtain ⟨rfl, rfl⟩ : quoted = true ∧ c = '\\' := by simpa using slash
      rw [show encode ['\\'] = [0x5C] from rfl, wordEnd_append_cons, if_pos (by decide),
        wordEnd_of_le (by simp), List.length_append]
  | case3 quoted c slash hidden rest word after same ih =>
      obtain ⟨rfl, rfl⟩ : quoted = true ∧ c = '\\' := by simpa using slash
      have later := ih (front ++ (0x5C :: String.utf8EncodeChar hidden))
      have whole (tail : Text) : encode ('\\' :: hidden :: tail) =
          0x5C :: String.utf8EncodeChar hidden ++ encode tail := by
        rw [encode_cons, encode_cons, ← List.append_assoc]
        rfl
      rw [same, List.append_assoc, ← whole, List.length_append, List.length_cons] at later
      rw [wordEnd_append_hidden, whole word, List.length_append, List.length_cons,
        Nat.add_comm 1, later, Nat.add_assoc]
  | case4 quoted c rest unhidden ends =>
      obtain ⟨rfl, blank⟩ : quoted = false ∧ isAsciiBlank c = true := by simpa using ends
      exact wordEnd_append_blank front rest blank
  | case5 quoted c rest unhidden goes word after same ih =>
      have later := ih (front ++ String.utf8EncodeChar c)
      rw [same, List.append_assoc, ← encode_cons, List.length_append] at later
      rw [wordEnd_append_encode front rest (Bool.eq_false_iff.mpr unhidden)
        (Bool.eq_false_iff.mpr goes), encode_cons c word, List.length_append]
      exact later.trans (Nat.add_assoc _ _ _)

/-! ## Cutting at an offset -/

/-- The parts of a text in front of a byte offset and behind it. There are none if the offset lies
within a character or beyond the text. -/
def splitAt? : (offset : Nat) → Text → Option (Text × Text)
  | 0, text => some ([], text)
  | _ + 1, [] => none
  | offset + 1, c :: rest =>
    if c.utf8Size ≤ offset + 1 then
      (splitAt? (offset + 1 - c.utf8Size) rest).map fun (before, after) => (c :: before, after)
    else none

/-- A text can be cut at an offset exactly if the offset lies between two of its characters. -/
theorem splitAt?_eq_some_iff {offset : Nat} {text before after : Text} :
    splitAt? offset text = some (before, after) ↔
      text = before ++ after ∧ offset = (encode before).length := by
  have first (d : Char) (others : Text) :
      (encode (d :: others)).length = d.utf8Size + (encode others).length := by
    rw [encode_cons, List.length_append, String.length_utf8EncodeChar]
  fun_induction splitAt? offset text generalizing before with
  | case1 text =>
      constructor
      · rintro ⟨⟩
        exact ⟨rfl, rfl⟩
      · rintro ⟨rfl, nothing⟩
        cases before with
        | nil => rfl
        | cons c others =>
            exact absurd nothing (Nat.ne_of_lt (length_encode_pos (List.cons_ne_nil c others)))
  | case2 offset =>
      refine iff_of_false nofun ?_
      rintro ⟨whole, reached⟩
      obtain ⟨rfl, _⟩ := List.append_eq_nil_iff.mp whole.symm
      cases reached
  | case3 offset c rest fits ih =>
      constructor
      · intro found
        obtain ⟨⟨front, _⟩, inner, same⟩ := Option.map_eq_some_iff.mp found
        cases same
        obtain ⟨rfl, left⟩ := ih.mp inner
        refine ⟨rfl, ?_⟩
        rw [first, ← left, Nat.add_sub_cancel' fits]
      · rintro ⟨whole, reached⟩
        cases before with
        | nil => cases reached
        | cons d others =>
            obtain ⟨rfl, rest_eq⟩ := List.cons.inj whole
            have left : offset + 1 - c.utf8Size = (encode others).length := by
              rw [first] at reached
              exact Nat.sub_eq_of_eq_add' reached
            exact Option.map_eq_some_iff.mpr ⟨_, ih.mpr ⟨rest_eq, left⟩, rfl⟩
  | case4 offset c rest exceeds =>
      refine iff_of_false nofun ?_
      rintro ⟨whole, reached⟩
      cases before with
      | nil => cases reached
      | cons d others =>
          obtain ⟨rfl, _⟩ := List.cons.inj whole
          rw [first] at reached
          exact exceeds (Nat.le.intro reached.symm)

/-- **The first word ends between two characters.** The cut at the end that the scan over bytes
finds parts the text into the first word and what stands behind it. -/
theorem splitAt?_wordEnd (text : Text) :
    splitAt? (wordEnd (encode text) false 0) text = some (scanWord false text) := by
  have ends := wordEnd_encode false text []
  rw [List.nil_append, List.length_nil, Nat.zero_add] at ends
  exact splitAt?_eq_some_iff.mpr ⟨(scanWord_append false text).symm, ends⟩

/-- Blanks in front of a text are skipped, the text is cut at the end of its first word, and so on
with what stands behind it. This comes to an end, with these words, and no cut fails. -/
inductive CutsInto : Text → List Text → Prop
  | finished {text : Text} (blank : trimStart text = []) : CutsInto text []
  | word {text word rest : Text} {others : List Text} (visible : trimStart text ≠ [])
      (cut : splitAt? (wordEnd (encode (trimStart text)) false 0) (trimStart text) =
        some (word, rest))
      (tail : CutsInto rest others) : CutsInto text (word :: others)

/-- Blanks in front of a text are of no account for where it is cut. -/
theorem CutsInto.of_trimStart_eq {text other : Text} {written : List Text}
    (cuts : CutsInto text written) (same : trimStart other = trimStart text) :
    CutsInto other written := by
  cases cuts with
  | finished blank => exact .finished (same.trans blank)
  | word visible cut tail =>
      rw [← same] at visible cut
      exact .word visible cut tail

theorem cutsInto_words (text : Text) : CutsInto text (words text) := by
  induction text using words.induct with
  | case1 text missing =>
      rw [words_eq_nil_iff.mpr missing]
      exact .finished (splitWord?_eq_none_iff.mp missing)
  | case2 text word rest found ih =>
      rw [words_of_splitWord? found]
      obtain ⟨visible, rfl, rfl⟩ := splitWord?_eq_some_iff.mp found
      exact .word visible (splitAt?_wordEnd _) (ih.of_trimStart_eq (trimStart_trimStart _).symm)

/-- **Cutting by byte offsets reads the words of a text.** -/
theorem cutsInto_iff {text : Text} {written : List Text} :
    CutsInto text written ↔ words text = written := by
  constructor
  · intro cuts
    induction cuts with
    | finished blank => exact words_eq_nil_iff.mpr (splitWord?_eq_none_iff.mpr blank)
    | @word text word rest others visible cut _ ih =>
        rw [splitAt?_wordEnd, Option.some.injEq] at cut
        have found : splitWord? text = some (word, trimStart rest) :=
          splitWord?_eq_some_iff.mpr ⟨visible, by rw [cut], by rw [cut]⟩
        rw [words_of_splitWord? found, words_trimStart, ih]
  · rintro rfl
    exact cutsInto_words text

end Text

end DeliveryTrace
