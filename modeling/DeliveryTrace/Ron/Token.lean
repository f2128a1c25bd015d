import DeliveryTrace.Ron.Reader
import DeliveryTrace.Text.Identifier
import DeliveryTrace.Text.Utf8

/-! # The tokens of object notation

Blanks with comments, names, texts and characters.
-/

namespace DeliveryTrace.Ron

open Text

variable {ε : Type}

/-! ## Blanks and comments -/

/-- The characters of the Unicode property `Pattern_White_Space`. -/
def isPatternBlank (c : Char) : Bool :=
  let code := c.toNat
  (0x09 ≤ code && code ≤ 0x0D) || code = 0x20 || code = 0x85 || code = 0x200E || code = 0x200F ||
    code = 0x2028 || code = 0x2029

/-- Where a run of blanks and comments stands. -/
inductive Gap where
  | blanks
  | lineComment
  /-- A block comment, with the number of comments around it. -/
  | blockComment (outer : Nat)

/-- Drop blanks, comments up to the end of a line, and nested block comments, each of which must be
closed. -/
def dropGap? : Gap → Text → Option Text
  | .blanks, '/' :: '/' :: rest => dropGap? .lineComment rest
  | .blanks, '/' :: '*' :: rest => dropGap? (.blockComment 0) rest
  | .blanks, '/' :: _ => none
  | .blanks, c :: rest => if isPatternBlank c then dropGap? .blanks rest else some (c :: rest)
  | .lineComment, '\n' :: rest => dropGap? .blanks rest
  | .lineComment, _ :: rest => dropGap? .lineComment rest
  | .blockComment outer, '/' :: '*' :: rest => dropGap? (.blockComment (outer + 1)) rest
  | .blockComment 0, '*' :: '/' :: rest => dropGap? .blanks rest
  | .blockComment (outer + 1), '*' :: '/' :: rest => dropGap? (.blockComment outer) rest
  | .blockComment outer, _ :: rest => dropGap? (.blockComment outer) rest
  | .blockComment _, [] => none
  | .blanks, [] | .lineComment, [] => some []

theorem length_of_dropGap? {gap : Gap} {text rest : Text} (dropped : dropGap? gap text = some rest) :
    rest.length ≤ text.length := by
  fun_induction dropGap? gap text <;> grind

/-- Skip blanks and comments. -/
def gap : Reader ε Unit := fun text =>
  match dropped : dropGap? .blanks text with
  | none => .error .malformed
  | some rest => .ok ⟨((), rest), length_of_dropGap? dropped⟩

/-! ## Names -/

/-- The characters of a name behind the mark `r#`. -/
def isRawNameChar (c : Char) : Bool := isNameContinue c || c = '.' || c = '+' || c = '-'

/-- The marks that open a text, a byte string or a byte rather than a name. -/
def literalMarks : List Text :=
  ["b\"", "b'", "br#", "br\"", "r\"", "r#\"", "r##"].map String.toList

/-- Whether a name comes next. -/
def startsName (text : Text) : Bool :=
  text.head?.any isNameStart && !literalMarks.any fun mark => startsWith mark text

/-- A name. Dots, signs and hyphens are name characters only behind the mark `r#`, so a plain name
must not run into one. -/
def name : Reader ε Text := do
  Reader.require (← Reader.ahead startsName)
  if ← Reader.takesMark ['r', '#'] then
    let name ← Reader.run isRawNameChar
    Reader.require (name ≠ [])
    return name
  else
    let name ← Reader.run isNameContinue
    Reader.require (← Reader.ahead fun rest => !rest.head?.any isRawNameChar)
    return name

/-- Take a given name if it comes next; say whether it was taken. -/
def takesName (name : Text) : Reader ε Bool :=
  Reader.takes name fun rest => !rest.head?.any isNameContinue

/-! ## Texts -/

/-- Hexadecimal digits in either case. -/
def isHexDigit (c : Char) : Bool :=
  c.isDigit || ('a' ≤ c && c ≤ 'f') || ('A' ≤ c && c ≤ 'F')

/-- The value of a hexadecimal digit. -/
def hexDigit (c : Char) : Nat :=
  if c.isDigit then c.toNat - '0'.toNat
  else if 'a' ≤ c then c.toNat - 'a'.toNat + 10
  else c.toNat - 'A'.toNat + 10

/-- The number that digits denote in a base up to sixteen. -/
def ofBaseDigits (base : Nat) (digits : Text) : Nat :=
  digits.foldl (fun value c => base * value + hexDigit c) 0

/-- A byte written as two hexadecimal digits. -/
def hexByte : Reader ε UInt8 := do
  let high ← Reader.next
  let low ← Reader.next
  Reader.require (isHexDigit high && isHexDigit low)
  return UInt8.ofNat (ofBaseDigits 16 [high, low])

/-- A character written by one to six hexadecimal digits in braces. -/
def bracedChar : Reader ε Char := do
  Reader.char '\x7b'
  let digits ← Reader.run isHexDigit
  Reader.char '\x7d'
  let code := ofBaseDigits 16 digits
  Reader.require (0 < digits.length && digits.length ≤ 6 && decide code.isValidChar)
  return Char.ofNat code

/-- A character whose UTF-8 bytes are escaped one by one, from its second byte on. -/
def furtherBytes (pending : Utf8.Partial) : (most : Nat) → Reader ε Char
  | 0 => Reader.malformed
  | most + 1 => do
    Reader.require (← Reader.takesMark ['\\', 'x'])
    let byte ← hexByte
    match Utf8.step (some pending) byte with
    | ([some c], none) => return c
    | ([], some pending) => furtherBytes pending most
    | _ => Reader.malformed

/-- The literals that may hold escapes. -/
inductive Literal where
  /-- A quoted text. -/
  | text
  /-- A character between apostrophes. -/
  | character
  /-- A quoted byte string. -/
  | bytes
  /-- A byte between apostrophes. -/
  | byte
deriving DecidableEq

/-- The character of an escape behind its backslash. Among bytes an escaped byte stands for itself.
Elsewhere it must be ASCII, except that escaped bytes in a text may form a character together. A
single byte is never escaped by a code point. -/
def escape (literal : Literal) : Reader ε Char := do
  let c ← Reader.next
  match c with
  | '\'' | '"' | '\\' => return c
  | 'n' => return '\n'
  | 'r' => return '\r'
  | 't' => return '\t'
  | '0' => return '\x00'
  | 'u' => do
    Reader.require (literal ≠ .byte)
    bracedChar
  | 'x' => do
    let byte ← hexByte
    if literal = .bytes || literal = .byte then return Char.ofNat byte.toNat
    else
      match Utf8.start byte with
      | ([some c], none) => return c
      | ([], some pending) => do
        Reader.require (literal = .text)
        furtherBytes pending 3
      | _ => Reader.malformed
  | _ => Reader.malformed

/-- Take the end of a line; say whether it was taken. -/
def takesLineEnd : Reader ε Bool := do
  if ← Reader.takesMark ['\n'] then return true else Reader.takesMark ['\r', '\n']

/-- The blanks that a continued line may start with, further line ends included. -/
def isContinuationBlank (c : Char) : Bool := c = ' ' || c = '\t' || c = '\n' || c = '\r'

/-- What a backslash and the text behind it stand for between quotes. At the end of a line it
continues the text at the first character of a later line that is no blank, and stands for nothing;
elsewhere it opens an escape. -/
def backslashed (literal : Literal) : Reader ε Text := do
  if ← takesLineEnd then
    let _ ← Reader.run isContinuationBlank
    return []
  else
    let c ← escape literal
    return [c]

/-- The characters that a quoted text shows as they are. -/
def isPlain (c : Char) : Bool := c ≠ '"' && c ≠ '\\'

/-- A quoted text up to its closing quote, which is taken too; `before` holds the part that was
read already. -/
def quotedBody (literal : Literal) (before : Text) (text : Text) :
    Except (Fault ε) (Found Text text) :=
  have bound : (text.dropWhile isPlain).length ≤ text.length :=
    (List.dropWhile_suffix isPlain).length_le
  match rest : text.dropWhile isPlain with
  | '"' :: behind => .ok ⟨(before ++ text.takeWhile isPlain, behind), by
      rw [rest, List.length_cons] at bound
      exact Nat.le_of_succ_le bound⟩
  | '\\' :: behind =>
    match backslashed literal behind with
    | .error fault => .error fault
    | .ok ⟨(escaped, afterEscape), shorter⟩ =>
      have decreases : afterEscape.length < text.length := by
        rw [rest, List.length_cons] at bound
        exact Nat.lt_of_le_of_lt shorter bound
      match quotedBody literal (before ++ text.takeWhile isPlain ++ escaped) afterEscape with
      | .error fault => .error fault
      | .ok ⟨found, shorterRest⟩ =>
        .ok ⟨found, Nat.le_trans shorterRest (Nat.le_of_lt decreases)⟩
  | _ => .error .malformed
termination_by text.length

theorem length_of_cut? {mark text before after : Text}
    (found : cut? mark text = some (before, after)) : after.length ≤ text.length := by
  rw [append_of_cut? found, List.length_append]
  exact Nat.le_add_left _ _

/-- Everything up to a mark, which is taken too. -/
def upTo (mark : Text) : Reader ε Text := fun text =>
  match found : cut? mark text with
  | none => .error .malformed
  | some (before, after) => .ok ⟨(before, after), length_of_cut? found⟩

/-- A raw text behind its mark: hashes and a quote, then everything up to the next quote with as
many hashes. -/
def rawBody : Reader ε Text := do
  let hashes ← Reader.run (· = '#')
  Reader.char '"'
  upTo ('"' :: hashes)

/-- A text, quoted or raw. -/
def text : Reader ε Text := do
  if ← Reader.takesMark ['"'] then quotedBody .text []
  else
    Reader.char 'r'
    rawBody

end DeliveryTrace.Ron
