import DeliveryTrace.Text.Cut

/-! # Readers

A reader takes a value from the start of a text and returns the rest, which is never longer than
the text. That bound is part of the reader's type, so a repetition that takes at least one
character in each round needs no other reason to end.
-/

namespace DeliveryTrace.Ron

/-- Why reading stopped: the text is malformed, or a well-formed value was refused. -/
inductive Fault (ε : Type) where
  | malformed
  | refused (cause : ε)
deriving DecidableEq

/-- A value and the rest of a text, which is no longer than the text. -/
abbrev Found (α : Type) (text : Text) : Type :=
  { found : α × Text // found.2.length ≤ text.length }

/-- Takes a value from the start of a text, or fails. -/
def Reader (ε α : Type) : Type := (text : Text) → Except (Fault ε) (Found α text)

namespace Reader

variable {ε α β σ : Type}

instance : Monad (Reader ε) where
  pure value := fun text => .ok ⟨(value, text), Nat.le_refl _⟩
  bind reader next := fun text =>
    match reader text with
    | .error fault => .error fault
    | .ok ⟨(value, rest), shorter⟩ =>
      match next value rest with
      | .error fault => .error fault
      | .ok ⟨found, shorterStill⟩ => .ok ⟨found, Nat.le_trans shorterStill shorter⟩

/-- Fail because the text is malformed. -/
def malformed : Reader ε α := fun _ => .error .malformed

/-- Refuse the value that was read. -/
def refuse (cause : ε) : Reader ε α := fun _ => .error (.refused cause)

/-- Fail unless a condition holds. -/
def require (condition : Bool) : Reader ε Unit := if condition then pure () else malformed

/-- What a function says of the text to come. -/
def ahead (look : Text → β) : Reader ε β := fun text => .ok ⟨(look text, text), Nat.le_refl _⟩

/-- Take the next character. -/
def next : Reader ε Char
  | [] => .error .malformed
  | c :: rest => .ok ⟨(c, rest), Nat.le_succ _⟩

/-- Take the next character, which must be the given one. -/
def char (c : Char) : Reader ε Unit := do
  let found ← next
  require (found = c)

/-- Take the longest run of characters that satisfy a test. -/
def run (test : Char → Bool) : Reader ε Text := fun text =>
  .ok ⟨(text.takeWhile test, text.dropWhile test), (List.dropWhile_suffix test).length_le⟩

/-- Take as many characters as a function counts at the start of the text. -/
def first (count : Text → Nat) : Reader ε Text := fun text =>
  .ok ⟨(text.take (count text), text.drop (count text)), by simp⟩

/-- Take a mark if it comes next and the text behind it passes a test; say whether it was taken. -/
def takes (mark : Text) (behind : Text → Bool) : Reader ε Bool := fun text =>
  match found : Text.behind? mark text with
  | none => .ok ⟨(false, text), Nat.le_refl _⟩
  | some rest =>
    if behind rest then .ok ⟨(true, rest), Text.length_of_behind? found⟩
    else .ok ⟨(false, text), Nat.le_refl _⟩

/-- Take a mark if it comes next; say whether it was taken. -/
def takesMark (mark : Text) : Reader ε Bool := takes mark fun _ => true

/-- Read with the second reader what is malformed for the first. -/
def orElse (first second : Reader ε α) : Reader ε α := fun text =>
  match first text with
  | .error .malformed => second text
  | answer => answer

/-- Run a reader on a text that it must take as a whole. -/
def onWhole (reader : Reader ε α) (text : Text) : Except (Fault ε) α :=
  match reader text with
  | .error fault => .error fault
  | .ok ⟨(value, []), _⟩ => .ok value
  | .ok _ => .error .malformed

end Reader

end DeliveryTrace.Ron
