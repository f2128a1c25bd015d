import DeliveryTrace.Text.Utf8

/-! # Log windows

A window holds log lines in the order in which they were read. Under a limit it keeps the newest
lines only; a line that was dropped never comes back. A log need not be UTF-8: ill-formed bytes
spoil their own line and no other.
-/

namespace DeliveryTrace

/-- Bytes to read lines from, with the fault that ends the reading if it does not end well. -/
structure ByteSource where
  bytes : List UInt8
  fault? : Option Text := none

/-- Reading a log failed. -/
structure ReadFault where
  cause : Text
deriving DecidableEq

/-- The complaint about a failed read. -/
def ReadFault.message (fault : ReadFault) : Text :=
  "I/O error while reading mail server log: ".toList ++ fault.cause

/-- The newest lines that a limit leaves. -/
def keepNewest (limit : Option Nat) (lines : List Text) : List Text :=
  match limit with
  | none => lines
  | some most => lines.drop (lines.length - most)

/-- The lines read so far, never more than the limit. -/
structure Window where
  limit : Option Nat := none
  lines : List Text := []
  length_le : ∀ most ∈ limit, lines.length ≤ most := by simp

namespace Window

theorem length_keepNewest (limit : Option Nat) (lines : List Text) :
    ∀ most ∈ limit, (keepNewest limit lines).length ≤ most := by
  intro most member
  rw [Option.mem_def] at member
  subst member
  simp only [keepNewest, List.length_drop]
  omega

/-- The window that has these lines and no limit. -/
def ofLines (lines : List Text) : Window := { lines }

/-- Append lines; the oldest lines give way. -/
def append (window : Window) (added : List Text) : Window where
  limit := window.limit
  lines := keepNewest window.limit (window.lines ++ added)
  length_le := length_keepNewest window.limit (window.lines ++ added)

/-- Set or lift the limit. -/
def withLimit (window : Window) (limit : Option Nat) : Window where
  limit := limit
  lines := keepNewest limit window.lines
  length_le := length_keepNewest limit window.lines

/-- Carriage returns and line feeds end a line and are not kept. -/
def isLineEnd (c : Char) : Bool := c = '\r' || c = '\n'

/-- Append one line without its line end. -/
def push (window : Window) (line : Text) : Window :=
  window.append [Text.dropTail isLineEnd line]

/-- Read one byte, given the lines that are complete and the bytes of the last one, both newest
first. -/
def addByte : List (List UInt8) × List UInt8 → UInt8 → List (List UInt8) × List UInt8
  | (complete, tail), byte =>
    if byte = 0x0A then (tail.reverse :: complete, []) else (complete, byte :: tail)

/-- The bytes of each complete line without its line feed, and the bytes behind the last line
feed. -/
def splitLines (bytes : List UInt8) : List (List UInt8) × List UInt8 :=
  let (complete, tail) := bytes.foldl addByte ([], [])
  (complete.reverse, tail.reverse)

/-- The lines that reading a source yields. An unfinished last line counts only if the source ends
well. -/
def sourceLines (source : ByteSource) : List Text :=
  let (complete, tail) := splitLines source.bytes
  let unfinished := if tail = [] ∨ source.fault?.isSome then [] else [tail]
  (complete ++ unfinished).map fun line => Text.dropTail isLineEnd (Utf8.decodeLossy line)

/-- Append every line of a source. The answer is the number of lines read or the fault; lines read
before the fault stay. -/
def read (window : Window) (source : ByteSource) : Window × Except ReadFault Nat :=
  let lines := sourceLines source
  (window.append lines,
    match source.fault? with
    | none => .ok lines.length
    | some cause => .error ⟨cause⟩)

end Window

end DeliveryTrace
