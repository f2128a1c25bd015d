import DeliveryTrace.Text.Blank

/-! # Decoding UTF-8

A byte sequence is read as characters and ill-formed parts. An ill-formed part is as long as some
well-formed sequence could still begin with it, and the byte that breaks it is read afresh. Lossy
decoding shows each part as U+FFFD; strict decoding refuses the input.
-/

namespace DeliveryTrace.Utf8

/-- A character whose bytes are not all read yet: how many are missing, the bounds of the next one,
and the code gathered so far. -/
structure Partial where
  missing : Nat
  lowest : UInt8
  highest : UInt8
  code : Nat

/-- What a byte outside ASCII opens; the bounds of the second byte exclude overlong forms,
surrogates and codes past U+10FFFF. -/
def opened? (byte : UInt8) : Option Partial :=
  if 0xC2 ≤ byte && byte ≤ 0xDF then some ⟨1, 0x80, 0xBF, byte.toNat - 0xC0⟩
  else if byte = 0xE0 then some ⟨2, 0xA0, 0xBF, 0x0⟩
  else if byte = 0xED then some ⟨2, 0x80, 0x9F, 0xD⟩
  else if 0xE1 ≤ byte && byte ≤ 0xEF then some ⟨2, 0x80, 0xBF, byte.toNat - 0xE0⟩
  else if byte = 0xF0 then some ⟨3, 0x90, 0xBF, 0x0⟩
  else if byte = 0xF4 then some ⟨3, 0x80, 0x8F, 0x4⟩
  else if 0xF1 ≤ byte && byte ≤ 0xF3 then some ⟨3, 0x80, 0xBF, byte.toNat - 0xF0⟩
  else none

/-- Read a byte where a character may begin. `none` in the output marks an ill-formed part. -/
def start (byte : UInt8) : List (Option Char) × Option Partial :=
  if byte < 0x80 then ([some (Char.ofNat byte.toNat)], none)
  else
    match opened? byte with
    | some pending => ([], some pending)
    | none => ([none], none)

/-- Read a byte after an unfinished character, if there is one. -/
def step (pending? : Option Partial) (byte : UInt8) : List (Option Char) × Option Partial :=
  match pending? with
  | none => start byte
  | some pending =>
    if pending.lowest ≤ byte && byte ≤ pending.highest then
      let code := 64 * pending.code + (byte.toNat - 0x80)
      if pending.missing = 1 then ([some (Char.ofNat code)], none)
      else ([], some ⟨pending.missing - 1, 0x80, 0xBF, code⟩)
    else (none :: (start byte).1, (start byte).2)

/-- The characters and ill-formed parts of a byte sequence. -/
def units : (pending? : Option Partial) → List UInt8 → List (Option Char)
  | none, [] => []
  | some _, [] => [none]
  | pending?, byte :: rest => (step pending? byte).1 ++ units (step pending? byte).2 rest

/-- Decode a byte sequence, showing each ill-formed part as U+FFFD. -/
def decodeLossy (bytes : List UInt8) : Text :=
  (units none bytes).map fun unit => unit.getD '\uFFFD'

/-- Decode a well-formed byte sequence. -/
def decode? (bytes : List UInt8) : Option Text :=
  (units none bytes).mapM id

end DeliveryTrace.Utf8
