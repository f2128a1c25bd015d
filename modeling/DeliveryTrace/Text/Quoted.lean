import DeliveryTrace.Text.Printable

/-! # Quoted text

A quoted text stands between double quotes. Backslashes and quotes are escaped, the common control
characters have short escapes, and every other hidden character is written by its code.
-/

namespace DeliveryTrace.Text

/-- How a text is quoted: whether an apostrophe is escaped too. -/
structure QuoteStyle where
  escapesApostrophe : Bool

/-- Error messages leave apostrophes alone. -/
def QuoteStyle.message : QuoteStyle := ⟨false⟩

/-- Reports in object notation escape apostrophes. -/
def QuoteStyle.report : QuoteStyle := ⟨true⟩

/-- The written form of one character between quotes. -/
def escape (style : QuoteStyle) (c : Char) : Text :=
  if c = '\x00' then ['\\', '0']
  else if c = '\t' then ['\\', 't']
  else if c = '\n' then ['\\', 'n']
  else if c = '\r' then ['\\', 'r']
  else if c = '\\' || c = '"' then ['\\', c]
  else if c = '\'' then if style.escapesApostrophe then ['\\', c] else [c]
  else if isShown c then [c]
  else ['\\', 'u', '\x7b'] ++ Nat.toDigits 16 c.toNat ++ ['\x7d']

/-- A text between double quotes. -/
def quoted (style : QuoteStyle) (text : Text) : Text :=
  ['"'] ++ text.flatMap (escape style) ++ ['"']

end DeliveryTrace.Text
