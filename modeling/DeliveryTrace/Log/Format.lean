import DeliveryTrace.Text.Quoted

/-! # Log formats

The mail servers whose logs are understood, and how a setting names them.
-/

namespace DeliveryTrace

/-- The mail server whose log grammar reads a window. -/
inductive LogFormat where
  | eximLog
  | postfixLog
deriving DecidableEq

namespace LogFormat

/-- Exim is assumed unless a setting says otherwise. -/
instance : Inhabited LogFormat := ⟨eximLog⟩

/-- The canonical name of a format. -/
def name : LogFormat → Text
  | eximLog => "exim".toList
  | postfixLog => "postfix".toList

/-- The format that a setting names; blanks around the name and ASCII case do not matter. -/
def ofName? (setting : Text) : Option LogFormat :=
  let plain := (Text.trim setting).map Char.toLower
  if plain = "exim".toList || plain = "exim4".toList then some eximLog
  else if plain = "postfix".toList then some postfixLog
  else none

/-- The complaint about a setting that names no format. -/
def unsupportedMessage (setting : Text) : Text :=
  "Unsupported MTA log format: ".toList ++ Text.quoted .message setting ++
    " (expected \"exim\" or \"postfix\")".toList

end LogFormat

end DeliveryTrace
