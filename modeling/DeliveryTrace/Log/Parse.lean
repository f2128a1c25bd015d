import DeliveryTrace.Log.Exim
import DeliveryTrace.Log.Format
import DeliveryTrace.Log.Postfix

/-! # Reading a log line

Reading is total: a line that the chosen grammar does not recognise comes back with its raw text
and nothing else.
-/

namespace DeliveryTrace

/-- Read one line of a log in the given format. -/
def LogLine.ofText (format : LogFormat) (raw : Text) : LogLine :=
  match format with
  | .eximLog => Exim.parse raw
  | .postfixLog => Postfix.parse raw

end DeliveryTrace
