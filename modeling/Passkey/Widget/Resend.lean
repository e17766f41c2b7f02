/-
Passkey/Widget/Resend.lean

The button that sends a code again stays disabled for a delay that the server
chooses.
-/
import Passkey.Decimal.Reading
import Passkey.Text.Blank

namespace Passkey.Widget

/-- Classes of the icon while the button waits. -/
def waitingIconClasses : List String := ["hourglass", "half"]

/-- Class of the icon once the button is usable. -/
def readyIconClass : String := "send"

/-- The longest delay, in milliseconds. -/
def maxResendDelay : Nat := 0xFFFFFFFF

/-- The delay in milliseconds, read from a text in seconds.  A text that is
missing or no number, and a delay that is not positive or not finite, mean
that there is nothing to wait for. -/
def resendDelay (delay : Option String) : Option Nat :=
  (delay.bind fun s => Decimal.float? (Text.trim s)).bind fun seconds =>
    if seconds.isFinite && seconds > 0 then
      let millis := (seconds * 1000).round
      if millis > Float.ofNat maxResendDelay then some maxResendDelay
      else some millis.toUInt64.toNat
    else none

end Passkey.Widget
