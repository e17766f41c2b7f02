/-
Passkey/Widget/Password.lean

The icon beside a password field that shows and hides what was typed.
-/
import Passkey.Text.Case

namespace Passkey.Widget

/-- Whether a password field shows its text, read from its input type. -/
inductive Visibility where
  | hidden
  | shown
deriving DecidableEq, Repr

namespace Visibility

/-- Only the type `password`, in any ASCII case, hides the text. -/
def ofInputType (inputType : String) : Visibility :=
  if Text.sameAscii inputType "password" then hidden else shown

/-- The other state. -/
def toggled : Visibility → Visibility
  | hidden => shown
  | shown => hidden

/-- The input type of a field in this state. -/
def inputType : Visibility → String
  | hidden => "password"
  | shown => "text"

/-- Classes that the icon gains in this state. -/
def addedClasses : Visibility → List String
  | hidden => ["eye"]
  | shown => ["eye", "slash"]

/-- Classes that the icon loses in this state. -/
def removedClasses : Visibility → List String
  | hidden => ["slash"]
  | shown => []

/-- The initial state and the states after each of `n` toggles. -/
def history (v : Visibility) : Nat → List Visibility
  | 0 => [v]
  | n + 1 => v :: v.toggled.history n

end Visibility

/-- Whether a key pressed on the icon toggles it: Enter, or the space bar
under either of its names. -/
def activatesToggle (key : String) : Bool :=
  key == "Enter" || key == " " || key == "Spacebar"

end Passkey.Widget
