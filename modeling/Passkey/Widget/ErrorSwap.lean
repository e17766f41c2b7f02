/-
Passkey/Widget/ErrorSwap.lean

Fragment loaders drop error responses by default.  The server renders its
error pages to be shown, so they are swapped in like any other response.
-/
namespace Passkey.Widget

/-- Whether a response with this status is swapped in although it is an error. -/
def forcesErrorSwap (status : Float) : Bool :=
  status ≥ 400

end Passkey.Widget
