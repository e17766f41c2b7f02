/-
Passkey/Url/Join.lean

Where a link on a page leads.
-/
import Passkey.Url.Reading

namespace Passkey.Url

/-- The address that a link on the page at `location` leads to.  A link that cannot be read
there is left as it is. -/
def resolve (location target : String) : String :=
  match read? none location with
  | none => target
  | some base =>
    match read? (some base) target with
    | none => target
    | some u => u.text

end Passkey.Url
