/-
Passkey/Url/Authority.lean

The part of an address between `//` and the path: credentials, host and port.
-/
import Passkey.Url.Host
import Passkey.Url.Scheme

namespace Passkey.Url

open Passkey.Text

/-! ### Credentials -/

/-- The written form of a user name and a password, with the `@` behind them.  An empty
password is left out with its colon. -/
def writeCredentials (cs : List Char) : List Char :=
  let (user, password) := (cutAt ':' cs).getD (cs, [])
  let written := escape inCredentials user
    ++ if password.isEmpty then [] else ':' :: escape inCredentials password
  if written.isEmpty then [] else written ++ ['@']

/-- The texts before and after the last `@` of the part that names the host. -/
def cutAtLastSign (cs : List Char) : Option (List Char × List Char) :=
  if cs.contains '@' then
    let host := afterLast '@' cs
    some (cs.take (cs.length - host.length - 1), host)
  else none

/-- Reads the credentials and returns their written form and what follows them.  An `@` that
has nothing on either side is refused. -/
def readCredentials? (k : SchemeKind) (cs : List Char) : Option (List Char × List Char) :=
  let part := cs.takeWhile (!k.endsAuthority ·)
  let rest := cs.dropWhile (!k.endsAuthority ·)
  match cutAtLastSign part with
  | none => some ([], cs)
  | some ([], []) => if rest.isEmpty then some ([], []) else none
  | some (credentials, host) => some (writeCredentials credentials, host ++ rest)

/-! ### Host and port -/

/-- The length of the host at the start of a text.  A colon ends it, except between
brackets. -/
def hostLength (k : SchemeKind) (bracketed : Bool) : List Char → Nat
  | [] => 0
  | c :: rest =>
    if k.endsAuthority c || (c == ':' && !bracketed) then 0
    else hostLength k (c == '[' || (bracketed && c != ']')) rest + 1

/-- Largest number of a port. -/
def lastPort : Nat := 65535

/-- Reads the digits of a port and returns what follows it.  The usual port and an empty one
count as none. -/
def readPort? (scheme : String) (cs : List Char) : Option (Option Nat × List Char) :=
  let digits := cs.takeWhile Char.isDigit
  let rest := cs.dropWhile Char.isDigit
  let port := digits.foldl (fun n c => 10 * n + (c.toNat - '0'.toNat)) 0
  if lastPort < port || rest.head?.any (fun c => !isSlash c && !endsPath c) then none
  else if digits.isEmpty || usualPort? scheme = some port then some (none, rest)
  else some (some port, rest)

/-- Reads what stands between `//` and the path, in its written form, and returns what follows
it. -/
def readAuthority? (scheme : String) (cs : List Char) : Option (List Char × List Char) := do
  let k := SchemeKind.of scheme
  let (credentials, cs) ← readCredentials? k cs
  let length := hostLength k false cs
  let hostText := cs.take length
  let rest := cs.drop length
  let host ← if k.isSpecial then readHost? hostText else readOpaqueHost? hostText
  let empty := host.text.isEmpty
  match rest with
  | ':' :: rest =>
    if empty then none
    else
      let (port, rest) ← readPort? scheme rest
      let portText := match port with
        | some n => ':' :: (toString n).toList
        | none => []
      some (credentials ++ host.text ++ portText, rest)
  | _ => if empty && !credentials.isEmpty then none else some (credentials ++ host.text, rest)

end Passkey.Url
