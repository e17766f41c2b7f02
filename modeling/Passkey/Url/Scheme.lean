/-
Passkey/Url/Scheme.lean

Schemes and what they decide.

The special schemes name their resources by a host, so their addresses always
have one, take a backslash for a slash and leave out the usual port.  Files
have rules of their own.  Any other scheme is taken as it is written.
-/
import Passkey.Text.Case

namespace Passkey.Url

open Passkey.Text

/-- The kinds of schemes. -/
inductive SchemeKind where
  /-- Local files. -/
  | file
  /-- A scheme with a host and a usual port. -/
  | special
  /-- Any other scheme. -/
  | other
deriving DecidableEq, Repr

/-- The special schemes and their usual ports. -/
def specialSchemes : List (String × Nat) :=
  [("http", 80), ("https", 443), ("ws", 80), ("wss", 443), ("ftp", 21)]

/-- The usual port of a scheme. -/
def usualPort? (scheme : String) : Option Nat :=
  specialSchemes.lookup scheme

/-- The kind of a scheme. -/
def SchemeKind.of (scheme : String) : SchemeKind :=
  if scheme = "file" then .file
  else if (usualPort? scheme).isSome then .special
  else .other

/-- Whether a backslash counts as a slash. -/
def SchemeKind.isSpecial : SchemeKind → Bool
  | .file | .special => true
  | .other => false

/-- Whether the character separates path segments. -/
def SchemeKind.separates (k : SchemeKind) (c : Char) : Bool :=
  c == '/' || (k.isSpecial && c == '\\')

/-- Whether the character ends the path. -/
def endsPath (c : Char) : Bool :=
  c == '?' || c == '#'

/-- Whether the character ends the part of an address that names the host. -/
def SchemeKind.endsAuthority (k : SchemeKind) (c : Char) : Bool :=
  k.separates c || endsPath c

/-- A slash of either direction. -/
def isSlash (c : Char) : Bool :=
  c == '/' || c == '\\'

/-- Whether the character may stand in a scheme. -/
def inScheme (c : Char) : Bool :=
  c.isAlphanum || c == '+' || c == '-' || c == '.'

/-- The scheme in small letters and what follows its colon, if the text starts with one. -/
def readScheme? (cs : List Char) : Option (String × List Char) :=
  match cs with
  | [] => none
  | c :: _ =>
    match cs.dropWhile inScheme with
    | ':' :: rest =>
      if c.isAlpha then some (String.ofList ((cs.takeWhile inScheme).map asciiLower), rest)
      else none
    | _ => none

end Passkey.Url
