/-
Passkey/Url.lean

Addresses.

An address keeps its parts in their written forms, escaped where they need it,
so writing it only puts the delimiters between them.  An address without a
host must not start its path with two slashes, which would be read as the mark
of a host; a segment of one dot keeps them apart.
-/
namespace Passkey

/-- An address in its parts.  The scheme is in small letters, the authority holds credentials, host
and port, and query and fragment are without their signs. -/
structure Url where
  scheme : String
  authority : Option (List Char)
  path : List Char
  query : Option (List Char)
  fragment : Option (List Char)
deriving DecidableEq, Repr

namespace Url

/-- An optional part with the mark before it. -/
def marked (mark : List Char) : Option (List Char) → List Char
  | none => []
  | some cs => mark ++ cs

/-- The written form of an address. -/
def text (u : Url) : String :=
  let dot := if u.authority.isNone && "//".toList.isPrefixOf u.path then ['/', '.'] else []
  u.scheme ++ String.ofList
    (':' :: marked ['/', '/'] u.authority ++ dot ++ u.path ++ marked ['?'] u.query
      ++ marked ['#'] u.fragment)

/-- Whether other addresses can be relative to this one. -/
def canBeBase (u : Url) : Bool :=
  u.authority.isSome || u.path.head? = some '/'

end Url

end Passkey
