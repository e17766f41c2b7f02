/-
Passkey/Url/Host.lean

Hosts.

The host of a special address is a domain name, brought into its ASCII form,
or a number.  The host of any other address is any text without delimiters.
-/
import Passkey.Domain.Ascii
import Passkey.Url.Address

namespace Passkey.Url

/-- What an address names as its host. -/
inductive Host where
  /-- A name. -/
  | name (text : List Char)
  /-- A number of 32 bits. -/
  | dotted (bits : Nat)
  /-- Eight groups of 16 bits. -/
  | groups (values : List Nat)
deriving DecidableEq, Repr

/-- The written form. -/
def Host.text : Host → List Char
  | .name t => t
  | .dotted n => writeDotted n
  | .groups gs => '[' :: writeEight gs ++ [']']

/-- A host in brackets. -/
def readBracketed? (cs : List Char) : Option Host :=
  if cs.getLast? = some ']' then (readEight? (cs.drop 1).dropLast).map .groups else none

/-- The text of percent-escaped UTF-8. -/
def unescapedText? (cs : List Char) : Option (List Char) :=
  (String.fromUTF8? ⟨(unescape cs).toArray⟩).map String.toList

/-- The host of a special address. -/
def readHost? (cs : List Char) : Option Host := do
  if cs.head? = some '[' then readBracketed? cs
  else
    let ascii ← Domain.toAscii? (← unescapedText? cs)
    if ascii.isEmpty then none
    else if endsInNumber ascii then (readDotted? ascii).map .dotted
    else some (.name ascii)

/-- Whether a delimiter keeps the character out of an opaque host. -/
def delimitsHost (c : Char) : Bool :=
  c.toNat = 0 || " #/:<>?@[\\]^|".toList.contains c

/-- The host of an address that is not special. -/
def readOpaqueHost? (cs : List Char) : Option Host :=
  if cs.head? = some '[' then readBracketed? cs
  else if cs.any delimitsHost then none
  else some (.name (escape controls cs))

end Passkey.Url
