/-
Passkey/Domain/Ascii.lean

The ASCII form of a host name.

The name is mapped, composed and cut into labels.  A label that is written in
Punycode is read and must hold something that needs that writing; a label with
other characters than ASCII is written in Punycode.  What comes out is the
name that is looked up, so it may hold none of the characters that delimit the
parts of an address.
-/
import Passkey.Domain.Label
import Passkey.Domain.Punycode
import Passkey.Text.Split

namespace Passkey.Domain

open Passkey.Text

/-- What stands before the Punycode of a label. -/
def punycodeMark : List Char := "xn--".toList

/-- Characters that a host name must not hold: controls, the blank, and the delimiters of an
address. -/
def isForbidden (c : Char) : Bool :=
  c.toNat ≤ 0x20 || c.toNat = 0x7F || "%#/:<>?@[\\]^|".toList.contains c

/-- Whether a label holds ASCII characters only. -/
def isPlain (label : List Char) : Bool :=
  label.all (·.toNat < 0x80)

/-- Longest Punycode that is read. -/
def longestEncoded : Nat := 2000

/-- Longest label that is written in Punycode. -/
def longestDecoded : Nat := 1000

/-- The label that is meant: Punycode is read, anything else stands for itself. -/
def meaning? (label : List Char) : Option (List Char) :=
  if punycodeMark.isPrefixOf label then
    let encoded := label.drop punycodeMark.length
    if encoded.length ≤ longestEncoded then
      (Punycode.decode? encoded).filter fun decoded => !isPlain decoded
    else none
  else some label

/-- The ASCII spelling of a label. -/
def spelling? (label : List Char) : Option (List Char) :=
  if isPlain label then some label
  else if label.length ≤ longestDecoded then some (punycodeMark ++ Punycode.encode label)
  else none

/-- The ASCII form of a host name, if it has one. -/
def toAscii? (name : List Char) : Option (List Char) := do
  let labels ← (pieces '.' (← mapped? name)).mapM meaning?
  if labels.any runsRight && !labels.all oneDirection then none
  else if !labels.all wellFormed then none
  else
    let ascii := ['.'].intercalate (← labels.mapM spelling?)
    if ascii.any isForbidden then none else some ascii

end Passkey.Domain
