/-
Passkey/Text/Case.lean

Case mapping of whole texts and of single characters.

The full mappings are meant: one character may become several, and a capital
sigma becomes the final small sigma at the end of a word.  ASCII comparison
without case is a separate, narrower relation, used for names that the
platform itself compares that way.
-/
import Passkey.Text.CaseTable

namespace Passkey.Text

/-- Looks a code point up in the special cases first and in the runs second. -/
def mapCase (special : List (Nat × List Nat)) (runs : List CaseRun) (c : Char) : List Char :=
  match special.find? (·.1 == c.toNat) with
  | some (_, image) => image.map Char.ofNat
  | none =>
    match runs.find? (·.holds c.toNat) with
    | some r => [Char.ofNat (c.toNat + r.shift).toNat]
    | none => [c]

/-- The capital form of a character. -/
def upper (c : Char) : List Char :=
  mapCase upperSpecial upperRuns c

/-- The small form of a character, taken by itself. -/
def lower (c : Char) : List Char :=
  mapCase lowerSpecial lowerRuns c

/-- Whether the first character that is not case-ignorable is cased. -/
def meetsCased (cs : List Char) : Bool :=
  match cs.dropWhile caseIgnorable.contains with
  | c :: _ => cased.contains c
  | [] => false

/-- The small form of a text whose characters before it, last one first, are `before`. -/
def lowerFrom (before : List Char) : List Char → List Char
  | [] => []
  | c :: rest =>
    let image :=
      if c = 'Σ' then
        if meetsCased before && !meetsCased rest then ['ς'] else ['σ']
      else lower c
    image ++ lowerFrom (c :: before) rest

/-- The small form of a text. -/
def lowerText (s : String) : String :=
  String.ofList (lowerFrom [] s.toList)

/-- The small form of an ASCII capital; any other character stays. -/
def asciiLower (c : Char) : Char :=
  if 'A' ≤ c ∧ c ≤ 'Z' then Char.ofNat (c.toNat + 32) else c

/-- The text with its ASCII capitals made small. -/
def asciiLowerText (s : String) : String :=
  String.ofList (s.toList.map asciiLower)

/-- Equality of texts up to the case of ASCII letters. -/
def sameAscii (s t : String) : Bool :=
  s.toList.map asciiLower == t.toList.map asciiLower

end Passkey.Text
