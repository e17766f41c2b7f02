/-
Passkey/Domain/Label.lean

Which labels may stand in a host name.

A label is in its mapped and composed form, does not start with a mark, uses
the invisible joiners only where they matter, and, if the name holds any text
that runs from right to left, keeps to one direction.
-/
import Passkey.Domain.MappingTable
import Passkey.Domain.Normal
import Passkey.Domain.PropertyTable

namespace Passkey.Domain

open Passkey.Text

/-! ### The mapped form -/

/-- What a character of a host name becomes; absent if no host name may hold it. -/
def mapChar? (c : Char) : Option (List Char) :=
  if ignored.contains c then some []
  else if refused.contains c then none
  else
    match expanded.find? (·.1 == c.toNat) with
    | some (_, image) => some (image.map Char.ofNat)
    | none => some [(replaced.findSome? (·.image? c)).getD c]

/-- The mapped and composed form of a text, if it holds no refused character. -/
def mapped? (cs : List Char) : Option (List Char) :=
  (cs.mapM mapChar?).map fun images => normalForm images.flatten

/-! ### Joiners -/

/-- The joiner that keeps its neighbours apart. -/
def nonJoiner : Char := '\u200c'

/-- The joiner that connects its neighbours. -/
def joiner : Char := '\u200d'

/-- Combining class of the signs that suppress a vowel. -/
def viramaClass : Nat := 9

/-- Whether a character before or after the non-joiner would join with it, passing over
what joining ignores. -/
def joins (sides : List CodePoints) (cs : List Char) : Bool :=
  match cs.dropWhile transparent.contains with
  | c :: _ => sides.any (·.contains c)
  | [] => false

/-- Whether the joiners of a text are in place; `before` holds the characters before it, the
last one first. -/
def joinersInPlace (before : List Char) : List Char → Bool
  | [] => true
  | c :: rest =>
    let afterVirama := before.head?.any (combiningClass · == viramaClass)
    let allowed :=
      if c = nonJoiner then
        afterVirama || (joins [leftJoining, dualJoining] before
          && joins [rightJoining, dualJoining] rest)
      else c ≠ joiner || afterVirama
    allowed && joinersInPlace (c :: before) rest

/-! ### Directions -/

/-- The kinds of characters that the rules on directions tell apart. -/
inductive Direction where
  /-- A letter written from left to right. -/
  | left
  /-- A letter written from right to left. -/
  | right
  /-- A digit of Arabic text. -/
  | arabicNumber
  /-- Any other digit. -/
  | europeanNumber
  /-- A separator, sign or other character without a direction. -/
  | neutral
  /-- A mark that takes the direction of its base. -/
  | mark
deriving DecidableEq, Repr

/-- The kind of a character. -/
def direction (c : Char) : Direction :=
  if rightToLeft.contains c || arabicLetter.contains c then .right
  else if arabicNumber.contains c then .arabicNumber
  else if europeanNumber.contains c then .europeanNumber
  else if nonspacingMark.contains c then .mark
  else if Passkey.Domain.neutral.contains c then .neutral
  else .left

/-- Whether a name with this label is subject to the rules on directions. -/
def runsRight (label : List Char) : Bool :=
  label.any fun c => direction c = .right || direction c = .arabicNumber

/-- Whether a label keeps to the direction of its first character. -/
def oneDirection (label : List Char) : Bool :=
  let ds := label.map direction
  let last := (ds.reverse.dropWhile (· = .mark)).head?
  match ds.head? with
  | none => true
  | some .right =>
    !ds.contains .left
      && (last = some .right || last = some .europeanNumber || last = some .arabicNumber)
      && !(ds.contains .europeanNumber && ds.contains .arabicNumber)
  | some .left =>
    !ds.contains .right && !ds.contains .arabicNumber
      && (last = some .left || last = some .europeanNumber)
  | some _ => false

/-! ### Validity -/

/-- Whether a label is well formed by itself, without regard to directions. -/
def wellFormed (label : List Char) : Bool :=
  mapped? label = some label && !label.head?.any marks.contains && joinersInPlace [] label

end Passkey.Domain
