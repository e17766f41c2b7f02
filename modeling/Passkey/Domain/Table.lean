/-
Passkey/Domain/Table.lean

Reading the character tables of host names.

The tables are long, so they are kept as lines of text: hexadecimal code
points, separated by blanks.  `A-B` stands for an interval, `A-B/2` for every second
character of it, `=C` says that the first of them becomes `C` and the others
follow at the same pace, and `X=Y+Z` that one character becomes several.
-/
import Passkey.Text.CodePoints
import Passkey.Text.Split

namespace Passkey.Domain

open Passkey.Text

/-- The value of a hexadecimal digit, capital or small. -/
def hexDigit? (c : Char) : Option Nat :=
  if '0' ≤ c ∧ c ≤ '9' then some (c.toNat - '0'.toNat)
  else if 'A' ≤ c ∧ c ≤ 'F' then some (c.toNat - 'A'.toNat + 10)
  else if 'a' ≤ c ∧ c ≤ 'f' then some (c.toNat - 'a'.toNat + 10)
  else none

/-- The number that a run of hexadecimal digits spells. -/
def hexNumber (cs : List Char) : Nat :=
  cs.foldl (fun n c => 16 * n + (hexDigit? c).getD 0) 0

/-- The entries of a table, which is given line by line. -/
def tableEntries (lines : List String) : List (List Char) :=
  lines.flatMap fun line => pieces ' ' line.toList

/-- An interval `A-B`, or the single point `A`. -/
def readInterval (cs : List Char) : Nat × Nat :=
  match cutAt '-' cs with
  | none => (hexNumber cs, hexNumber cs)
  | some (first, last) => (hexNumber first, hexNumber last)

/-- A table of a set of characters. -/
def readSet (lines : List String) : CodePoints :=
  ⟨(tableEntries lines).map readInterval⟩

/-- Characters at equal distances that are replaced by characters at the same distances, the first
one by the image. -/
structure Shift where
  first : Nat
  last : Nat
  step : Nat
  image : Nat
deriving DecidableEq, Repr

/-- What the shift makes of a character, if it covers it. -/
def Shift.image? (s : Shift) (c : Char) : Option Char :=
  if s.first ≤ c.toNat && c.toNat ≤ s.last && (c.toNat - s.first) % s.step == 0 then
    some (Char.ofNat (s.image + (c.toNat - s.first)))
  else none

/-- A replacement `A-B=C` or `A-B/2=C`. -/
def readShift (cs : List Char) : Shift :=
  let (source, image) := (cutAt '=' cs).getD (cs, [])
  let (range, step) := (cutAt '/' source).getD (source, ['1'])
  let (first, last) := readInterval range
  ⟨first, last, hexNumber step, hexNumber image⟩

/-- A table of replacements of one character by one. -/
def readShifts (lines : List String) : List Shift :=
  (tableEntries lines).map readShift

/-- A replacement `X=Y+Z`. -/
def readSequence (cs : List Char) : Nat × List Nat :=
  let (source, image) := (cutAt '=' cs).getD (cs, [])
  (hexNumber source, (pieces '+' image).map hexNumber)

/-- A table of replacements of one character by several. -/
def readSequences (lines : List String) : List (Nat × List Nat) :=
  (tableEntries lines).map readSequence

end Passkey.Domain
