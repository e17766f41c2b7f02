/-
Passkey/Url/Address.lean

Numeric host addresses.

An address of four numbers may leave out the inner ones: the last number then
fills the rest.  Each number may be octal or hexadecimal.  An address of eight
groups may leave out one run of zero groups and may end in a dotted quadruple.
Both are written in one form only.
-/
import Passkey.Text.Split
import Passkey.Url.Percent

namespace Passkey.Url

open Passkey.Text

/-- Why a text is not the number of an address. -/
inductive NumberFault where
  /-- The text is no number in any of the three bases. -/
  | malformed
  /-- The number does not fit into 32 bits. -/
  | tooLarge
deriving DecidableEq, Repr

/-- The value of digits in a base, if all of them are digits of that base. -/
def digitsValue? (base : Nat) (cs : List Char) : Option Nat :=
  cs.foldlM (fun n c =>
    match hexValue? c with
    | some d => if d < base then some (base * n + d) else none
    | none => none) 0

/-- A number of a dotted address: `0x` marks base 16, another leading zero base 8. -/
def readNumber (cs : List Char) : Except NumberFault Nat :=
  let value? : Option Nat :=
    match cs with
    | [] => none
    | '0' :: 'x' :: digits => digitsValue? 16 digits
    | '0' :: 'X' :: digits => digitsValue? 16 digits
    | '0' :: d :: digits => digitsValue? 8 (d :: digits)
    | digits => digitsValue? 10 digits
  match value? with
  | none => .error .malformed
  | some n => if n ≤ 0xFFFFFFFF then .ok n else .error .tooLarge

/-- The labels of a host name without the empty one after a final dot. -/
def dottedParts (name : List Char) : List (List Char) :=
  let parts := pieces '.' name
  if parts.getLast? = some [] then parts.dropLast else parts

/-- Whether the last label of a host name is a number, so that the name is meant as an address. -/
def endsInNumber (name : List Char) : Bool :=
  match (dottedParts name).getLast? with
  | none => false
  | some last =>
    (!last.isEmpty && last.all Char.isDigit)
      || match readNumber last with
        | .ok _ => true
        | .error .tooLarge => true
        | .error .malformed => false

/-- The 32 bits that a dotted address stands for. -/
def readDotted? (name : List Char) : Option Nat := do
  let parts := dottedParts name
  if 4 < parts.length then none
  else
    let numbers ← parts.mapM fun p => (readNumber p).toOption
    let last ← numbers.getLast?
    let leading := numbers.dropLast
    if Nat.pow 256 (4 - leading.length) ≤ last || leading.any (255 < ·) then none
    else
      let high := leading.foldl (fun n d => 256 * n + d) 0
      some (high * Nat.pow 256 (4 - leading.length) + last)

/-- The four decimal numbers of an address. -/
def writeDotted (n : Nat) : List Char :=
  let part (i : Nat) : List Char := (toString (n / Nat.pow 256 i % 256)).toList
  part 3 ++ '.' :: part 2 ++ '.' :: part 1 ++ '.' :: part 0

/-! ### Groups of sixteen bits -/

/-- A group of one to four hexadecimal digits. -/
def readGroup? (cs : List Char) : Option Nat :=
  if cs.isEmpty || 4 < cs.length then none else digitsValue? 16 cs

/-- A decimal number up to 255 without a leading zero. -/
def readOctet? (cs : List Char) : Option Nat := do
  let n ← if cs.isEmpty then none else digitsValue? 10 cs
  if 255 < n || (1 < cs.length && cs.head? = some '0') then none else some n

/-- The last piece of an address: a group, or a dotted quadruple in place of two. -/
def readLastGroups? (cs : List Char) : Option (List Nat) :=
  if cs.contains '.' then
    match (pieces '.' cs).mapM readOctet? with
    | some [a, b, c, d] => some [256 * a + b, 256 * c + d]
    | _ => none
  else (readGroup? cs).map ([·])

/-- Groups between colons; none if the text is empty. -/
def readGroups? (quadruple : Bool) (cs : List Char) : Option (List Nat) := do
  if cs.isEmpty then some []
  else
    let parts := pieces ':' cs
    let leading ← parts.dropLast.mapM readGroup?
    let last ← parts.getLast?
    if quadruple then some (leading ++ (← readLastGroups? last))
    else some (leading ++ [← readGroup? last])

/-- The texts before and after the first double colon. -/
def cutAtGap : List Char → Option (List Char × List Char)
  | ':' :: ':' :: rest => some ([], rest)
  | c :: rest => (cutAtGap rest).map fun (a, b) => (c :: a, b)
  | [] => none

/-- The eight groups that a text stands for.  A double colon stands for at least one group. -/
def readEight? (cs : List Char) : Option (List Nat) := do
  match cutAtGap cs with
  | none =>
    let groups ← readGroups? true cs
    if groups.length = 8 then some groups else none
  | some (before, behind) =>
    let left ← readGroups? false before
    let right ← readGroups? true behind
    let gap := 8 - (left.length + right.length)
    if gap = 0 then none else some (left ++ List.replicate gap 0 ++ right)

/-- The lengths of the runs of zeros that begin at each group. -/
def zeroRuns : List Nat → List Nat
  | [] => []
  | g :: rest =>
    let runs := zeroRuns rest
    (if g = 0 then runs.headD 0 + 1 else 0) :: runs

/-- Groups in hexadecimal digits, with colons between them. -/
def writeGroups (groups : List Nat) : List Char :=
  [':'].intercalate (groups.map (Nat.toDigits 16))

/-- The shortest text of eight groups: the first of the longest runs of two or more zeros is
left out. -/
def writeEight (groups : List Nat) : List Char :=
  let runs := zeroRuns groups
  let longest := runs.foldl max 0
  if longest < 2 then writeGroups groups
  else
    let start := runs.idxOf longest
    writeGroups (groups.take start) ++ [':', ':'] ++ writeGroups (groups.drop (start + longest))

end Passkey.Url
