/-
Passkey/Domain/Normal.lean

The composed normal form of a text.

A text is taken apart into base characters and marks, the marks of each base
are put into the order of their combining classes, and what has a composed
character is put together again.  Two texts that differ only in how their
accents are written have one normal form, which is why host names are compared
in it.
-/
import Passkey.Domain.NormalTable

namespace Passkey.Domain

open Passkey.Text

/-- The combining class; zero for a base character. -/
def combiningClass (c : Char) : Nat :=
  match combiningClasses.find? (·.2.contains c) with
  | some (n, _) => n
  | none => 0

/-! ### Taking apart -/

/-- Whether the character is a precomposed Hangul syllable. -/
def isSyllable (c : Char) : Bool :=
  0xAC00 ≤ c.toNat && c.toNat < 0xAC00 + 11172

/-- The two or three parts of a Hangul syllable. -/
def syllableParts (c : Char) : List Char :=
  let n := c.toNat - 0xAC00
  let body := [Char.ofNat (0x1100 + n / 588), Char.ofNat (0x1161 + n % 588 / 28)]
  if n % 28 = 0 then body else body ++ [Char.ofNat (0x11A7 + n % 28)]

/-- The characters that a character is made of. -/
def decompose (c : Char) : List Char :=
  if isSyllable c then syllableParts c
  else
    match decompositions.find? (·.1 == c.toNat) with
    | some (_, parts) => parts.map Char.ofNat
    | none => [c]

/-- Moves a mark behind the following marks of smaller class. -/
def sink (c : Char) : List Char → List Char
  | [] => [c]
  | d :: rest =>
    if 0 < combiningClass d ∧ combiningClass d < combiningClass c then d :: sink c rest
    else c :: d :: rest

/-- Puts the marks of each base character into the order of their classes.
Marks of one class keep their order. -/
def orderMarks : List Char → List Char
  | [] => []
  | c :: rest => sink c (orderMarks rest)

/-! ### Putting together -/

/-- The Hangul syllable that a beginning and its next part form. -/
def composeSyllable? (a b : Char) : Option Char :=
  let m := a.toNat
  let n := b.toNat
  if 0x1100 ≤ m ∧ m < 0x1100 + 19 ∧ 0x1161 ≤ n ∧ n < 0x1161 + 21 then
    some (Char.ofNat (0xAC00 + ((m - 0x1100) * 21 + (n - 0x1161)) * 28))
  else if isSyllable a ∧ (m - 0xAC00) % 28 = 0 ∧ 0x11A7 < n ∧ n < 0x11A7 + 28 then
    some (Char.ofNat (m + (n - 0x11A7)))
  else none

/-- The character composed of two. -/
def compose? (a b : Char) : Option Char :=
  match composeSyllable? a b with
  | some c => some c
  | none =>
    let parts := (decompose a ++ [b]).map Char.toNat
    (decompositions.find? fun (n, image) =>
      image == parts && !neverComposed.contains (Char.ofNat n)).map (Char.ofNat ·.1)

/-- Composes what follows a base character.  `marks` are the marks since the base that
found no composition; a character can be reached by the base only across smaller classes. -/
def composeFrom (base : Char) (marks : List Char) : List Char → List Char
  | [] => base :: marks
  | c :: rest =>
    let free := marks.all (combiningClass · < combiningClass c)
    match if free then compose? base c else none with
    | some composed => composeFrom composed marks rest
    | none =>
      if combiningClass c = 0 then base :: marks ++ composeFrom c [] rest
      else composeFrom base (marks ++ [c]) rest

/-- Composes a text; marks before the first base stay. -/
def composeAll (cs : List Char) : List Char :=
  let lead := cs.takeWhile (combiningClass · ≠ 0)
  match cs.dropWhile (combiningClass · ≠ 0) with
  | [] => lead
  | base :: rest => lead ++ composeFrom base [] rest

/-- The composed normal form. -/
def normalForm (cs : List Char) : List Char :=
  composeAll (orderMarks (cs.flatMap decompose))

end Passkey.Domain
