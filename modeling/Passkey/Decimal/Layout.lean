/-
Passkey/Decimal/Layout.lean

How the digits of a floating point number are laid out as text.

Three layouts occur.  JSON text is positional for numbers of ordinary size and
keeps a fraction digit there, so that a floating point number never looks
like an integer; other sizes take an exponent with its sign.  A number that a
script hands over as a setting is always positional and shows an integer
without a fraction.  A script that turns a number into text itself shows an
integer in the same way, but changes to an exponent for extreme sizes.
-/
import Passkey.Decimal.Shortest

namespace Passkey.Decimal

/-- A choice of layout: the lowest and the highest decimal exponent of a leading digit that is
written positionally, all of them if there is no choice, and whether a positional number keeps at
least one fraction digit. -/
structure Layout where
  positional : Option (Int × Int)
  keepFraction : Bool
deriving DecidableEq, Repr

/-- Numbers in JSON text: positional from `0.00001` up to sixteen digits. -/
def Layout.json : Layout := ⟨some (-5, 15), true⟩

/-- Numbers as plain text: positional throughout. -/
def Layout.plain : Layout := ⟨none, false⟩

/-- Numbers as a script turns them into text: positional from `0.000001` up to 21 digits. -/
def Layout.script : Layout := ⟨some (-6, 20), false⟩

/-- The digits with a point behind the first `place` of them; a negative
`place` means zeros behind the point. -/
def Layout.positionalText (l : Layout) (digits : List Char) (place : Int) : List Char :=
  if place ≤ 0 then '0' :: '.' :: List.replicate place.natAbs '0' ++ digits
  else
    let whole := digits.take place.toNat
    let fraction := digits.drop place.toNat
    let whole := whole ++ List.replicate (place.toNat - whole.length) '0'
    match fraction with
    | [] => if l.keepFraction then whole ++ ['.', '0'] else whole
    | _ => whole ++ '.' :: fraction

/-- The digits with a point behind the first one and an exponent. -/
def exponentText (digits : List Char) (exponent : Int) : List Char :=
  let fraction := match digits.drop 1 with
    | [] => []
    | rest => '.' :: rest
  digits.take 1 ++ fraction ++ 'e' :: (if exponent < 0 then '-' else '+') ::
    Nat.toDigits 10 exponent.natAbs

/-- The text of a positive decimal number. -/
def Layout.textOf (l : Layout) (s : Scientific) : List Char :=
  let digits := Nat.toDigits 10 s.digits
  let leading : Int := s.exponent + digits.length - 1
  match l.positional with
  | none => l.positionalText digits (leading + 1)
  | some (low, high) =>
    if low ≤ leading ∧ leading ≤ high then l.positionalText digits (leading + 1)
    else exponentText digits leading

/-- The text of a floating point number. -/
def Layout.text (l : Layout) (x : Float) : String :=
  if x.isNaN then "NaN"
  else
    let sign := if 0x8000000000000000 ≤ x.toBits.toNat then "-" else ""
    let body :=
      if x.isInf then "inf".toList
      else if x == 0 then (if l.keepFraction then ['0', '.', '0'] else ['0'])
      else l.textOf (shortest x.abs)
    sign ++ String.ofList body

end Passkey.Decimal
