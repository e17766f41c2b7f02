/-
Passkey/Decimal/Reading.lean

Decimal texts read as binary floating point numbers.

The text is an optional sign, digits with an optional point among them or at
either end, and an optional exponent; or one of the words for the values that
are not finite.  The result is the floating point number nearest to what the
text says.
-/
import Passkey.Decimal.Numeral
import Passkey.Text.Case

namespace Passkey.Decimal

/-- The number `mantissa * 10 ^ exponent`, rounded to the nearest floating
point number.  Exponents far outside the range of the format are decided
without computing the power. -/
def toFloat (mantissa : Nat) (exponent : Int) : Float :=
  let magnitude : Int := (Nat.toDigits 10 mantissa).length + exponent
  if mantissa = 0 ∨ magnitude < -400 then 0
  else if magnitude > 400 then 1.0 / 0.0
  else if 0 ≤ exponent then Float.ofScientific (mantissa * Nat.pow 10 exponent.toNat) false 0
  else Float.ofScientific mantissa true exponent.natAbs

/-- The sign at the front of a text, and the rest. -/
def takeSign : List Char → Bool × List Char
  | '-' :: rest => (true, rest)
  | '+' :: rest => (false, rest)
  | cs => (false, cs)

/-- The digits at the front of a text, and the rest. -/
def takeDigits (cs : List Char) : List Char × List Char :=
  cs.span (digit? · |>.isSome)

/-- An exponent at the front of a text, which has to end with it. -/
def exponent? : List Char → Option Int
  | [] => some 0
  | c :: rest =>
    if c = 'e' ∨ c = 'E' then
      let (negative, digits) := takeSign rest
      (digits? digits).map fun n => if negative then -(n : Int) else n
    else none

/-- A text without its sign, as a floating point number. -/
def unsignedFloat? (cs : List Char) : Option Float :=
  let word := String.ofList (cs.map Text.asciiLower)
  if word = "inf" ∨ word = "infinity" then some (1.0 / 0.0)
  else if word = "nan" then some (0.0 / 0.0)
  else
    let (whole, rest) := takeDigits cs
    let (fraction, rest) :=
      match rest with
      | '.' :: rest => takeDigits rest
      | _ => ([], rest)
    match digits? (whole ++ fraction), exponent? rest with
    | some mantissa, some e => some (toFloat mantissa (e - fraction.length))
    | _, _ => none

/-- The floating point number that a text says. -/
def float? (s : String) : Option Float :=
  let (negative, rest) := takeSign s.toList
  (unsignedFloat? rest).map fun x => if negative then -x else x

end Passkey.Decimal
