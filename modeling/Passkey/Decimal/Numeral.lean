/-
Passkey/Decimal/Numeral.lean

Decimal numerals of natural numbers: an optional plus sign and at least one
ASCII digit, leading zeros allowed and nothing else.
-/
namespace Passkey.Decimal

/-- The value of an ASCII digit. -/
def digit? (c : Char) : Option Nat :=
  if '0' ≤ c ∧ c ≤ '9' then some (c.toNat - '0'.toNat) else none

/-- The value of digits, the first one weighing most, after a number `n`. -/
def digitsFrom (n : Nat) : List Char → Option Nat
  | [] => some n
  | c :: rest => (digit? c).bind fun d => digitsFrom (10 * n + d) rest

/-- The value of a non-empty string of digits. -/
def digits? : List Char → Option Nat
  | [] => none
  | cs => digitsFrom 0 cs

/-- The value of a numeral. -/
def numeral? (s : String) : Option Nat :=
  match s.toList with
  | '+' :: rest => digits? rest
  | cs => digits? cs

/-- The value of a numeral that does not exceed a bound. -/
def numeralUpTo? (bound : Nat) (s : String) : Option Nat :=
  (numeral? s).filter (· ≤ bound)

end Passkey.Decimal
