/-
Passkey/Decimal/Shortest.lean

The shortest decimal that reads back as a given binary number.

A positive binary number is `m * 2 ^ q`.  The decimals that round to it fill
an interval around it, whose ends belong to it exactly if `m` is even.  On the
grid of decimals with `n` significant digits only the two neighbours of the
number need a test: if any point of the grid lies in the interval, one of them
does.  The first grid with a hit gives the fewest digits, and of two hits the
nearer one is taken.  All arithmetic is exact, on natural numbers.
-/
namespace Passkey.Decimal

/-- A positive binary number `m * 2 ^ q`.  It is narrow below if the next smaller number is only
half as far away as the next larger one. -/
structure Binary where
  m : Nat
  q : Int
  narrowBelow : Bool
deriving DecidableEq, Repr

/-- A decimal number `digits * 10 ^ exponent`. -/
structure Scientific where
  digits : Nat
  exponent : Int
deriving DecidableEq, Repr

/-- The leading bit of a significand, which is not stored: it stands above 52 bits. -/
def hiddenBit : Nat := 0x10000000000000

/-- The binary number behind the bits of a positive finite floating point number. -/
def Binary.ofBits (bits : UInt64) : Binary :=
  let fraction := bits.toNat % hiddenBit
  let exponent : Nat := bits.toNat / hiddenBit % 0x800
  if exponent = 0 then ⟨fraction, -1074, false⟩
  else ⟨hiddenBit + fraction, (exponent : Int) - 1075, fraction == 0 && exponent > 1⟩

/-- The number of decimal digits of a natural number. -/
def digitCount (n : Nat) : Nat :=
  (Nat.toDigits 10 n).length

/-- The power of ten just above the number: `10 ^ (b.magnitude - 1) ≤ m * 2 ^ q < 10 ^ b.magnitude`. -/
def Binary.magnitude (b : Binary) : Int :=
  if 0 ≤ b.q then digitCount (b.m * Nat.pow 2 b.q.toNat)
  else (digitCount (b.m * Nat.pow 10 400 / Nat.pow 2 b.q.natAbs) : Int) - 400

/-- The numbers `m * 2 ^ q` and `4 * m` quarters of the last place, on a grid
of step `10 ^ k`: a quarter counts `scale.1`, a step of the grid `scale.2`. -/
def Binary.scale (b : Binary) (k : Int) : Nat × Nat :=
  (Nat.pow 2 (b.q - 2).toNat * Nat.pow 10 (-k).toNat,
    Nat.pow 2 (2 - b.q).toNat * Nat.pow 10 k.toNat)

/-- Whether `c * 10 ^ k` rounds to the number. -/
def Binary.holds (b : Binary) (k : Int) (c : Nat) : Bool :=
  let (quarter, step) := b.scale k
  let low := (4 * b.m - if b.narrowBelow then 1 else 2) * quarter
  let high := (4 * b.m + 2) * quarter
  if b.m % 2 = 0 then low ≤ c * step && c * step ≤ high
  else low < c * step && c * step < high

/-- The neighbour of the number on the grid of step `10 ^ k` that rounds to
it, the nearer one if both do. -/
def Binary.onGrid? (b : Binary) (k : Int) : Option Nat :=
  let (quarter, step) := b.scale k
  let value := 4 * b.m * quarter
  let below := value / step
  match b.holds k below, b.holds k (below + 1) with
  | true, true =>
    let left := value - below * step
    let right := (below + 1) * step - value
    some (if left < right ∨ (left = right ∧ below % 2 = 0) then below else below + 1)
  | true, false => some below
  | false, true => some (below + 1)
  | false, false => none

/-- The shortest decimal that rounds to the number, found on the grids with
`n`, `n + 1`, ... significant digits; seventeen digits always suffice. -/
def Binary.shortestFrom (b : Binary) (n : Nat) : Nat → Scientific
  | 0 => ⟨0, 0⟩
  | tries + 1 =>
    let k := b.magnitude - n
    match b.onGrid? k with
    | some c => ⟨c, k⟩
    | none => b.shortestFrom (n + 1) tries

/-- Drops trailing zeros, at most as many as the second argument says. -/
def Scientific.normalize (s : Scientific) : Nat → Scientific
  | 0 => s
  | n + 1 =>
    if s.digits ≠ 0 ∧ s.digits % 10 = 0 then
      Scientific.normalize ⟨s.digits / 10, s.exponent + 1⟩ n
    else s

/-- The shortest decimal of a positive finite floating point number. -/
def shortest (x : Float) : Scientific :=
  ((Binary.ofBits x.toBits).shortestFrom 1 17).normalize 20

end Passkey.Decimal
