/-
Passkey/Json/ScanNumber.lean

The numbers of JSON text.

Digits are collected into a significand as long as it fits a machine word;
later digits only count as powers of ten.  A number without fraction and
exponent that fits stays an integer.  Every other number becomes a binary
floating point number by one multiplication or division of the significand
with a power of ten, or by a few divisions if the power is beyond the range
of the format.
-/
import Passkey.Decimal.Numeral
import Passkey.Json.Scan

namespace Passkey.Json

open Decimal

/-! ### Values -/

/-- The largest significand. -/
def maxSignificand : Nat := 0xFFFFFFFFFFFFFFFF

/-- The largest exponent that is still computed with. -/
def maxExponent : Nat := 0x7FFFFFFF

/-- The power of ten as a floating point number. -/
def powerOfTen (n : Nat) : Float :=
  Float.ofScientific (Nat.pow 10 n) false 0

/-- The number `x * 10 ^ e`, or nothing if it is too large. -/
def scaleByTen (x : Float) (e : Int) : Option Float :=
  if 0 ≤ e then
    if 308 < e then (if x == 0 then some x else none)
    else
      let y := x * powerOfTen e.toNat
      if y.isInf then none else some y
  else if -308 ≤ e then some (x / powerOfTen e.natAbs)
  else if x == 0 then some x
  else scaleByTen (x / powerOfTen 308) (e + 308)
termination_by e.natAbs

/-- The floating point number `± significand * 10 ^ e`. -/
def floatOf (negative : Bool) (significand : Nat) (e : Int) : Option Float :=
  (scaleByTen (Float.ofNat significand) e).map fun x => if negative then -x else x

/-- The number of a numeral without fraction and exponent.  A negative zero
and a negative number beyond the machine word are no integers. -/
def integerOf (negative : Bool) (significand : Nat) : Number :=
  if negative then
    if significand = 0 ∨ 0x8000000000000000 < significand then .float (-(Float.ofNat significand))
    else .int (-significand)
  else .int significand

/-! ### Scanning -/

/-- Drops digits. -/
def skipDigits (cs : List Char) : List Char :=
  cs.dropWhile (digit? · |>.isSome)

theorem length_skipDigits (cs : List Char) : (skipDigits cs).length ≤ cs.length :=
  (List.dropWhile_sublist _).length_le

/-- The number with a given significand and exponent, behind which the rest starts. -/
def finishFloat (negative : Bool) (significand : Nat) (e : Int) (rest : List Char) :
    Except Fault (Number × List Char) :=
  match floatOf negative significand e with
  | some x => .ok (.float x, rest)
  | none => .error (.before .numberOutOfRange rest)

/-- Takes further digits of an exponent whose digits so far are `n`.  An
exponent beyond all bounds makes a number zero, or is out of range. -/
def scanExponentDigits (negative : Bool) (significand : Nat) (start : Int) (down : Bool)
    (n : Nat) : List Char → Except Fault (Number × List Char)
  | [] => finishFloat negative significand (if down then start - n else start + n) []
  | c :: cs =>
    match digit? c with
    | none => finishFloat negative significand (if down then start - n else start + n) (c :: cs)
    | some d =>
      if 10 * n + d ≤ maxExponent then
        scanExponentDigits negative significand start down (10 * n + d) cs
      else if significand ≠ 0 ∧ !down then .error (.before .numberOutOfRange cs)
      else .ok (.float (if negative then -0.0 else 0.0), skipDigits cs)

/-- Takes the sign and the digits of an exponent. -/
def scanExponent (negative : Bool) (significand : Nat) (start : Int) (cs : List Char) :
    Except Fault (Number × List Char) :=
  let (down, cs) := match cs with
    | '+' :: cs => (false, cs)
    | '-' :: cs => (true, cs)
    | cs => (false, cs)
  match cs with
  | [] => .error (.before .endInValue [])
  | c :: cs =>
    match digit? c with
    | none => .error (.at .badNumber (c :: cs))
    | some d => scanExponentDigits negative significand start down d cs

/-- Takes an exponent, if one follows. -/
def scanOptionalExponent (negative : Bool) (significand : Nat) (e : Int) :
    List Char → Except Fault (Number × List Char)
  | 'e' :: cs => scanExponent negative significand e cs
  | 'E' :: cs => scanExponent negative significand e cs
  | cs => finishFloat negative significand e cs

/-- Takes the digits of a fraction; `e` is the exponent of the significand.
The first digit that does not fit ends the significand. -/
def scanFractionDigits (negative : Bool) (significand : Nat) (e : Int) :
    List Char → Except Fault (Number × List Char)
  | [] => scanOptionalExponent negative significand e []
  | c :: cs =>
    match digit? c with
    | none => scanOptionalExponent negative significand e (c :: cs)
    | some d =>
      if 10 * significand + d ≤ maxSignificand then
        scanFractionDigits negative (10 * significand + d) (e - 1) cs
      else scanOptionalExponent negative significand e (skipDigits cs)

/-- Takes a fraction behind its point; it has at least one digit. -/
def scanFraction (negative : Bool) (significand : Nat) (e : Int) (cs : List Char) :
    Except Fault (Number × List Char) :=
  match cs with
  | [] => .error (.at .endInValue [])
  | c :: cs =>
    if (digit? c).isSome then scanFractionDigits negative significand e (c :: cs)
    else .error (.at .badNumber (c :: cs))

/-- Takes what follows the whole part of a number, when the significand had
no room for `dropped` of its digits. -/
def scanAfterLong (negative : Bool) (significand : Nat) (dropped : Nat) :
    List Char → Except Fault (Number × List Char)
  | '.' :: cs => scanFraction negative significand dropped cs
  | cs => scanOptionalExponent negative significand dropped cs

/-- Takes what follows the whole part of a number. -/
def scanAfterWhole (negative : Bool) (significand : Nat) :
    List Char → Except Fault (Number × List Char)
  | '.' :: cs => scanFraction negative significand 0 cs
  | 'e' :: cs => scanExponent negative significand 0 cs
  | 'E' :: cs => scanExponent negative significand 0 cs
  | cs => .ok (integerOf negative significand, cs)

/-- Takes further digits of the whole part. -/
def scanWhole (negative : Bool) (significand : Nat) : List Char → Except Fault (Number × List Char)
  | [] => scanAfterWhole negative significand []
  | c :: cs =>
    match digit? c with
    | none => scanAfterWhole negative significand (c :: cs)
    | some d =>
      if 10 * significand + d ≤ maxSignificand then
        scanWhole negative (10 * significand + d) cs
      else
        let rest := skipDigits cs
        scanAfterLong negative significand (cs.length - rest.length + 1) rest

/-- Takes a number without its sign.  A leading zero stands alone. -/
def scanUnsigned (negative : Bool) : List Char → Except Fault (Number × List Char)
  | [] => .error (.before .endInValue [])
  | c :: cs =>
    match digit? c with
    | none => .error (.at .badNumber (c :: cs))
    | some 0 =>
      match cs with
      | [] => scanAfterWhole negative 0 []
      | c' :: _ =>
        if (digit? c').isSome then .error (.at .badNumber cs) else scanAfterWhole negative 0 cs
    | some d => scanWhole negative d cs

/-! ### Scanners leave no more than they were given -/

section Lengths

variable {negative down : Bool} {significand n : Nat} {e : Int} {x : Number} {cs rest : List Char}

theorem length_finishFloat (h : finishFloat negative significand e cs = .ok (x, rest)) :
    rest.length ≤ cs.length := by
  unfold finishFloat at h
  split at h <;> simp_all

theorem length_scanExponentDigits
    (h : scanExponentDigits negative significand e down n cs = .ok (x, rest)) :
    rest.length ≤ cs.length := by
  induction cs generalizing n with
  | nil => exact length_finishFloat h
  | cons c cs ih =>
    simp only [scanExponentDigits] at h
    split at h
    · exact length_finishFloat h
    · split at h
      · exact Nat.le_succ_of_le (ih h)
      · split at h
        · simp at h
        · simp only [Except.ok.injEq, Prod.mk.injEq] at h
          rw [← h.2]
          exact Nat.le_succ_of_le (length_skipDigits cs)

theorem length_scanExponent (h : scanExponent negative significand e cs = .ok (x, rest)) :
    rest.length ≤ cs.length := by
  unfold scanExponent at h
  split at h
  rename_i down cs' hs
  have hle : cs'.length ≤ cs.length := by
    split at hs <;> simp only [Prod.mk.injEq] at hs <;> simp [← hs.2]
  split at h
  · simp at h
  · split at h
    · simp at h
    · have := length_scanExponentDigits h
      simp only [List.length_cons] at hle
      omega

theorem length_scanOptionalExponent
    (h : scanOptionalExponent negative significand e cs = .ok (x, rest)) :
    rest.length ≤ cs.length := by
  unfold scanOptionalExponent at h
  split at h
  · exact Nat.le_succ_of_le (length_scanExponent h)
  · exact Nat.le_succ_of_le (length_scanExponent h)
  · exact length_finishFloat h

theorem length_scanFractionDigits
    (h : scanFractionDigits negative significand e cs = .ok (x, rest)) :
    rest.length ≤ cs.length := by
  induction cs generalizing significand e with
  | nil => exact length_scanOptionalExponent h
  | cons c cs ih =>
    simp only [scanFractionDigits] at h
    split at h
    · exact length_scanOptionalExponent h
    · split at h
      · exact Nat.le_succ_of_le (ih h)
      · exact Nat.le_succ_of_le
          (Nat.le_trans (length_scanOptionalExponent h) (length_skipDigits cs))

theorem length_scanFraction (h : scanFraction negative significand e cs = .ok (x, rest)) :
    rest.length ≤ cs.length := by
  unfold scanFraction at h
  split at h
  · simp at h
  · split at h
    · exact length_scanFractionDigits h
    · simp at h

theorem length_scanAfterLong (h : scanAfterLong negative significand n cs = .ok (x, rest)) :
    rest.length ≤ cs.length := by
  unfold scanAfterLong at h
  split at h
  · exact Nat.le_succ_of_le (length_scanFraction h)
  · exact length_scanOptionalExponent h

theorem length_scanAfterWhole (h : scanAfterWhole negative significand cs = .ok (x, rest)) :
    rest.length ≤ cs.length := by
  unfold scanAfterWhole at h
  split at h
  · exact Nat.le_succ_of_le (length_scanFraction h)
  · exact Nat.le_succ_of_le (length_scanExponent h)
  · exact Nat.le_succ_of_le (length_scanExponent h)
  · simp_all

theorem length_scanWhole (h : scanWhole negative significand cs = .ok (x, rest)) :
    rest.length ≤ cs.length := by
  induction cs generalizing significand with
  | nil => exact length_scanAfterWhole h
  | cons c cs ih =>
    simp only [scanWhole] at h
    split at h
    · exact length_scanAfterWhole h
    · split at h
      · exact Nat.le_succ_of_le (ih h)
      · exact Nat.le_succ_of_le
          (Nat.le_trans (length_scanAfterLong h) (length_skipDigits cs))

theorem length_scanUnsigned (h : scanUnsigned negative cs = .ok (x, rest)) :
    rest.length < cs.length := by
  unfold scanUnsigned at h
  split at h
  · simp at h
  · split at h
    · simp at h
    · split at h
      · exact Nat.lt_succ_of_le (length_scanAfterWhole h)
      · split at h
        · simp at h
        · exact Nat.lt_succ_of_le (length_scanAfterWhole h)
    · exact Nat.lt_succ_of_le (length_scanWhole h)

end Lengths

end Passkey.Json
