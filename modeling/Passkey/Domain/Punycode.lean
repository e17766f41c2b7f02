/-
Passkey/Domain/Punycode.lean

Punycode, the writing of any label with letters, digits and hyphens.

The ASCII characters of the label stand in front.  The others are inserted
into them in the order of their code points; each insertion is one number,
which counts how many (code point, position) pairs lie between it and the
insertion before.  The numbers are written with digits to the base 36, lowest
first, and the last digit of a number is recognized by a threshold that moves
with the size of the numbers seen so far.

Every loop has a measure: writing a number divides what is left of it, reading
one shortens the text.
-/
namespace Passkey.Domain.Punycode

/-! ### Digits and thresholds -/

/-- The digit of a value below 36: letters first, then the decimal digits. -/
def digit (n : Nat) : Char :=
  if n < 26 then Char.ofNat ('a'.toNat + n) else Char.ofNat ('0'.toNat + (n - 26))

/-- The value of a digit; capital letters count as small ones. -/
def digitValue? (c : Char) : Option Nat :=
  if 'a' ≤ c ∧ c ≤ 'z' then some (c.toNat - 'a'.toNat)
  else if 'A' ≤ c ∧ c ≤ 'Z' then some (c.toNat - 'A'.toNat)
  else if '0' ≤ c ∧ c ≤ '9' then some (c.toNat - '0'.toNat + 26)
  else none

/-- The threshold of the digit at distance `k` from the start of its number, where the
digits are counted in steps of 36. -/
def threshold (bias k : Nat) : Nat :=
  max 1 (min 26 (k - bias))

theorem one_le_threshold (bias k : Nat) : 1 ≤ threshold bias k :=
  Nat.le_max_left _ _

/-- Scales a number down until it is below 456, counting the steps in `k`. -/
def scaleDown (k delta : Nat) : Nat :=
  if _h : 455 < delta then scaleDown (k + 36) (delta / 35)
  else k + 36 * delta / (delta + 38)
termination_by delta
decreasing_by omega

/-- The bias after an insertion: `count` characters are in place, and the insertion moved
by `delta`. -/
def adapt (first : Bool) (delta count : Nat) : Nat :=
  let delta := if first then delta / 700 else delta / 2
  scaleDown 0 (delta + delta / count)

/-- What the next insertion builds on: the next code point that may be inserted, the pairs passed
since the last insertion, the bias of the thresholds, and how many characters are in place. -/
structure Progress where
  next : Nat
  delta : Nat
  bias : Nat
  count : Nat
deriving DecidableEq, Repr

/-! ### Writing -/

/-- The digits of a number, lowest first. -/
def writeNumber (bias k n : Nat) : List Char :=
  let t := threshold bias k
  if _h : n < t then [digit n]
  else digit (t + (n - t) % (36 - t)) :: writeNumber bias (k + 36) ((n - t) / (36 - t))
termination_by n
decreasing_by
  have h₁ := one_le_threshold bias k
  exact Nat.lt_of_le_of_lt (Nat.div_le_self _ _) (by omega)

/-- Passes one character of the label while the insertions of the code point `n` are
written; `basic` is the count of ASCII characters. -/
def passChar (basic n : Nat) (s : Progress × List Char) (c : Char) : Progress × List Char :=
  let (p, out) := s
  if c.toNat < n then ({ p with delta := p.delta + 1 }, out)
  else if c.toNat = n then
    ({ p with delta := 0, bias := adapt (p.count == basic) p.delta (p.count + 1),
              count := p.count + 1 },
      out ++ writeNumber p.bias 36 p.delta)
  else s

/-- Writes the insertions of each of the code points, which ascend. -/
def writeInsertions (label : List Char) (basic : Nat) (s : Progress × List Char) :
    List Nat → List Char
  | [] => s.2
  | n :: rest =>
    let p := { s.1 with delta := s.1.delta + (n - s.1.next) * (s.1.count + 1) }
    let (p, out) := label.foldl (passChar basic n) (p, s.2)
    writeInsertions label basic ({ p with delta := p.delta + 1, next := n + 1 }, out) rest

/-- The code points of a label that are not ASCII, ascending and each once. -/
def foreignPoints (label : List Char) : List Nat :=
  ((label.map Char.toNat).filter (0x80 ≤ ·)).mergeSort.eraseDups

/-- The Punycode of a label. -/
def encode (label : List Char) : List Char :=
  let basic := label.filter (·.toNat < 0x80)
  let start : Progress := ⟨0x80, 0, 72, basic.length⟩
  let lead := if basic.isEmpty then [] else basic ++ ['-']
  lead ++ writeInsertions label basic.length (start, []) (foreignPoints label)

/-! ### Reading -/

/-- Reads one number and returns what follows it. -/
def readNumber? (bias k weight n : Nat) : List Char → Option (Nat × List Char)
  | [] => none
  | c :: rest =>
    match digitValue? c with
    | none => none
    | some d =>
      if d < threshold bias k then some (n + d * weight, rest)
      else readNumber? bias (k + 36) (weight * (36 - threshold bias k)) (n + d * weight) rest

/-- A number takes at least one digit. -/
theorem readNumber?_shortens {bias : Nat} {s : List Char} :
    ∀ {k weight n : Nat} {r : Nat × List Char},
      readNumber? bias k weight n s = some r → r.2.length < s.length := by
  induction s with
  | nil => intro k weight n r h; simp [readNumber?] at h
  | cons c rest ih =>
    intro k weight n r h
    rw [readNumber?] at h
    split at h
    · cases h
    · split at h
      · cases h; simp
      · exact Nat.lt_succ_of_lt (ih h)

/-- Whether a number is the code point of a character. -/
def isScalar (n : Nat) : Bool :=
  n < 0xD800 || (0xDFFF < n && n < 0x110000)

/-- Makes the insertions that a text describes. -/
def readInsertions? (p : Progress) (out : List Char) (s : List Char) : Option (List Char) :=
  match s with
  | [] => some out
  | c :: rest =>
    match _h : readNumber? p.bias 36 1 0 (c :: rest) with
    | none => none
    | some (n, rest') =>
      let i := p.delta + n
      let count := out.length + 1
      let point := p.next + i / count
      if isScalar point then
        let place := i % count
        readInsertions? ⟨point, place + 1, adapt (p.count == 0) n count, p.count + 1⟩
          (out.take place ++ Char.ofNat point :: out.drop place) rest'
      else none
termination_by s.length
decreasing_by exact readNumber?_shortens _h

/-- The label that a text is the Punycode of. -/
def decode? (s : List Char) : Option (List Char) :=
  let tail := (s.reverse.takeWhile (· != '-')).reverse
  let basic := s.take (s.length - tail.length - 1)
  let start : Progress := ⟨0x80, 0, 72, 0⟩
  if basic.all (·.toNat < 0x80) then readInsertions? start basic tail else none

end Passkey.Domain.Punycode
