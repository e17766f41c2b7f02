/-
Passkey/Base64.lean

Binary members travel as base64 text.

Three octets are four sextets, and a sextet is one symbol.  The page always
writes the URL-safe alphabet without padding.  It reads that spelling and its
three relatives: the standard alphabet instead of the URL-safe one, and with
the last group padded to four symbols.  A text uses one alphabet throughout,
and the bits that a short last group leaves over have to be zero, so each
byte string has exactly one text in each spelling.
-/
import Passkey.Failure

namespace Passkey

/-- A byte string. -/
abbrev Bytes := List UInt8

namespace Base64

open Text

/-! ### Alphabets -/

/-- The two alphabets; they differ in the last two symbols. -/
inductive Alphabet where
  | urlSafe
  | standard
deriving DecidableEq, Repr

/-- The symbol of a sextet. -/
def Alphabet.symbol (a : Alphabet) (d : Fin 64) : Char :=
  if d.val < 26 then Char.ofNat ('A'.toNat + d.val)
  else if d.val < 52 then Char.ofNat ('a'.toNat + (d.val - 26))
  else if d.val < 62 then Char.ofNat ('0'.toNat + (d.val - 52))
  else
    match a with
    | urlSafe => if d.val = 62 then '-' else '_'
    | standard => if d.val = 62 then '+' else '/'

/-- The sextet of a symbol, if it belongs to the alphabet. -/
def Alphabet.sextet? (a : Alphabet) (c : Char) : Option (Fin 64) :=
  if 'A' ≤ c ∧ c ≤ 'Z' then some (Fin.ofNat 64 (c.toNat - 'A'.toNat))
  else if 'a' ≤ c ∧ c ≤ 'z' then some (Fin.ofNat 64 (c.toNat - 'a'.toNat + 26))
  else if '0' ≤ c ∧ c ≤ '9' then some (Fin.ofNat 64 (c.toNat - '0'.toNat + 52))
  else
    match a with
    | urlSafe => if c = '-' then some 62 else if c = '_' then some 63 else none
    | standard => if c = '+' then some 62 else if c = '/' then some 63 else none

/-! ### Octets and sextets -/

/-- Cuts the bits of a byte string into sextets, filling up with zeros. -/
def sextets : Bytes → List (Fin 64)
  | [] => []
  | [a] => [Fin.ofNat 64 (a.toNat / 4), Fin.ofNat 64 (a.toNat % 4 * 16)]
  | [a, b] =>
    [Fin.ofNat 64 (a.toNat / 4), Fin.ofNat 64 (a.toNat % 4 * 16 + b.toNat / 16),
      Fin.ofNat 64 (b.toNat % 16 * 4)]
  | a :: b :: c :: rest =>
    Fin.ofNat 64 (a.toNat / 4) :: Fin.ofNat 64 (a.toNat % 4 * 16 + b.toNat / 16) ::
      Fin.ofNat 64 (b.toNat % 16 * 4 + c.toNat / 64) :: Fin.ofNat 64 (c.toNat % 64) ::
      sextets rest

/-- Joins sextets to octets.  A last group of one sextet, or of two or three
with a non-zero rest of bits, belongs to no byte string. -/
def octets? : List (Fin 64) → Option Bytes
  | [] => some []
  | [_] => none
  | [p, q] => if q.val % 16 = 0 then some [UInt8.ofNat (p.val * 4 + q.val / 16)] else none
  | [p, q, r] =>
    if r.val % 4 = 0 then
      some [UInt8.ofNat (p.val * 4 + q.val / 16), UInt8.ofNat (q.val % 16 * 16 + r.val / 4)]
    else none
  | p :: q :: r :: s :: rest =>
    (octets? rest).map fun tail =>
      UInt8.ofNat (p.val * 4 + q.val / 16) :: UInt8.ofNat (q.val % 16 * 16 + r.val / 4) ::
        UInt8.ofNat (r.val % 4 * 64 + s.val) :: tail

/-! ### Spellings -/

/-- A way to write byte strings: an alphabet, and whether the last group is padded with `=` to four
symbols. -/
structure Spelling where
  alphabet : Alphabet
  padded : Bool
deriving DecidableEq, Repr

/-- The four spellings that are understood. -/
def spellings : List Spelling :=
  [⟨.urlSafe, false⟩, ⟨.urlSafe, true⟩, ⟨.standard, true⟩, ⟨.standard, false⟩]

/-- The `=` signs that fill a text of `n` symbols up to whole groups. -/
def padding (n : Nat) : List Char :=
  List.replicate ((4 - n % 4) % 4) '='

/-- The text of a byte string in one spelling. -/
def Spelling.write (s : Spelling) (bytes : Bytes) : List Char :=
  let symbols := (sextets bytes).map s.alphabet.symbol
  if s.padded then symbols ++ padding symbols.length else symbols

/-- Reads symbols that carry no padding. -/
def Alphabet.read? (a : Alphabet) (symbols : List Char) : Option Bytes :=
  (symbols.mapM a.sextet?).bind octets?

/-- Reads a text in one spelling. -/
def Spelling.read? (s : Spelling) (text : List Char) : Option Bytes :=
  if s.padded then
    let symbols := text.takeWhile (· != '=')
    if text.drop symbols.length = padding symbols.length then s.alphabet.read? symbols else none
  else s.alphabet.read? text

/-! ### The two directions -/

/-- The URL-safe text of a byte string, without padding. -/
def encode (bytes : Bytes) : String :=
  String.ofList (Spelling.write ⟨.urlSafe, false⟩ bytes)

/-- The byte string that a text spells, whatever blanks stand around it. -/
def decode? (text : String) : Option Bytes :=
  spellings.findSome? (·.read? (trimBlank text.toList))

/-- The byte string that a text spells, or the failure of one that spells none. -/
def decode (text : String) : Except Failure Bytes :=
  match decode? text with
  | some bytes => .ok bytes
  | none => .error .badBase64

end Base64

end Passkey
