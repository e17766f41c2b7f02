/-
Passkey/Url/Percent.lean

Percent escapes.

A character that may not stand in a part of an address is written as the bytes
of its UTF-8 form, each as `%` and two capital hexadecimal digits.  Which
characters those are depends on the part; whatever is not printable ASCII is
escaped in all of them.
-/
namespace Passkey.Url

/-! ### The sets of escaped characters -/

/-- Characters outside printable ASCII, the blank excepted. -/
def controls (c : Char) : Bool :=
  c.toNat < 0x20 || 0x7F ≤ c.toNat

/-- The characters escaped in a fragment. -/
def inFragment (c : Char) : Bool :=
  controls c || " \"<>\x60".toList.contains c

/-- The characters escaped in a path. -/
def inPath (c : Char) : Bool :=
  inFragment c || "#?\x7b\x7d".toList.contains c

/-- The characters escaped in a user name or a password. -/
def inCredentials (c : Char) : Bool :=
  inPath c || "/:;=@[\\]^|".toList.contains c

/-- The characters escaped in a query; a special scheme adds the apostrophe. -/
def inQuery (special : Bool) (c : Char) : Bool :=
  controls c || " \"#<>".toList.contains c || (special && c == '\'')

/-! ### Writing and reading -/

/-- A hexadecimal digit, capital. -/
def capitalDigit (n : Nat) : Char :=
  if n < 10 then Char.ofNat ('0'.toNat + n) else Char.ofNat ('A'.toNat + (n - 10))

/-- The escape of a byte. -/
def escapeByte (b : UInt8) : List Char :=
  ['%', capitalDigit (b.toNat / 16), capitalDigit (b.toNat % 16)]

/-- The text with the characters of a set escaped. -/
def escape (set : Char → Bool) (cs : List Char) : List Char :=
  cs.flatMap fun c => if set c then (String.utf8EncodeChar c).flatMap escapeByte else [c]

/-- The value of a hexadecimal digit. -/
def hexValue? (c : Char) : Option Nat :=
  if '0' ≤ c ∧ c ≤ '9' then some (c.toNat - '0'.toNat)
  else if 'a' ≤ c ∧ c ≤ 'f' then some (c.toNat - 'a'.toNat + 10)
  else if 'A' ≤ c ∧ c ≤ 'F' then some (c.toNat - 'A'.toNat + 10)
  else none

/-- The bytes that a text stands for.  A `%` without two digits stands for itself. -/
def unescape : List Char → List UInt8
  | [] => []
  | '%' :: a :: b :: rest =>
    match hexValue? a, hexValue? b with
    | some m, some n => UInt8.ofNat (16 * m + n) :: unescape rest
    | _, _ => String.utf8EncodeChar '%' ++ unescape (a :: b :: rest)
  | c :: rest => String.utf8EncodeChar c ++ unescape rest

end Passkey.Url
