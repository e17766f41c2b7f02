/-
Passkey/Text/Quoted.lean

Quoting of foreign text in messages.

A quoted text stands between double quotes.  The quote and the backslash are
escaped, as are the few control characters that have a short name; any other
character that a console would not show as itself is written by its number.
-/
import Passkey.Text.Printable

namespace Passkey.Text

/-- A number in lower-case hexadecimal digits, without leading zeros. -/
def hexText (n : Nat) : String :=
  String.ofList (Nat.toDigits 16 n)

/-- One character as it stands between the quotes. -/
def quoteChar (c : Char) : String :=
  if c = Char.ofNat 0 then "\\0"
  else if c = '\t' then "\\t"
  else if c = '\r' then "\\r"
  else if c = '\n' then "\\n"
  else if c = '"' then "\\\""
  else if c = '\\' then "\\\\"
  else if isPrintable c then c.toString
  else "\\u\x7b" ++ hexText c.toNat ++ "\x7d"

/-- The text between double quotes. -/
def quoted (s : String) : String :=
  "\"" ++ String.join (s.toList.map quoteChar) ++ "\""

end Passkey.Text
