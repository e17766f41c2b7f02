/-
Passkey/Json/Printer.lean

JSON text of values, without any white space.

A string escapes the quote, the backslash and the control characters, and
nothing else.
-/
import Passkey.Decimal.Layout
import Passkey.Json.Value

namespace Passkey.Json

/-- A lower-case hexadecimal digit. -/
def hexDigit (n : Nat) : Char :=
  if n < 10 then Char.ofNat ('0'.toNat + n) else Char.ofNat ('a'.toNat + (n - 10))

/-- One character between the quotes of a JSON string. -/
def escapeChar (c : Char) : List Char :=
  if c = '"' then ['\\', '"']
  else if c = '\\' then ['\\', '\\']
  else if c = '\x08' then ['\\', 'b']
  else if c = '\t' then ['\\', 't']
  else if c = '\n' then ['\\', 'n']
  else if c = '\x0c' then ['\\', 'f']
  else if c = '\r' then ['\\', 'r']
  else if c < ' ' then ['\\', 'u', '0', '0', hexDigit (c.toNat / 16), hexDigit (c.toNat % 16)]
  else [c]

/-- The characters of a JSON string, quotes included. -/
def stringChars (s : String) : List Char :=
  '"' :: s.toList.flatMap escapeChar ++ ['"']

/-- The characters of an integer. -/
def intChars (i : Int) : List Char :=
  if i < 0 then '-' :: Nat.toDigits 10 i.natAbs else Nat.toDigits 10 i.natAbs

/-- The characters of a number. -/
def Number.chars : Number → List Char
  | int i => intChars i
  | float x => (Decimal.Layout.json.text x).toList

mutual

/-- The characters of the JSON text of a value. -/
def Value.chars : Value → List Char
  | .null => "null".toList
  | .bool true => "true".toList
  | .bool false => "false".toList
  | .num n => n.chars
  | .str s => stringChars s
  | .arr items => '[' :: itemsChars items ++ [']']
  | .obj members => '{' :: membersChars members ++ ['}']

/-- The items of an array, commas between them. -/
def itemsChars : List Value → List Char
  | [] => []
  | [v] => v.chars
  | v :: rest => v.chars ++ ',' :: itemsChars rest

/-- The members of an object, commas between them. -/
def membersChars : List (String × Value) → List Char
  | [] => []
  | [(name, v)] => stringChars name ++ ':' :: v.chars
  | (name, v) :: rest => stringChars name ++ ':' :: v.chars ++ ',' :: membersChars rest

end

/-- The JSON text of a value. -/
def Value.text (v : Value) : String :=
  String.ofList v.chars

end Passkey.Json
