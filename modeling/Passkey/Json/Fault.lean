/-
Passkey/Json/Fault.lean

What can be wrong with a JSON text, and how it is reported.

A fault has a cause and, if it comes from reading text, a place.  While a
reader works, the place is the number of bytes that follow it; the report
turns that into a line and a column, where columns count bytes.
-/
import Passkey.Failure
import Passkey.Json.Printer
import Passkey.Text.Quoted

namespace Passkey.Json

/-! ### Causes -/

/-- The kind of a value that does not fit, with as much of it as a report shows. -/
inductive Found where
  | null
  | bool (b : Bool)
  | num (n : Number)
  | str (s : String)
  | sequence
  | map
deriving Repr, BEq

/-- What a report shows of a value. -/
def Found.ofValue : Value → Found
  | .null => null
  | .bool b => bool b
  | .num n => num n
  | .str s => str s
  | .arr _ => sequence
  | .obj _ => map

/-- The kind of a value in a report. -/
def Found.text : Found → String
  | null => "null"
  | bool true => "boolean `true`"
  | bool false => "boolean `false`"
  | num (.int i) => "integer `" ++ String.ofList (intChars i) ++ "`"
  | num (.float x) => "floating point `" ++ Decimal.Layout.json.text x ++ "`"
  | str s => "string " ++ Text.quoted s
  | sequence => "sequence"
  | map => "map"

/-- Why a JSON text or value is refused. -/
inductive Cause where
  /-- The text ends where a value is due. -/
  | endInValue
  /-- The text ends inside an object. -/
  | endInObject
  /-- The text ends inside an array. -/
  | endInArray
  /-- The text ends inside a string. -/
  | endInString
  /-- No value starts here. -/
  | valueDue
  /-- A word is none of the three that JSON knows. -/
  | wordDue
  | colonDue
  | commaOrBraceDue
  | commaOrBracketDue
  | trailingComma
  | trailingCharacters
  /-- A member does not start with a string. -/
  | nameDue
  | badNumber
  | numberOutOfRange
  | badEscape
  /-- Half a surrogate pair. -/
  | loneSurrogate
  /-- A leading surrogate that no escape follows. -/
  | surrogateCutShort
  /-- A control character stands in a string as it is. -/
  | rawControl
  /-- Arrays and objects are nested too deeply. -/
  | tooDeep
  /-- A value has the wrong kind. -/
  | wrongKind (found : Found) (expected : String)
  | missingField (name : String)
  | duplicateField (name : String)
  /-- An array has the wrong number of items. -/
  | wrongLength (length : Nat) (expected : String)
  /-- A text does not spell a byte string. -/
  | notBase64
deriving Repr, BEq

/-- The report of a cause. -/
def Cause.text : Cause → String
  | endInValue => "EOF while parsing a value"
  | endInObject => "EOF while parsing an object"
  | endInArray => "EOF while parsing a list"
  | endInString => "EOF while parsing a string"
  | valueDue => "expected value"
  | wordDue => "expected ident"
  | colonDue => "expected `:`"
  | commaOrBraceDue => "expected `,` or `\x7d`"
  | commaOrBracketDue => "expected `,` or `]`"
  | trailingComma => "trailing comma"
  | trailingCharacters => "trailing characters"
  | nameDue => "key must be a string"
  | badNumber => "invalid number"
  | numberOutOfRange => "number out of range"
  | badEscape => "invalid escape"
  | loneSurrogate => "lone leading surrogate in hex escape"
  | surrogateCutShort => "unexpected end of hex escape"
  | rawControl => "control character (\\u0000-\\u001F) found while parsing a string"
  | tooDeep => "recursion limit exceeded"
  | wrongKind found expected => "invalid type: " ++ found.text ++ ", expected " ++ expected
  | missingField name => "missing field `" ++ name ++ "`"
  | duplicateField name => "duplicate field `" ++ name ++ "`"
  | wrongLength length expected =>
    "invalid length " ++ toString length ++ ", expected " ++ expected
  | notBase64 => Failure.badBase64.message

/-! ### Places -/

/-- The number of bytes that characters take in UTF-8. -/
def byteCount : List Char → Nat
  | [] => 0
  | c :: cs => c.utf8Size + byteCount cs

/-- A cause, and how many bytes of the text follow its place; none if the cause has no place. -/
structure Fault where
  cause : Cause
  behind : Option Nat
deriving Repr, BEq

/-- A fault between what was read and the rest. -/
def Fault.before (cause : Cause) (rest : List Char) : Fault :=
  ⟨cause, some (byteCount rest)⟩

/-- A fault in the first byte of the rest, or at the end of the text. -/
def Fault.at (cause : Cause) (rest : List Char) : Fault :=
  ⟨cause, some (byteCount rest - 1)⟩

/-- A fault without a place. -/
def Fault.anywhere (cause : Cause) : Fault :=
  ⟨cause, none⟩

/-- A line and a column; lines count from one, columns count bytes. -/
structure Position where
  line : Nat
  column : Nat
deriving Repr, BEq, DecidableEq

/-- The position after some bytes of a text that starts at another position.
A place inside a character counts the bytes up to it. -/
def Position.after (p : Position) (bytes : Nat) : List Char → Position
  | [] => p
  | c :: rest =>
    if bytes = 0 then p
    else if c = '\n' then Position.after ⟨p.line + 1, 0⟩ (bytes - 1) rest
    else if bytes ≤ c.utf8Size then ⟨p.line, p.column + bytes⟩
    else Position.after ⟨p.line, p.column + c.utf8Size⟩ (bytes - c.utf8Size) rest

/-- The report of a fault in a text. -/
def Fault.report (f : Fault) (text : List Char) : String :=
  match f.behind with
  | none => f.cause.text
  | some behind =>
    let p := Position.after ⟨1, 0⟩ (byteCount text - behind) text
    f.cause.text ++ " at line " ++ toString p.line ++ " column " ++ toString p.column

end Passkey.Json
