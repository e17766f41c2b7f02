/-
Passkey/Browser/ScriptValue.lean

Values that the page's scripts and the browser exchange.

Reading a property may throw, and so may writing one; what is thrown is a
value as well.  A value can be shown in three ways: as JSON, as the text that
a script makes of it, and as a line of the console.
-/
import Passkey.Base64
import Passkey.Json.Printer

namespace Passkey.Browser

/-- A value of a script. -/
inductive ScriptValue where
  | undefined
  | null
  | bool (b : Bool)
  | number (x : Float)
  | text (s : String)
  | list (items : List ScriptValue)
  /-- An object.  One that is `frozen` throws when a property is written. -/
  | object (frozen : Bool) (members : List (String × ScriptValue))
  | function
  /-- An error, with its name and its message. -/
  | exception (name : String) (message : String)
  /-- An array of bytes. -/
  | bytes (octets : Bytes)
  /-- What stands under a property that throws when it is read. -/
  | unreadable
deriving Repr, Inhabited

namespace ScriptValue

/-! ### Texts -/

/-- The text of a value, if it is one. -/
def text? : ScriptValue → Option String
  | text s => some s
  | _ => none

/-- The number that a value is, if it is one. -/
def number? : ScriptValue → Option Float
  | number x => some x
  | _ => none

/-- Whether the value is `undefined` or `null`. -/
def isNothing : ScriptValue → Bool
  | undefined => true
  | null => true
  | _ => false

/-- Whether a number is written as an integer: it is one, and it has at most fifteen digits. -/
def isShortInteger (x : Float) : Bool :=
  x.floor == x && x.abs < 1e15

/-- A number as JSON. -/
def numberToJson (x : Float) : Json.Value :=
  if isShortInteger x then .num (.int x.toInt64.toInt) else .num (.float x)

/-- The two digits of a byte. -/
def byteDigits (b : UInt8) : List Char :=
  [Json.hexDigit (b.toNat / 16), Json.hexDigit (b.toNat % 16)]

mutual

/-- The value as JSON.  What JSON cannot express is an object with a marked member. -/
def toJson : ScriptValue → Json.Value
  | undefined => .obj [("$undefined", .bool true)]
  | null => .null
  | bool b => .bool b
  | number x => numberToJson x
  | text s => .str s
  | list items => .arr (itemsToJson items)
  | object _ members => .obj (Json.Members.ordered (membersToJson members))
  | function => .obj []
  | exception name message => .obj [("message", .str message), ("name", .str name)]
  | bytes octets => .obj [("$bytes", .str (String.ofList (octets.flatMap byteDigits)))]
  | unreadable => .obj []

/-- The items of a list as JSON. -/
def itemsToJson : List ScriptValue → List Json.Value
  | [] => []
  | v :: rest => v.toJson :: itemsToJson rest

/-- The members of an object as JSON. -/
def membersToJson : List (String × ScriptValue) → List (String × Json.Value)
  | [] => []
  | (name, v) :: rest => (name, v.toJson) :: membersToJson rest

end

mutual

/-- The value as the console shows it, without the mark that it is one. -/
def shown : ScriptValue → String
  | undefined => "undefined"
  | null => "null"
  | bool b => if b then "true" else "false"
  | number x => Decimal.Layout.plain.text x
  | text s => "\"" ++ s ++ "\""
  | list items => "[" ++ ", ".intercalate (shownItems items) ++ "]"
  | function => "Function"
  | exception name message => name ++ ": " ++ message ++ "\n"
  | v => "Object(" ++ v.toJson.text ++ ")"

/-- The items of a list as the console shows them. -/
def shownItems : List ScriptValue → List String
  | [] => []
  | v :: rest => v.shown :: shownItems rest

end

/-- The value as the console shows it. -/
def display (v : ScriptValue) : String :=
  "JsValue(" ++ v.shown ++ ")"

mutual

/-- The text that a script makes of a value. -/
def asText : ScriptValue → String
  | undefined => "undefined"
  | null => "null"
  | bool b => if b then "true" else "false"
  | number x => if x == 0 then "0" else Decimal.Layout.script.text x
  | text s => s
  | list items => ",".intercalate (itemTexts items)
  | function => "function () \x7b [native code] \x7d"
  | exception name message => name ++ ": " ++ message
  | object _ _ => "[object Object]"
  | bytes octets => ",".intercalate (octets.map fun b => toString b.toNat)
  | unreadable => "[object Object]"

/-- The texts of the items of a list; nothing leaves an empty text. -/
def itemTexts : List ScriptValue → List String
  | [] => []
  | v :: rest => (if v.isNothing then "" else v.asText) :: itemTexts rest

end

/-! ### Properties -/

/-- An error that says that a value has the wrong type. -/
def typeError (message : String) : ScriptValue :=
  exception "TypeError" message

/-- What a property that throws when it is read throws. -/
def getterFailed : ScriptValue := typeError "getter failed"

/-- What a property that throws when it is written throws. -/
def setterFailed : ScriptValue := typeError "setter failed"

/-- The value under a name, which may throw when it is read. -/
def reading (v : ScriptValue) : Except ScriptValue ScriptValue :=
  match v with
  | unreadable => .error getterFailed
  | v => .ok v

/-- Reads a property; a missing one is `undefined`. -/
def get (v : ScriptValue) (name : String) : Except ScriptValue ScriptValue :=
  match v with
  | object _ members => ((members.lookup name).getD undefined).reading
  | exception n message =>
    .ok (if name = "name" then text n else if name = "message" then text message else undefined)
  | list _ | function | bytes _ | unreadable => .ok undefined
  | undefined | null | bool _ | number _ | text _ =>
    .error (typeError "Reflect.get called on non-object")

/-- Puts a member into its place. -/
def putMember (name : String) (v : ScriptValue) :
    List (String × ScriptValue) → List (String × ScriptValue)
  | [] => [(name, v)]
  | (n, w) :: rest => if n = name then (name, v) :: rest else (n, w) :: putMember name v rest

/-- Writes a property. -/
def set (v : ScriptValue) (name : String) (w : ScriptValue) : Except ScriptValue ScriptValue :=
  match v with
  | object true _ => .error setterFailed
  | object false members => .ok (object false (putMember name w members))
  | undefined | null | bool _ | number _ | text _ =>
    .error (typeError "Reflect.set called on non-object")
  | v => .ok v

/-! ### From JSON -/

/-- The largest integer that a number of a script can stand for without doubt. -/
def maxSafeInteger : Nat := 0x1FFFFFFFFFFFFF

/-- A number of JSON as a number of a script; an integer that is too large is refused. -/
def ofNumber : Json.Number → Except Int ScriptValue
  | .int i => if i.natAbs ≤ maxSafeInteger then .ok (number (Float.ofInt i)) else .error i
  | .float x => .ok (number x)

mutual

/-- A JSON value as a value of a script, or the first integer that has no place in one. -/
def ofJson : Json.Value → Except Int ScriptValue
  | .null => .ok null
  | .bool b => .ok (bool b)
  | .num n => ofNumber n
  | .str s => .ok (text s)
  | .arr items => (itemsOfJson items).map list
  | .obj members => (membersOfJson members).map (object false)

/-- The items of a JSON array as values of a script. -/
def itemsOfJson : List Json.Value → Except Int (List ScriptValue)
  | [] => .ok []
  | v :: rest =>
    match ofJson v with
    | .error i => .error i
    | .ok v => (itemsOfJson rest).map (v :: ·)

/-- The members of a JSON object as values of a script. -/
def membersOfJson : List (String × Json.Value) → Except Int (List (String × ScriptValue))
  | [] => .ok []
  | (name, v) :: rest =>
    match ofJson v with
    | .error i => .error i
    | .ok v => (membersOfJson rest).map ((name, v) :: ·)

end

end ScriptValue

end Passkey.Browser
