/-
Passkey/Json/Typed.lean

Reading values of an expected kind.

The same expectation is stated twice: over a value that was read already,
where a fault has no place, and over text, where the fault of a scalar is
behind it and the fault of an array or object in front of it.
-/
import Passkey.Base64
import Passkey.Json.Reader

namespace Passkey.Json

/-! ### What is expected -/

/-- How a report names an expected text. -/
def aString : String := "a string"

/-- How a report names an expected boolean. -/
def aBoolean : String := "a boolean"

/-- How a report names an expected array. -/
def aSequence : String := "a sequence"

/-! ### From values -/

/-- Refuses a value of the wrong kind. -/
def Value.refuse {α : Type} (v : Value) (expected : String) : Except Cause α :=
  .error (.wrongKind (Found.ofValue v) expected)

/-- The text that a value is. -/
def Value.asText : Value → Except Cause String
  | .str s => .ok s
  | v => v.refuse aString

/-- The byte string that a value spells. -/
def Value.asBytes (v : Value) : Except Cause Bytes :=
  match v.asText with
  | .error c => .error c
  | .ok s =>
    match Base64.decode? s with
    | some bytes => .ok bytes
    | none => .error .notBase64

/-- The items of a value that is an array. -/
def Value.asItems : Value → Except Cause (List Value)
  | .arr items => .ok items
  | v => v.refuse aSequence

/-- The texts of a value that is an array of texts. -/
def Value.asTexts (v : Value) : Except Cause (List String) :=
  v.asItems.bind fun items => items.mapM Value.asText

/-- The value of a member that may be missing. -/
def memberOr {α : Type} (ms : Members) (name : String) (default : α)
    (read : Value → Except Cause α) : Except Cause α :=
  match ms.get? name with
  | some v => read v
  | none => .ok default

/-! ### From text -/

/-- Refuses the value that starts here, where another kind is expected. -/
def refuseKind {α : Type} (expected : String) (c : Char) (rest : List Char) : Except Fault α :=
  match c with
  | '[' => .error (.before (.wrongKind .sequence expected) (c :: rest))
  | '{' => .error (.before (.wrongKind .map expected) (c :: rest))
  | _ =>
    match readScalar c rest with
    | .error f => .error f
    | .ok p => .error (.before (.wrongKind (Found.ofValue p.value) expected) p.rest)

/-- Reads a boolean. -/
def readBool : Reader Bool := fun cs =>
  match h : skipSpace cs with
  | [] => .error (.at .endInValue [])
  | c :: rest =>
    have hle : (c :: rest).length ≤ cs.length := le_of_skipSpace h
    match c with
    | 't' => (readWord "rue" .null 't' rest).map fun p => ⟨true, p.rest, Nat.lt_of_lt_of_le p.shorter hle⟩
    | 'f' => (readWord "alse" .null 'f' rest).map fun p => ⟨false, p.rest, Nat.lt_of_lt_of_le p.shorter hle⟩
    | c => refuseKind aBoolean c rest

/-- Reads a text. -/
def readText : Reader String := fun cs =>
  match h : skipSpace cs with
  | [] => .error (.at .endInValue [])
  | c :: rest =>
    have hle : (c :: rest).length ≤ cs.length := le_of_skipSpace h
    match c with
    | '"' => (readString rest).map fun p => p.widen (Nat.le_of_succ_le hle)
    | c => refuseKind aString c rest

/-- Reads a value that may be null. -/
def readNullable {α : Type} (reader : Reader α) : Reader (Option α) := fun cs =>
  match h : skipSpace cs with
  | 'n' :: rest =>
    have hle : ('n' :: rest).length ≤ cs.length := le_of_skipSpace h
    (readWord "ull" .null 'n' rest).map fun p => ⟨none, p.rest, Nat.lt_of_lt_of_le p.shorter hle⟩
  | start =>
    (reader start).map fun p =>
      ⟨some p.value, p.rest, Nat.lt_of_lt_of_le p.shorter (h ▸ length_skipSpace cs)⟩

/-- The byte string that a JSON text spells. -/
def parseBytes (text : String) : Except Fault Bytes :=
  match readText text.toList with
  | .error f => .error f
  | .ok p =>
    match Base64.decode? p.value with
    | none => .error (.anywhere .notBase64)
    | some bytes => (checkEnd p.rest).map fun _ => bytes

end Passkey.Json
