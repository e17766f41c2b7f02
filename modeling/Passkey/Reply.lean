/-
Passkey/Reply.lean

What the server answers to a submitted credential.

A reply says whether the ceremony succeeded, where to go next and which error
to show.  Each part may be missing, members that nobody knows are passed over
without being decoded, and the three parts may also come as an array.
-/
import Passkey.Json.Skip
import Passkey.Json.Typed

namespace Passkey

/-- The answer of the server: whether the credential was accepted, where the page goes next, and the
key of the error to show. -/
structure Reply where
  success : Bool
  redirect : Option String
  error : Option String
deriving DecidableEq, Repr

namespace Reply

open Json Text

/-- A reply that says nothing. -/
def empty : Reply := ⟨false, none, none⟩

/-- Where an accepted ceremony leads; a refused one leads nowhere, and neither
does a blank redirect. -/
def target? (r : Reply) : Option String :=
  if r.success then r.redirect.bind nonBlank? else none

theorem target?_eq_some_iff {r : Reply} {t : String} :
    r.target? = some t ↔
      r.success = true ∧ ∃ redirect, r.redirect = some redirect ∧ trim redirect ≠ "" ∧
        t = trim redirect := by
  rcases hs : r.success with - | -
  · simp [target?, hs]
  · simp [target?, hs, Option.bind_eq_some_iff, nonBlank?_eq_some_iff, and_comm]

/-! ### Reading -/

/-- How a report names an expected reply. -/
def aReply : String := "struct ServerReply"

/-- The members of a reply that were read so far. -/
structure Draft where
  success : Option Bool
  redirect : Option (Option String)
  error : Option (Option String)

/-- A draft without any part. -/
def Draft.blank : Draft := ⟨none, none, none⟩

/-- The reply of a draft: parts that are missing say nothing. -/
def Draft.finish (d : Draft) : Reply :=
  ⟨d.success.getD false, d.redirect.getD none, d.error.getD none⟩

/-- The fault of a name that occurs twice.  Its place is behind the name and
the white space that follows, and behind a brace that follows those. -/
def duplicate {α : Type} (name : String) (rest : List Char) : Except Fault α :=
  match skipSpace rest with
  | '}' :: more => .error (.before (.duplicateField name) more)
  | more => .error (.before (.duplicateField name) more)

/-- Reads a member and adds it to a draft. -/
def readMember (d : Draft) : Reader Draft := fun cs =>
  match readString cs with
  | .error f => .error f
  | .ok name =>
    let next (r : Except Fault (Parsed Draft name.rest)) : Except Fault (Parsed Draft cs) :=
      r.map fun p => p.widen (Nat.le_of_lt name.shorter)
    if name.value = "success" then
      if d.success.isSome then duplicate "success" name.rest
      else next ((readMemberValue readBool name.rest).map fun p =>
        ⟨{ d with success := some p.value }, p.rest, p.shorter⟩)
    else if name.value = "redirect" then
      if d.redirect.isSome then duplicate "redirect" name.rest
      else next ((readMemberValue (readNullable readText) name.rest).map fun p =>
        ⟨{ d with redirect := some p.value }, p.rest, p.shorter⟩)
    else if name.value = "error" then
      if d.error.isSome then duplicate "error" name.rest
      else next ((readMemberValue (readNullable readText) name.rest).map fun p =>
        ⟨{ d with error := some p.value }, p.rest, p.shorter⟩)
    else next ((readMemberValue skipValue name.rest).map fun p => ⟨d, p.rest, p.shorter⟩)

/-- Reads an item of an array, if there is one. -/
def readOptionalItem {α : Type} (first : Bool) (reader : Reader α) (cs : List Char) :
    Except Fault (Option α × Tail cs) :=
  match nextItem first cs with
  | .error f => .error f
  | .ok none => .ok (none, ⟨cs, Nat.le_refl _⟩)
  | .ok (some start) =>
    (reader start.val).map fun p =>
      (some p.value, ⟨p.rest, Nat.le_trans (Nat.le_of_lt p.shorter) start.property⟩)

/-- Reads a reply that is given as an array, behind its opening bracket. -/
def readArray (cs : List Char) : Except Fault (Parsed Reply cs) :=
  match readOptionalItem true readBool cs with
  | .error f => .error f
  | .ok (success, r₁) =>
    match readOptionalItem success.isNone (readNullable readText) r₁.val with
    | .error f => .error f
    | .ok (redirect, r₂) =>
      match readOptionalItem success.isNone (readNullable readText) r₂.val with
      | .error f => .error f
      | .ok (error, r₃) =>
        (closeArray r₃.val).map fun p =>
          ⟨Draft.finish ⟨success, redirect, error⟩, p.rest,
            Nat.lt_of_lt_of_le p.shorter
              (Nat.le_trans r₃.property (Nat.le_trans r₂.property r₁.property))⟩

/-- Reads a reply. -/
def read : Reader Reply := fun cs =>
  match h : skipSpace cs with
  | [] => .error (.at .endInValue [])
  | c :: rest =>
    have hle : rest.length ≤ cs.length := Nat.le_of_lt (lt_of_skipSpace h)
    match c with
    | '[' => (readArray rest).map fun p => p.widen hle
    | '{' =>
      (foldMembers readMember .blank true rest).map fun p =>
        (⟨p.value.finish, p.rest, p.shorter⟩ : Parsed Reply rest).widen hle
    | c => refuseKind aReply c rest

/-- The reply that a body says. -/
def parse (body : String) : Except Fault Reply :=
  readAll read body.toList

end Reply

end Passkey
