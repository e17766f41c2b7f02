/-
Passkey/Json/Value.lean

JSON values.

An object is a list of named members.  A value that was read from text has
its members in the order of their names, each name once; a value that is
about to be written has them in the order in which they are to appear.
Integers that fit a machine word stay integers, all other numbers are binary
floating point numbers.
-/
namespace Passkey.Json

/-- A JSON number. -/
inductive Number where
  | int (i : Int)
  | float (x : Float)
deriving Repr, BEq, Inhabited

/-- A JSON value. -/
inductive Value where
  | null
  | bool (b : Bool)
  | num (n : Number)
  | str (s : String)
  | arr (items : List Value)
  | obj (members : List (String × Value))
deriving Repr, BEq, Inhabited

/-- The members of an object. -/
abbrev Members := List (String × Value)

/-- The first value under a name. -/
def Members.get? (ms : Members) (name : String) : Option Value :=
  (ms.find? (·.1 == name)).map (·.2)

/-- Puts a member into its place in an ordered list; a member of the same name
is replaced. -/
def Members.insert : (ms : Members) → (name : String) → (v : Value) → Members
  | [], name, v => [(name, v)]
  | (n, w) :: rest, name, v =>
    if name = n then (name, v) :: rest
    else if name < n then (name, v) :: (n, w) :: rest
    else (n, w) :: Members.insert rest name v

/-- Orders members by name; of several with one name the last counts. -/
def Members.ordered (ms : List (String × Value)) : Members :=
  ms.foldl (fun acc m => Members.insert acc m.1 m.2) []

/-- The members whose names are not in a list. -/
def Members.without (ms : Members) (names : List String) : Members :=
  ms.filter fun m => !names.contains m.1

/-- The member of an object under a name. -/
def Value.member? (v : Value) (name : String) : Option Value :=
  match v with
  | .obj ms => Members.get? ms name
  | _ => none

/-- An array of texts. -/
def Value.ofTexts (ss : List String) : Value :=
  .arr (ss.map .str)

end Passkey.Json
