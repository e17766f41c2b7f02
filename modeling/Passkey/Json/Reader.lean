/-
Passkey/Json/Reader.lean

Reading JSON text.

A reader takes something from the front of a text, never nothing, and returns
what is left.  Arrays and objects are read by two loops that know nothing of
what stands inside them, so that the reader of arbitrary values and the
readers of particular shapes share them.  The reader of values is recursive
in the depth of nesting that is still allowed, and the loops end because
every round takes something.
-/
import Passkey.Json.ScanNumber

namespace Passkey.Json

/-! ### Readers -/

/-- What a reader took from the front of a text, and what is left.  Something was taken. -/
structure Parsed (α : Type) (cs : List Char) where
  value : α
  rest : List Char
  shorter : rest.length < cs.length

/-- A reader takes something from the front of a text or finds a fault. -/
abbrev Reader (α : Type) : Type :=
  (cs : List Char) → Except Fault (Parsed α cs)

/-- The same result for a longer text. -/
def Parsed.widen {α : Type} {cs ds : List Char} (p : Parsed α cs) (h : cs.length ≤ ds.length) :
    Parsed α ds :=
  ⟨p.value, p.rest, Nat.lt_of_lt_of_le p.shorter h⟩

/-- Reads a string, behind its opening quote. -/
def readString : Reader String := fun cs =>
  match h : scanString cs with
  | .error f => .error f
  | .ok (s, rest) => .ok ⟨String.ofList s, rest, length_scanString h⟩

/-- The end of a text, of which no part is taken. -/
abbrev Tail (cs : List Char) : Type :=
  { ds : List Char // ds.length ≤ cs.length }

/-! ### Arrays -/

/-- Where the next item of an array starts, or nothing if the array ends.
Items behind the first one follow a comma. -/
def nextItem (first : Bool) (cs : List Char) : Except Fault (Option (Tail cs)) :=
  match h : skipSpace cs with
  | [] => .error (.at .endInArray [])
  | ']' :: _ => .ok none
  | c :: rest =>
    have hle : (c :: rest).length ≤ cs.length := le_of_skipSpace h
    if first then .ok (some ⟨c :: rest, hle⟩)
    else if c = ',' then
      match h' : skipSpace rest with
      | [] => .error (.at .endInValue [])
      | ']' :: more => .error (.at .trailingComma (']' :: more))
      | c' :: more =>
        .ok (some ⟨c' :: more, Nat.le_trans (le_of_skipSpace h') (Nat.le_of_succ_le hle)⟩)
    else .error (.at .commaOrBracketDue (c :: rest))

/-- Takes the bracket that ends an array. -/
def closeArray (cs : List Char) : Except Fault (Parsed Unit cs) :=
  match h : skipSpace cs with
  | [] => .error (.at .endInArray [])
  | ']' :: rest =>
    .ok ⟨(), rest, lt_of_skipSpace h⟩
  | ',' :: rest =>
    match skipSpace rest with
    | ']' :: more => .error (.at .trailingComma (']' :: more))
    | more => .error (.at .trailingCharacters more)
  | rest => .error (.at .trailingCharacters rest)

/-- Reads the items of an array and the bracket behind them. -/
def readItems {α : Type} (item : Reader α) (first : Bool) (cs : List Char) :
    Except Fault (Parsed (List α) cs) :=
  match nextItem first cs with
  | .error f => .error f
  | .ok none => (closeArray cs).map fun p => ⟨[], p.rest, p.shorter⟩
  | .ok (some start) =>
    match item start.val with
    | .error f => .error f
    | .ok p =>
      have hp : p.rest.length < cs.length := Nat.lt_of_lt_of_le p.shorter start.property
      match readItems item false p.rest with
      | .error f => .error f
      | .ok ps => .ok ⟨p.value :: ps.value, ps.rest, Nat.lt_trans ps.shorter hp⟩
termination_by cs.length

/-! ### Objects -/

/-- Where the next member of an object starts, behind the quote of its name,
or nothing if the object ends.  Members behind the first one follow a comma. -/
def nextMember (first : Bool) (cs : List Char) : Except Fault (Option (Tail cs)) :=
  match h : skipSpace cs with
  | [] => .error (.at .endInObject [])
  | '}' :: _ => .ok none
  | c :: rest =>
    have hle : (c :: rest).length ≤ cs.length := le_of_skipSpace h
    if first then
      if c = '"' then .ok (some ⟨rest, Nat.le_of_succ_le hle⟩)
      else .error (.at .nameDue (c :: rest))
    else if c = ',' then
      match h' : skipSpace rest with
      | [] => .error (.at .endInValue [])
      | '"' :: more =>
        .ok (some ⟨more, Nat.le_trans (Nat.le_of_lt (lt_of_skipSpace h')) (Nat.le_of_succ_le hle)⟩)
      | '}' :: more => .error (.at .trailingComma ('}' :: more))
      | c' :: more => .error (.at .nameDue (c' :: more))
    else .error (.at .commaOrBraceDue (c :: rest))

/-- Takes the brace that ends an object. -/
def closeObject (cs : List Char) : Except Fault (Parsed Unit cs) :=
  match h : skipSpace cs with
  | [] => .error (.at .endInObject [])
  | '}' :: rest =>
    .ok ⟨(), rest, lt_of_skipSpace h⟩
  | ',' :: rest => .error (.at .trailingComma (',' :: rest))
  | rest => .error (.at .trailingCharacters rest)

/-- Takes the colon between a name and a value. -/
def readColon (cs : List Char) : Except Fault (Parsed Unit cs) :=
  match h : skipSpace cs with
  | [] => .error (.at .endInObject [])
  | ':' :: rest =>
    .ok ⟨(), rest, lt_of_skipSpace h⟩
  | rest => .error (.at .colonDue rest)

/-- Reads the colon of a member and its value. -/
def readMemberValue {α : Type} (value : Reader α) : Reader α := fun cs =>
  match readColon cs with
  | .error f => .error f
  | .ok colon =>
    (value colon.rest).map fun p => p.widen (Nat.le_of_lt colon.shorter)

/-- Reads the members of an object and the brace behind them.  Each member is
added to what the members before it gave; its reader starts behind the quote
of its name. -/
def foldMembers {σ : Type} (member : σ → Reader σ) (s : σ) (first : Bool) (cs : List Char) :
    Except Fault (Parsed σ cs) :=
  match nextMember first cs with
  | .error f => .error f
  | .ok none => (closeObject cs).map fun p => ⟨s, p.rest, p.shorter⟩
  | .ok (some start) =>
    match member s start.val with
    | .error f => .error f
    | .ok p =>
      have hp : p.rest.length < cs.length := Nat.lt_of_lt_of_le p.shorter start.property
      match foldMembers member p.value false p.rest with
      | .error f => .error f
      | .ok q => .ok ⟨q.value, q.rest, Nat.lt_trans q.shorter hp⟩
termination_by cs.length

/-! ### Values -/

/-- Reads a word, whose first character was taken already. -/
def readWord (word : String) (v : Value) (c : Char) (rest : List Char) :
    Except Fault (Parsed Value (c :: rest)) :=
  match h : scanWord word.toList rest with
  | .error f => .error f
  | .ok left => .ok ⟨v, left, Nat.lt_succ_of_le (length_scanWord h)⟩

/-- Reads a number without its sign. -/
def readUnsigned (negative : Bool) : Reader Value := fun cs =>
  match h : scanUnsigned negative cs with
  | .error f => .error f
  | .ok (n, rest) => .ok ⟨.num n, rest, length_scanUnsigned h⟩

/-- Reads a value that is neither an array nor an object. -/
def readScalar (c : Char) (rest : List Char) : Except Fault (Parsed Value (c :: rest)) :=
  match c with
  | 'n' => readWord "ull" .null 'n' rest
  | 't' => readWord "rue" (.bool true) 't' rest
  | 'f' => readWord "alse" (.bool false) 'f' rest
  | '"' => (readString rest).map fun p => ⟨.str p.value, p.rest, Nat.lt_succ_of_lt p.shorter⟩
  | '-' => (readUnsigned true rest).map fun p => p.widen (Nat.le_succ _)
  | c =>
    if (Decimal.digit? c).isSome then readUnsigned false (c :: rest)
    else .error (.at .valueDue (c :: rest))

/-- Reads a member and puts it into its place among those before it. -/
def insertMember (value : Reader Value) (ms : Members) : Reader Members := fun cs =>
  match readString cs with
  | .error f => .error f
  | .ok name =>
    (readMemberValue value name.rest).map fun p =>
      ⟨ms.insert name.value p.value, p.rest, Nat.lt_trans p.shorter name.shorter⟩

/-- Reads a value whose arrays and objects are nested less than `depth` deep. -/
def readValue (depth : Nat) : Reader Value := fun cs =>
  match h : skipSpace cs with
  | [] => .error (.at .endInValue [])
  | c :: rest =>
    have hle : (c :: rest).length ≤ cs.length := le_of_skipSpace h
    have hlt : rest.length ≤ cs.length := Nat.le_of_succ_le hle
    match c with
    | '[' =>
      match depth with
      | 0 => .error (.at .tooDeep ('[' :: rest))
      | depth + 1 =>
        (readItems (readValue depth) true rest).map fun p =>
          (⟨.arr p.value, p.rest, p.shorter⟩ : Parsed Value rest).widen hlt
    | '{' =>
      match depth with
      | 0 => .error (.at .tooDeep ('{' :: rest))
      | depth + 1 =>
        (foldMembers (insertMember (readValue depth)) [] true rest).map fun p =>
          (⟨.obj p.value, p.rest, p.shorter⟩ : Parsed Value rest).widen hlt
    | c => (readScalar c rest).map fun p => p.widen hle

/-- The depth of nesting that is allowed. -/
def maxDepth : Nat := 127

/-- Checks that nothing but white space is left. -/
def checkEnd (cs : List Char) : Except Fault Unit :=
  match skipSpace cs with
  | [] => .ok ()
  | c :: rest => .error (.at .trailingCharacters (c :: rest))

/-- Reads a whole text. -/
def readAll {α : Type} (reader : Reader α) (text : List Char) : Except Fault α :=
  match reader text with
  | .error f => .error f
  | .ok p => (checkEnd p.rest).map fun _ => p.value

/-- The value of a JSON text. -/
def Value.parse (text : String) : Except Fault Value :=
  readAll (readValue maxDepth) text.toList

end Passkey.Json
