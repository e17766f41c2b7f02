/-
Passkey/Browser/Element.lean

Elements of a page, each by itself.

An element knows its number, which no other element of the page ever has.
Classes live in the attribute `class`, data entries in attributes that start
with `data-`, and style properties in a table of their own.  An operation may
be broken on a single element; it then throws instead of doing its work.
-/
import Passkey.Browser.ScriptValue
import Passkey.Text.Case
import Passkey.Text.Split

namespace Passkey.Browser

open Text

/-! ### Tables of texts -/

/-- Puts an entry into its place in a table. -/
def putEntry (name value : String) : List (String × String) → List (String × String)
  | [] => [(name, value)]
  | (n, v) :: rest => if n = name then (name, value) :: rest else (n, v) :: putEntry name value rest

/-- A table without an entry. -/
def dropEntry (name : String) (entries : List (String × String)) : List (String × String) :=
  entries.filter (·.1 ≠ name)

theorem lookup_putEntry (name value other : String) (entries : List (String × String)) :
    (putEntry name value entries).lookup other =
      if other = name then some value else entries.lookup other := by
  have skip {n v : String} {l : List (String × String)} (h : other ≠ n) :
      ((n, v) :: l).lookup other = l.lookup other := by
    rw [List.lookup_cons, beq_eq_false_iff_ne.2 h]
  induction entries with
  | nil =>
    by_cases h : other = name
    · simp [putEntry, h]
    · simp [putEntry, skip h, h]
  | cons e rest ih =>
    obtain ⟨n, v⟩ := e
    by_cases hn : n = name
    · subst hn
      by_cases h : other = n
      · simp [putEntry, h]
      · simp [putEntry, skip h, h]
    · by_cases h : other = n
      · subst h
        simp [putEntry, hn]
      · simp [putEntry, hn, skip h, ih]

/-! ### Elements -/

/-- An operation that may be broken on an element. -/
inductive ElementFault where
  | classList
  | setAttribute
  | removeAttribute
  | dataset
  | play
  | style
deriving DecidableEq, Repr

/-- The name of a broken operation. -/
def ElementFault.name : ElementFault → String
  | classList => "classList"
  | setAttribute => "setAttribute"
  | removeAttribute => "removeAttribute"
  | dataset => "dataset"
  | play => "play"
  | style => "style"

/-- An element without its children, whose texts stand behind its own.  Its value, its tick and the
names of its files are those of an input, and its faults are the operations that are broken on it. -/
structure Element where
  number : Nat
  tag : String
  attributes : List (String × String)
  style : List (String × String)
  ownText : String
  value : String
  checked : Bool
  files : List String
  faults : List ElementFault
deriving DecidableEq, Repr, Inhabited

namespace Element

/-! ### Kinds -/

/-- Whether the tag is the given one. -/
def hasTag (e : Element) (tag : String) : Bool :=
  sameAscii e.tag tag

/-- Whether it is an element of the page's own language.  A drawing is not, and it is the only
element of another language that pages have. -/
def isHtml (e : Element) : Bool :=
  !e.hasTag "svg"

/-- Whether it is an input. -/
def isInput (e : Element) : Bool :=
  e.hasTag "input"

/-- Whether it plays sound or pictures. -/
def isMedia (e : Element) : Bool :=
  e.hasTag "audio" || e.hasTag "video"

/-! ### Faults -/

/-- What a broken operation throws. -/
def broken (fault : ElementFault) : ScriptValue :=
  .exception "NotSupportedError" fault.name

/-- Does something unless an operation is broken. -/
def guarded (e : Element) (fault : ElementFault) (thrown : ScriptValue) (changed : Element) :
    Except ScriptValue Element :=
  if e.faults.contains fault then .error thrown else .ok changed

/-! ### Attributes -/

/-- The value of an attribute. -/
def attribute? (e : Element) (name : String) : Option String :=
  e.attributes.lookup name

/-- The element with an attribute. -/
def withAttribute (e : Element) (name value : String) : Element :=
  { e with attributes := putEntry name value e.attributes }

/-- Removes an attribute. -/
def removeAttribute (e : Element) (name : String) : Except ScriptValue Element :=
  e.guarded .removeAttribute (broken .removeAttribute)
    { e with attributes := dropEntry name e.attributes }

/-- White space between class names and inside attribute names. -/
def isMarkupSpace (c : Char) : Bool :=
  c == ' ' || c == '\t' || c == '\n' || c == '\x0c' || c == '\r'

/-- Whether a text can be the name of an attribute. -/
def isAttributeName (name : String) : Bool :=
  !name.isEmpty && !name.toList.any fun c =>
    isMarkupSpace c || c == '/' || c == '>' || c == '=' || c.toNat == 0

/-- Sets an attribute as the browser does it for a script.  The name is brought into small
letters, and what is not a text becomes one. -/
def setAttribute (e : Element) (args : List ScriptValue) : Except ScriptValue Element :=
  match args with
  | name :: value :: _ =>
    if e.faults.contains .setAttribute then .error (broken .setAttribute)
    else if isAttributeName name.asText then
      .ok (e.withAttribute (asciiLowerText name.asText) value.asText)
    else .error (.exception "InvalidCharacterError" "invalid attribute name")
  | _ => .error (.typeError "2 arguments required")

/-- The id. -/
def id (e : Element) : String :=
  (e.attribute? "id").getD ""

/-- The attribute that holds a data entry: `audioId` is kept in `data-audio-id`. -/
def dataAttribute (entry : String) : String :=
  "data-" ++ String.ofList (entry.toList.flatMap fun c =>
    if 'A' ≤ c ∧ c ≤ 'Z' then ['-', asciiLower c] else [c])

/-- A data entry. -/
def data? (e : Element) (entry : String) : Option String :=
  e.attribute? (dataAttribute entry)

/-- Sets a data entry. -/
def setData (e : Element) (entry value : String) : Except ScriptValue Element :=
  match e.guarded .dataset (broken .dataset) e with
  | .error v => .error v
  | .ok e =>
    e.guarded .setAttribute (broken .setAttribute) (e.withAttribute (dataAttribute entry) value)

/-! ### Classes -/

/-- The words between white space. -/
def words (s : String) : List String :=
  ((s.toList.splitBy fun a b => isMarkupSpace a == isMarkupSpace b).filter fun w =>
    !w.any isMarkupSpace).map String.ofList

/-- The classes, each once. -/
def classes (e : Element) : List String :=
  (words ((e.attribute? "class").getD "")).eraseDups

/-- The element with other classes; nothing is written if there were none and are none. -/
def withClasses (e : Element) (classes : List String) : Element :=
  if (e.attribute? "class").isNone && classes.isEmpty then e
  else e.withAttribute "class" (" ".intercalate classes)

/-- Changes the classes on behalf of one class, whose name has to be a single word. -/
def changeClass (e : Element) (name : String) (classes : List String) :
    Except ScriptValue Element :=
  if e.faults.contains .classList then .error (broken .classList)
  else if name.isEmpty then .error (.exception "SyntaxError" "empty token")
  else if name.toList.any isMarkupSpace then
    .error (.exception "InvalidCharacterError" "token has white space")
  else .ok (e.withClasses classes)

/-- Adds a class. -/
def addClass (e : Element) (name : String) : Except ScriptValue Element :=
  e.changeClass name (if e.classes.contains name then e.classes else e.classes ++ [name])

/-- Removes a class. -/
def removeClass (e : Element) (name : String) : Except ScriptValue Element :=
  e.changeClass name (e.classes.filter (· ≠ name))

/-! ### Style, value and files -/

/-- Sets a style property. -/
def setStyle (e : Element) (property value : String) : Except ScriptValue Element :=
  e.guarded .style .setterFailed { e with style := putEntry property value e.style }

/-- Removes a style property. -/
def removeStyle (e : Element) (property : String) : Except ScriptValue Element :=
  e.guarded .style .setterFailed { e with style := dropEntry property e.style }

/-- Whether it is a field for files. -/
def isFileField (e : Element) : Bool :=
  e.isInput && e.attribute? "type" == some "file"

/-- The first of the files that a field for files holds. -/
def firstFile? (e : Element) : Option String :=
  if e.isFileField then e.files.head? else none

/-- The element with an empty value, which drops its files. -/
def emptied (e : Element) : Element :=
  { e with value := "", files := [] }

end Element

end Passkey.Browser
