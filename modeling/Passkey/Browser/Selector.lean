/-
Passkey/Browser/Selector.lean

Selectors of elements.

A selector is a list of alternatives.  An alternative is a chain of compounds
separated by white space, of which the last describes the element and each of
the others something that it lies in, further and further outside.  A
compound names a tag, classes, an id and values of attributes.
-/
import Passkey.Browser.Forest

namespace Passkey.Browser

open Text

/-! ### Meaning -/

/-- A property that a selector asks for. -/
inductive Trait where
  | tag (name : String)
  | className (name : String)
  | id (name : String)
  | attributeIs (name : String) (value : String)
deriving DecidableEq, Repr

/-- Whether an element has a property.  Tags and types of inputs are compared without regard
to the case of ASCII letters. -/
def Trait.holds (e : Element) : Trait → Bool
  | tag name => e.hasTag name
  | className name => e.classes.contains name
  | id name => e.attribute? "id" == some name
  | attributeIs name value =>
    match e.attribute? name with
    | none => false
    | some v => if name = "type" then sameAscii v value else v == value

/-- Properties that one element has together. -/
abbrev Compound := List Trait

/-- Whether an element has all properties. -/
def Compound.holds (c : Compound) (e : Element) : Bool :=
  c.all (·.holds e)

/-- Compounds from the element outwards. -/
abbrev Chain := List Compound

/-- Whether elements fit a chain, which may pass over some of them. -/
def Chain.fits (c : Chain) : List Element → Bool
  | [] => c.isEmpty
  | e :: above =>
    match c with
    | [] => true
    | compound :: outer => (compound.holds e && Chain.fits outer above) || Chain.fits c above

/-- Alternatives. -/
abbrev Selector := List Chain

/-- Whether an element fits one of the alternatives. -/
def Selector.fits (s : Selector) (above : List Element) (e : Element) : Bool :=
  s.any fun chain =>
    match chain with
    | [] => false
    | compound :: outer => compound.holds e && Chain.fits outer above

/-! ### Reading -/

/-- Whether the character may stand in a name. -/
def isNameChar (c : Char) : Bool :=
  c.isAlphanum || c == '-' || c == '_' || 0x80 ≤ c.toNat

/-- Whether a text is a name: it starts with two dashes, or behind leading dashes there is
something that does not start with a digit. -/
def isName (cs : List Char) : Bool :=
  cs.all isNameChar &&
    (['-', '-'].isPrefixOf cs ||
      match cs.dropWhile (· == '-') with
      | [] => false
      | c :: _ => !c.isDigit)

/-- Reads a name. -/
def readName? (cs : List Char) : Option (String × List Char) :=
  let name := cs.takeWhile isNameChar
  if isName name then some (String.ofList name, cs.dropWhile isNameChar) else none

theorem readName?_le {cs : List Char} {r : String × List Char} (h : readName? cs = some r) :
    r.2.length ≤ cs.length := by
  unfold readName? at h
  simp only [Option.ite_none_right_eq_some, Option.some.injEq] at h
  rw [← h.2]
  exact (List.dropWhile_sublist _).length_le

/-- Reads the value of an attribute up to the closing bracket. -/
def readValue? (cs : List Char) : Option (String × List Char) :=
  match cs.dropWhile (· != '"') with
  | '"' :: ']' :: rest => some (String.ofList (cs.takeWhile (· != '"')), rest)
  | _ => none

theorem readValue?_le {cs : List Char} {r : String × List Char} (h : readValue? cs = some r) :
    r.2.length ≤ cs.length := by
  unfold readValue? at h
  split at h
  · next rest heq =>
    cases h
    have := (List.dropWhile_sublist (l := cs) (· != '"')).length_le
    rw [heq] at this
    simp at this ⊢
    omega
  · cases h

/-- Reads the properties behind a tag. -/
def readTraits? (cs : List Char) : Option Compound :=
  match cs with
  | [] => some []
  | '.' :: rest =>
    match _h : readName? rest with
    | none => none
    | some (name, rest') => (readTraits? rest').map (.className name :: ·)
  | '#' :: rest =>
    match _h : readName? rest with
    | none => none
    | some (name, rest') => (readTraits? rest').map (.id name :: ·)
  | '[' :: rest =>
    match _h : readName? rest with
    | some (name, '=' :: '"' :: rest') =>
      match _h' : readValue? rest' with
      | none => none
      | some (value, rest'') => (readTraits? rest'').map (.attributeIs name value :: ·)
    | _ => none
  | _ => none
termination_by cs.length
decreasing_by
  · have := readName?_le _h; simp at this ⊢; omega
  · have := readName?_le _h; simp at this ⊢; omega
  · have := readName?_le _h; have := readValue?_le _h'; simp at *; omega

/-- Reads a compound, which is not empty. -/
def readCompound? (cs : List Char) : Option Compound :=
  match cs with
  | [] => none
  | c :: _ =>
    if c == '.' || c == '#' || c == '[' then readTraits? cs
    else
      match readName? cs with
      | none => none
      | some (name, rest) => (readTraits? rest).map (.tag name :: ·)

/-- The pieces of a text between separators outside quotes. -/
def piecesOutside (separates : Char → Bool) (quoted : Bool) : List Char → List (List Char)
  | [] => [[]]
  | c :: rest =>
    if separates c && !quoted then [] :: piecesOutside separates quoted rest
    else
      match piecesOutside separates (quoted != (c == '"')) rest with
      | [] => [[c]]
      | p :: ps => (c :: p) :: ps

/-- Reads a chain, which is not empty. -/
def readChain? (cs : List Char) : Option Chain :=
  match (piecesOutside Element.isMarkupSpace false cs).filter (!·.isEmpty) with
  | [] => none
  | parts => (parts.mapM readCompound?).map List.reverse

/-- Reads a selector; absent if the text is none. -/
def Selector.read? (text : String) : Option Selector :=
  (piecesOutside (· == ',') false text.toList).mapM readChain?

end Passkey.Browser
