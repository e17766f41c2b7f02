/-
Passkey/Browser/Document.lean

The document of a page.

The document holds what is in the page and what was taken out of it: an
element that a script or a listener still knows stays what it was.  Numbers
are given in the order in which elements come to the page and are never used
again.
-/
import Passkey.Browser.Selector

namespace Passkey.Browser

/-- A document: the trees in the page, the trees that were taken out, and the number of the next
element. -/
structure Document where
  tree : Forest
  detached : Forest
  next : Nat
deriving Repr

namespace Document

/-- The document of a page that holds the given trees. -/
def ofTrees (trees : Forest) : Document :=
  let (tree, next) := trees.numbered 0
  ⟨tree, .empty, next⟩

/-! ### Looking up -/

/-- All elements, in the page and taken out. -/
def elements (d : Document) : List Element :=
  d.tree.elements ++ d.detached.elements

/-- The element with a number. -/
def element? (d : Document) (n : Nat) : Option Element :=
  (d.tree.find? n).or (d.detached.find? n)

/-- The first element of the page with an id.  The empty text is nobody's id. -/
def byId? (d : Document) (id : String) : Option Element :=
  if id.isEmpty then none else d.tree.elements.find? (·.attribute? "id" == some id)

/-- The elements of the page that fit a selector, in order. -/
def select (d : Document) (s : Selector) : List Element :=
  d.tree.select s.fits []

/-- The element and what it lies in, from the inside to the outside, and whether that is in
the page. -/
def path (d : Document) (n : Nat) : List Element × Bool :=
  match d.tree.path? n with
  | some es => (es, true)
  | none => ((d.detached.path? n).getD [], false)

/-- The element directly around an element. -/
def parent? (d : Document) (n : Nat) : Option Element :=
  (d.path n).1[1]?

/-- What lies below an element. -/
def below (d : Document) (n : Nat) : Forest :=
  ((d.tree.below? n).or (d.detached.below? n)).getD .empty

/-- The first element below an element that fits a selector. -/
def selectBelow? (d : Document) (n : Nat) (s : Selector) : Option Element :=
  ((d.below n).select s.fits (d.path n).1).head?

/-- The text of an element with everything below it. -/
def textOf (d : Document) (e : Element) : String :=
  e.ownText ++ (d.below e.number).text

/-! ### Changes -/

/-- Changes an element. -/
def update (d : Document) (n : Nat) (change : Element → Element) : Document :=
  { d with tree := d.tree.update n change, detached := d.detached.update n change }

/-- Replaces an element by a changed one of the same number. -/
def put (d : Document) (e : Element) : Document :=
  d.update e.number fun _ => e

/-- Puts trees behind the children of an element, or of the document itself. -/
def insert (d : Document) (parent : Option Nat) (trees : Forest) : Document :=
  let (trees, next) := trees.numbered d.next
  match parent with
  | none => { d with tree := d.tree.append trees, next }
  | some n => ⟨.adopt n trees d.tree, .adopt n trees d.detached, next⟩

/-- Takes an element with everything below it out of what it lies in. -/
def remove (d : Document) (n : Nat) : Document :=
  let (tree, out) := d.tree.extract n
  let (detached, out') := d.detached.extract n
  { d with tree, detached := detached.append (out.append out') }

/-- Makes a text the only content of an element. -/
def setText (d : Document) (n : Nat) (text : String) : Document :=
  let (tree, out) := d.tree.vacate n
  let (detached, out') := d.detached.vacate n
  { d with tree, detached := detached.append (out.append out') }.update n
    fun e => { e with ownText := text }

end Document

end Passkey.Browser
