/-
Passkey/Browser/Forest.lean

The elements of a page as a forest.

A forest is the list of its trees, each given by its root and the forest of
its children.  An element is addressed by its number, and every change keeps
the order of the elements that it does not concern.
-/
import Passkey.Browser.Element

namespace Passkey.Browser

/-- A sequence of trees of elements. -/
inductive Forest where
  | empty
  /-- A tree, with its root and the forest below it, before other trees. -/
  | tree (root : Element) (children : Forest) (rest : Forest)
deriving DecidableEq, Repr, Inhabited

namespace Forest

/-- Two forests side by side. -/
def append : Forest → Forest → Forest
  | empty, g => g
  | tree e children rest, g => tree e children (append rest g)

/-- The elements in the order of the page: every element before those below it. -/
def elements : Forest → List Element
  | empty => []
  | tree e children rest => e :: (children.elements ++ rest.elements)

/-- The element with a number. -/
def find? (f : Forest) (n : Nat) : Option Element :=
  f.elements.find? (·.number == n)

/-- The text of all elements. -/
def text : Forest → String
  | empty => ""
  | tree e children rest => e.ownText ++ children.text ++ rest.text

/-- The forest below an element. -/
def below? (n : Nat) : Forest → Option Forest
  | empty => none
  | tree e children rest =>
    if e.number = n then some children else (children.below? n).or (rest.below? n)

/-- The element and what it lies in, from the inside to the outside. -/
def path? (n : Nat) : Forest → Option (List Element)
  | empty => none
  | tree e children rest =>
    if e.number = n then some [e]
    else ((children.path? n).map (· ++ [e])).or (rest.path? n)

/-- The elements that pass a test, which also sees what they lie in, from the inside to the
outside. -/
def select (test : List Element → Element → Bool) (above : List Element) : Forest → List Element
  | empty => []
  | tree e children rest =>
    let inside := children.select test (e :: above) ++ rest.select test above
    if test above e then e :: inside else inside

/-! ### Changes -/

/-- Changes an element. -/
def update (n : Nat) (change : Element → Element) : Forest → Forest
  | empty => empty
  | tree e children rest =>
    tree (if e.number = n then change e else e) (children.update n change) (rest.update n change)

/-- Puts trees behind the children of an element. -/
def adopt (n : Nat) (trees : Forest) : Forest → Forest
  | empty => empty
  | tree e children rest =>
    if e.number = n then tree e (children.append trees) rest
    else tree e (adopt n trees children) (adopt n trees rest)

/-- Takes out the tree of an element; the second forest holds it. -/
def extract (n : Nat) : Forest → Forest × Forest
  | empty => (empty, empty)
  | tree e children rest =>
    if e.number = n then (rest, tree e children empty)
    else
      let (children', fromChildren) := children.extract n
      let (rest', fromRest) := rest.extract n
      (tree e children' rest', fromChildren.append fromRest)

/-- Takes out the children of an element; the second forest holds them. -/
def vacate (n : Nat) : Forest → Forest × Forest
  | empty => (empty, empty)
  | tree e children rest =>
    if e.number = n then (tree e empty rest, children)
    else
      let (children', fromChildren) := children.vacate n
      let (rest', fromRest) := rest.vacate n
      (tree e children' rest', fromChildren.append fromRest)

/-- Numbers the elements in the order of the page, and answers the next free number. -/
def numbered (next : Nat) : Forest → Forest × Nat
  | empty => (empty, next)
  | tree e children rest =>
    let (children, after) := children.numbered (next + 1)
    let (rest, last) := rest.numbered after
    (tree { e with number := next } children rest, last)

/-! ### What changes keep -/

@[simp] theorem elements_append (f g : Forest) :
    (f.append g).elements = f.elements ++ g.elements := by
  induction f with
  | empty => rfl
  | tree e children rest _ ih => simp [append, elements, ih]

/-- Changing an element changes it in the order of the page. -/
theorem elements_update (n : Nat) (change : Element → Element) (f : Forest) :
    (f.update n change).elements =
      f.elements.map fun e => if e.number = n then change e else e := by
  induction f with
  | empty => rfl
  | tree e children rest ih₁ ih₂ => simp [update, elements, ih₁, ih₂]

end Forest

end Passkey.Browser
