/-
Passkey/Proofs/Browser/Mapping.lean

Changes that keep the shape of a page.

A change of elements that leaves every element in its place, and with its
number, maps a forest to a forest of the same shape.  Whatever is looked up by
numbers, and whatever is looked up by something that the change does not touch,
is found in the same place afterwards:

    (d.map g).byId? id = (d.byId? id).map g

and so for the parent of an element, for what lies below it, and for what a
selector finds.  Changing a single element is the special case that every other
element is mapped to itself (`Document.update_eq_map`).
-/
import Mathlib.Data.List.Find
import Passkey.Proofs.Browser.Numbering

namespace Passkey.Browser

/-! ### Forests -/

namespace Forest

variable {g g' : Element → Element} {f : Forest} {n : Nat}

/-- Changes every element and leaves it in its place. -/
def map (g : Element → Element) : Forest → Forest
  | empty => empty
  | tree e children rest => tree (g e) (children.map g) (rest.map g)

@[simp] theorem elements_map (g : Element → Element) (f : Forest) :
    (f.map g).elements = f.elements.map g := by
  induction f with
  | empty => rfl
  | tree e children rest ih₁ ih₂ => simp [map, elements, ih₁, ih₂]

theorem map_map (g g' : Element → Element) (f : Forest) :
    (f.map g).map g' = f.map (g' ∘ g) := by
  induction f with
  | empty => rfl
  | tree e children rest ih₁ ih₂ => simp [map, ih₁, ih₂]

theorem map_id (f : Forest) : f.map (fun e => e) = f := by
  induction f with
  | empty => rfl
  | tree e children rest ih₁ ih₂ => rw [map, ih₁, ih₂]

theorem map_congr (h : ∀ e ∈ f.elements, g e = g' e) : f.map g = f.map g' := by
  induction f with
  | empty => rfl
  | tree e children rest ih₁ ih₂ =>
    simp only [elements, List.mem_cons, List.mem_append] at h
    have hchildren := ih₁ fun x hx => h x (.inr (.inl hx))
    have hrest := ih₂ fun x hx => h x (.inr (.inr hx))
    rw [map, map, h e (.inl rfl), hchildren, hrest]

/-- Changing an element maps the others to themselves. -/
theorem update_eq_map (n : Nat) (change : Element → Element) (f : Forest) :
    f.update n change = f.map fun e => if e.number = n then change e else e := by
  induction f with
  | empty => rfl
  | tree e children rest ih₁ ih₂ => rw [update, map, ih₁, ih₂]

theorem below?_map (hg : ∀ e, (g e).number = e.number) (n : Nat) (f : Forest) :
    (f.map g).below? n = (f.below? n).map (·.map g) := by
  induction f with
  | empty => rfl
  | tree e children rest ih₁ ih₂ =>
    rw [map, below?, below?, hg e]
    split
    · rfl
    · rw [ih₁, ih₂]
      cases children.below? n <;> rfl

theorem path?_map (hg : ∀ e, (g e).number = e.number) (n : Nat) (f : Forest) :
    (f.map g).path? n = (f.path? n).map (·.map g) := by
  induction f with
  | empty => rfl
  | tree e children rest ih₁ ih₂ =>
    rw [map, path?, path?, hg e]
    split
    · rfl
    · rw [ih₁, ih₂]
      cases children.path? n <;> simp

/-- A selector that sees no difference finds the same places. -/
theorem select_map {test : List Element → Element → Bool}
    (h : ∀ above e, test (above.map g) (g e) = test above e) (above : List Element) (f : Forest) :
    (f.map g).select test (above.map g) = (f.select test above).map g := by
  induction f generalizing above with
  | empty => rfl
  | tree e children rest ih₁ ih₂ =>
    have hchildren := ih₁ (e :: above)
    rw [List.map_cons] at hchildren
    rw [map, select, select, h, hchildren, ih₂]
    split <;> simp

end Forest

/-! ### Documents -/

namespace Document

variable {d : Document} {g g' : Element → Element} {e : Element} {n : Nat}

/-- Changes every element, in the page and taken out, and leaves it in its place. -/
def map (g : Element → Element) (d : Document) : Document :=
  { d with tree := d.tree.map g, detached := d.detached.map g }

theorem map_map (g g' : Element → Element) (d : Document) :
    (d.map g).map g' = d.map (g' ∘ g) := by
  rw [map, map, map, Forest.map_map, Forest.map_map]

theorem map_id (d : Document) : d.map (fun e => e) = d := by
  rw [map, Forest.map_id, Forest.map_id]

theorem map_congr (h : ∀ e ∈ d.elements, g e = g' e) : d.map g = d.map g' := by
  have htree : d.tree.map g = d.tree.map g' :=
    Forest.map_congr fun e he => h e (List.mem_append_left _ he)
  have hdetached : d.detached.map g = d.detached.map g' :=
    Forest.map_congr fun e he => h e (List.mem_append_right _ he)
  rw [map, map, htree, hdetached]

theorem update_eq_map (n : Nat) (change : Element → Element) (d : Document) :
    d.update n change = d.map fun e => if e.number = n then change e else e := by
  rw [update, map, Forest.update_eq_map, Forest.update_eq_map]

@[simp] theorem elements_map (g : Element → Element) (d : Document) :
    (d.map g).elements = d.elements.map g := by
  simp [elements, map]

instance (d : Document) : Decidable d.WellNumbered :=
  decidable_of_iff ((d.elements.map (·.number)).Nodup ∧ ∀ e ∈ d.elements, e.number < d.next)
    ⟨fun h => ⟨h.1, h.2⟩, fun h => ⟨h.nodup, h.lt_next⟩⟩

theorem WellNumbered.map (h : d.WellNumbered) (hg : ∀ e, (g e).number = e.number) :
    (d.map g).WellNumbered := by
  have hnumbers : (d.elements.map g).map (·.number) = d.elements.map (·.number) := by
    simp [hg]
  refine ⟨?_, ?_⟩
  · rw [elements_map, hnumbers]
    exact h.nodup
  · intro e' he'
    rw [elements_map] at he'
    obtain ⟨e, he, rfl⟩ := List.mem_map.mp he'
    rw [hg]
    exact h.lt_next e he

theorem byId?_map (id : String)
    (hg : ∀ e ∈ d.tree.elements, (g e).attribute? "id" = e.attribute? "id") :
    (d.map g).byId? id = (d.byId? id).map g := by
  rw [byId?, byId?]
  split
  · rfl
  · rw [map, Forest.elements_map, List.find?_map]
    refine congrArg (·.map g) (List.find?_congr ?_)
    intro e he
    simp only [Function.comp_apply]
    rw [hg e he]

theorem byId?_congr {d' : Document} {id : String} (h : d'.tree = d.tree) :
    d'.byId? id = d.byId? id := by
  rw [byId?, byId?, h]

theorem id_of_byId? {id : String} (h : d.byId? id = some e) : e.attribute? "id" = some id := by
  rw [byId?] at h
  split at h
  · cases h
  · have hid := List.find?_some h
    exact eq_of_beq hid

theorem byId?_eq_none_iff {id : String} :
    d.byId? id = none ↔ id = "" ∨ ∀ e ∈ d.tree.elements, e.attribute? "id" ≠ some id := by
  rw [byId?]
  split
  · next h => exact iff_of_true rfl (.inl (String.isEmpty_iff.mp h))
  · next h =>
    rw [String.isEmpty_iff] at h
    rw [List.find?_eq_none, or_iff_right h]
    simp

/-- Elements that keep their ids, and no more of them, hold no new id. -/
theorem byId?_eq_none_of_subset {d' : Document} {f : Element → Element} {id : String}
    (hf : ∀ e, (f e).attribute? "id" = e.attribute? "id")
    (hsub : d'.tree.elements ⊆ d.tree.elements.map f) (h : d.byId? id = none) :
    d'.byId? id = none := by
  rw [byId?_eq_none_iff] at h ⊢
  refine h.imp_right fun h e' he' => ?_
  obtain ⟨e, he, rfl⟩ := List.mem_map.mp (hsub he')
  rw [hf]
  exact h e he

theorem path_map (hg : ∀ e, (g e).number = e.number) (n : Nat) (d : Document) :
    (d.map g).path n = ((d.path n).1.map g, (d.path n).2) := by
  rw [path, path, map, Forest.path?_map hg, Forest.path?_map hg]
  cases d.tree.path? n with
  | some es => rfl
  | none => cases d.detached.path? n <;> rfl

theorem parent?_map (hg : ∀ e, (g e).number = e.number) (n : Nat) (d : Document) :
    (d.map g).parent? n = (d.parent? n).map g := by
  rw [parent?, parent?, path_map hg, List.getElem?_map]

theorem below_map (hg : ∀ e, (g e).number = e.number) (n : Nat) (d : Document) :
    (d.map g).below n = (d.below n).map g := by
  rw [below, below, map, Forest.below?_map hg, Forest.below?_map hg]
  cases d.tree.below? n with
  | some f => rfl
  | none => cases d.detached.below? n <;> rfl

end Document

end Passkey.Browser
