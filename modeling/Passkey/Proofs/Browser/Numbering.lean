/-
Passkey/Proofs/Browser/Numbering.lean

What changes of a document keep.

Elements may be added, taken out, moved and put back, but a number is given
once and stays with its element.  A change of the document is an edit if no
element loses the mark of having been claimed; elements that came later may
bear it or not.  Every operation on documents is an edit, because it only
rearranges the elements, gives fresh numbers to new ones, or changes what is
no mark.
-/
import Mathlib.Data.List.Nodup
import Passkey.Browser.Page

namespace Passkey.Browser

/-! ### The elements of a forest -/

namespace Forest

variable {e : Element} {f trees : Forest} {n next : Nat}

/-- The numbers of the elements. -/
def numbers (f : Forest) : List Nat :=
  f.elements.map (·.number)

theorem regroup (a b c d : List Element) : ((a ++ b) ++ (c ++ d)).Perm ((a ++ c) ++ (b ++ d)) := by
  rw [List.append_assoc, List.append_assoc, ← List.append_assoc b, ← List.append_assoc c]
  exact (List.perm_append_comm.append_right d).append_left a

/-- Taking a tree out only rearranges the elements. -/
theorem elements_extract (n : Nat) (f : Forest) :
    ((f.extract n).1.elements ++ (f.extract n).2.elements).Perm f.elements := by
  induction f with
  | empty => exact .refl _
  | tree e children rest ih₁ ih₂ =>
    rw [extract]
    split
    · show (rest.elements ++ (e :: (children.elements ++ []))).Perm (e :: (_ ++ _))
      rw [List.append_nil]
      exact List.perm_append_comm
    · show ((e :: (_ ++ _)) ++ (append _ _).elements).Perm (e :: (_ ++ _))
      rw [elements_append]
      exact .cons e ((regroup _ _ _ _).trans (ih₁.append ih₂))

/-- Taking the children of an element out only rearranges the elements. -/
theorem elements_vacate (n : Nat) (f : Forest) :
    ((f.vacate n).1.elements ++ (f.vacate n).2.elements).Perm f.elements := by
  induction f with
  | empty => exact .refl _
  | tree e children rest ih₁ ih₂ =>
    rw [vacate]
    split
    · show ((e :: ([] ++ rest.elements)) ++ children.elements).Perm (e :: (_ ++ _))
      exact .cons e List.perm_append_comm
    · show ((e :: (_ ++ _)) ++ (append _ _).elements).Perm (e :: (_ ++ _))
      rw [elements_append]
      exact .cons e ((regroup _ _ _ _).trans (ih₁.append ih₂))

/-- Trees that an element does not get change nothing. -/
theorem adopt_of_not_mem (h : n ∉ f.numbers) : adopt n trees f = f := by
  induction f with
  | empty => rfl
  | tree e children rest ih₁ ih₂ =>
    rw [numbers, elements, List.map_cons, List.map_append, List.mem_cons, List.mem_append,
      not_or, not_or] at h
    rw [adopt, if_neg (Ne.symm h.1), ih₁ h.2.1, ih₂ h.2.2]

/-- The trees that an element gets come to the elements once. -/
theorem elements_adopt (hnodup : f.numbers.Nodup) (h : n ∈ f.numbers) :
    (adopt n trees f).elements.Perm (f.elements ++ trees.elements) := by
  induction f with
  | empty => cases h
  | tree e children rest ih₁ ih₂ =>
    rw [numbers, elements, List.map_cons, List.map_append] at h hnodup
    obtain ⟨-, hnodup⟩ := List.nodup_cons.mp hnodup
    obtain ⟨hchildren, hrest, hdisjoint⟩ := List.nodup_append.mp hnodup
    rw [adopt]
    split
    · rw [elements, elements, elements_append, List.cons_append]
      refine .cons e ?_
      rw [List.append_assoc, List.append_assoc]
      exact List.perm_append_comm.append_left _
    · next hne =>
      rw [elements, elements, List.cons_append]
      refine .cons e ?_
      rcases List.mem_append.mp (List.mem_of_ne_of_mem (Ne.symm hne) h) with h | h
      · have hnot : n ∉ rest.numbers := fun h' => hdisjoint n h n h' rfl
        rw [adopt_of_not_mem hnot]
        refine ((ih₁ hchildren h).append_right _).trans ?_
        rw [List.append_assoc, List.append_assoc]
        exact List.perm_append_comm.append_left _
      · have hnot : n ∉ children.numbers := fun h' => hdisjoint n h' n h rfl
        rw [adopt_of_not_mem hnot, List.append_assoc]
        exact (ih₂ hrest h).append_left _

/-- Numbering gives the numbers from the next one on. -/
theorem numbers_numbered (next : Nat) (f : Forest) :
    (f.numbered next).1.numbers = List.range' next f.elements.length ∧
      (f.numbered next).2 = next + f.elements.length := by
  induction f generalizing next with
  | empty => exact ⟨rfl, rfl⟩
  | tree e children rest ih₁ ih₂ =>
    obtain ⟨hchildren, hafter⟩ := ih₁ (next + 1)
    obtain ⟨hrest, hlast⟩ := ih₂ (children.numbered (next + 1)).2
    rw [hafter] at hrest hlast
    rw [numbered, numbers, elements, elements, List.map_cons, List.map_append]
    constructor
    · show next :: (numbers _ ++ numbers _) = _
      rw [hchildren, hafter, hrest, List.length_cons, List.length_append, List.range'_succ,
        List.range'_append_1]
    · show (rest.numbered _).2 = _
      rw [hafter, hlast, List.length_cons, List.length_append]
      omega

/-- New elements have fresh numbers, each of its own. -/
theorem fresh_numbered (next : Nat) (f : Forest) :
    (f.numbered next).1.numbers.Nodup ∧
      ∀ e ∈ (f.numbered next).1.elements, next ≤ e.number ∧ e.number < (f.numbered next).2 := by
  obtain ⟨hnumbers, hlast⟩ := numbers_numbered next f
  refine ⟨hnumbers ▸ List.nodup_range', ?_⟩
  intro e he
  have hmem : e.number ∈ (f.numbered next).1.numbers := List.mem_map_of_mem he
  rw [hnumbers, List.mem_range'_1] at hmem
  rw [hlast]
  exact hmem

end Forest

/-! ### Edits -/

namespace Document

variable {d d' d'' : Document} {e : Element} {n : Nat}

/-- No number is given twice, and the next one is free. -/
structure WellNumbered (d : Document) : Prop where
  nodup : (d.elements.map (·.number)).Nodup
  lt_next : ∀ e ∈ d.elements, e.number < d.next

/-- A change of a document in which no element loses its mark. -/
structure Edit (d d' : Document) : Prop where
  wellNumbered : d'.WellNumbered
  next_le : d.next ≤ d'.next
  marked : ∀ e' ∈ d'.elements, e'.number < d.next →
    ∃ e ∈ d.elements, e.number = e'.number ∧ (e.isClaimed = true → e'.isClaimed = true)

/-- The number was given, and whatever bears it bears the mark. -/
def Marked (d : Document) (n : Nat) : Prop :=
  n < d.next ∧ ∀ e ∈ d.elements, e.number = n → e.isClaimed = true

theorem Edit.refl (h : d.WellNumbered) : d.Edit d :=
  ⟨h, Nat.le_refl _, fun e he _ => ⟨e, he, rfl, id⟩⟩

theorem Edit.trans (h : d.Edit d') (h' : d'.Edit d'') : d.Edit d'' := by
  refine ⟨h'.wellNumbered, Nat.le_trans h.next_le h'.next_le, ?_⟩
  intro e'' he'' hlt
  obtain ⟨e', he', hn', hm'⟩ := h'.marked e'' he'' (Nat.lt_of_lt_of_le hlt h.next_le)
  obtain ⟨e, he, hn, hm⟩ := h.marked e' he' (hn' ▸ hlt)
  exact ⟨e, he, hn.trans hn', fun h => hm' (hm h)⟩

/-- **What is marked stays marked**, wherever it goes. -/
theorem Edit.marked_of (h : d.Edit d') (hn : d.Marked n) : d'.Marked n := by
  refine ⟨Nat.lt_of_lt_of_le hn.1 h.next_le, ?_⟩
  rintro e' he' rfl
  obtain ⟨e, he, hnum, hm⟩ := h.marked e' he' hn.1
  exact hm (hn.2 e he hnum)

/-- Rearranging the elements and adding fresh ones is an edit. -/
theorem edit_of_perm (h : d.WellNumbered) {es : List Element}
    (hp : d'.elements.Perm (d.elements ++ es)) (hnodup : (es.map (·.number)).Nodup)
    (hes : ∀ e ∈ es, d.next ≤ e.number ∧ e.number < d'.next) (hle : d.next ≤ d'.next) :
    d.Edit d' := by
  refine ⟨⟨?_, ?_⟩, hle, ?_⟩
  · rw [(hp.map _).nodup_iff, List.map_append, List.nodup_append]
    refine ⟨h.nodup, hnodup, ?_⟩
    intro a ha b hb hab
    obtain ⟨e, he, rfl⟩ := List.mem_map.mp ha
    obtain ⟨e', he', rfl⟩ := List.mem_map.mp hb
    have hlt := h.lt_next e he
    have hge := (hes e' he').1
    omega
  · intro e he
    rcases List.mem_append.mp (hp.mem_iff.mp he) with he | he
    · exact Nat.lt_of_lt_of_le (h.lt_next e he) hle
    · exact (hes e he).2
  · intro e he hlt
    rcases List.mem_append.mp (hp.mem_iff.mp he) with he | he
    · exact ⟨e, he, rfl, id⟩
    · exact absurd hlt (Nat.not_lt.mpr (hes e he).1)

/-- Rearranging the elements, be it taking out, moving or putting back, is an edit. -/
theorem edit_of_rearranged (h : d.WellNumbered) (hp : d'.elements.Perm d.elements)
    (hn : d'.next = d.next) : d.Edit d' :=
  have hnil : ([].map fun e : Element => e.number).Nodup := List.nodup_nil
  edit_of_perm h ((List.append_nil d.elements).symm ▸ hp) hnil nofun (Nat.le_of_eq hn.symm)

theorem edit_remove (h : d.WellNumbered) (n : Nat) : d.Edit (d.remove n) := by
  refine edit_of_rearranged h ?_ rfl
  show (_ ++ (Forest.append _ (Forest.append _ _)).elements).Perm (_ ++ _)
  rw [Forest.elements_append, Forest.elements_append, ← List.append_assoc]
  exact (Forest.regroup _ _ _ _).trans
    ((Forest.elements_extract n d.tree).append (Forest.elements_extract n d.detached))

theorem elements_update (d : Document) (n : Nat) (change : Element → Element) :
    (d.update n change).elements
      = d.elements.map fun e => if e.number = n then change e else e := by
  rw [elements, elements, List.map_append, update, Forest.elements_update, Forest.elements_update]

/-- Changing an element, but not its number. -/
theorem wellNumbered_update (h : d.WellNumbered) {change : Element → Element}
    (hchange : ∀ e ∈ d.elements, e.number = n → (change e).number = n) :
    (d.update n change).WellNumbered := by
  have hnumber : ∀ e ∈ d.elements, (if e.number = n then change e else e).number = e.number := by
    intro e he
    split
    · next hn => rw [hchange e he hn, hn]
    · rfl
  refine ⟨?_, ?_⟩
  · rw [elements_update, List.map_map]
    exact (List.map_congr_left hnumber).symm ▸ h.nodup
  · intro e' he'
    rw [elements_update] at he'
    obtain ⟨e, he, rfl⟩ := List.mem_map.mp he'
    rw [hnumber e he]
    exact h.lt_next e he

/-- Changing an element, but neither its number nor its mark, is an edit. -/
theorem edit_update (h : d.WellNumbered) {change : Element → Element}
    (hchange : ∀ e ∈ d.elements, e.number = n →
      (change e).number = n ∧ (e.isClaimed = true → (change e).isClaimed = true)) :
    d.Edit (d.update n change) := by
  refine ⟨wellNumbered_update h fun e he hn => (hchange e he hn).1, Nat.le_refl _, ?_⟩
  intro e' he' _
  rw [elements_update] at he'
  obtain ⟨e, he, rfl⟩ := List.mem_map.mp he'
  refine ⟨e, he, ?_⟩
  split
  · next hn =>
    obtain ⟨hnumber, hmark⟩ := hchange e he hn
    exact ⟨hn.trans hnumber.symm, hmark⟩
  · exact ⟨rfl, id⟩

theorem edit_setText (h : d.WellNumbered) (n : Nat) (text : String) :
    d.Edit (d.setText n text) := by
  have hvacate : d.Edit ⟨(d.tree.vacate n).1,
      (d.detached.vacate n).1.append ((d.tree.vacate n).2.append (d.detached.vacate n).2),
      d.next⟩ := by
    refine edit_of_rearranged h ?_ rfl
    show (_ ++ (Forest.append _ (Forest.append _ _)).elements).Perm (_ ++ _)
    rw [Forest.elements_append, Forest.elements_append, ← List.append_assoc]
    exact (Forest.regroup _ _ _ _).trans
      ((Forest.elements_vacate n d.tree).append (Forest.elements_vacate n d.detached))
  exact hvacate.trans (edit_update hvacate.wellNumbered fun e _ hn => ⟨hn, id⟩)

theorem edit_insert (h : d.WellNumbered) (parent : Option Nat) (trees : Forest) :
    d.Edit (d.insert parent trees) := by
  obtain ⟨hnodup, hfresh⟩ := Forest.fresh_numbered d.next trees
  have hle : d.next ≤ (d.insert parent trees).next := by
    have hlast : d.next ≤ (trees.numbered d.next).2 := by
      rw [(Forest.numbers_numbered d.next trees).2]
      exact Nat.le_add_right _ _
    cases parent with
    | none => exact hlast
    | some n => exact hlast
  rcases parent with - | n
  · refine edit_of_perm h ?_ hnodup hfresh hle
    show ((Forest.append _ _).elements ++ _).Perm ((_ ++ _) ++ _)
    rw [Forest.elements_append, List.append_assoc, List.append_assoc]
    exact List.perm_append_comm.append_left _
  · obtain ⟨htree, hdetached, hdisjoint⟩ := List.nodup_append.mp
      (List.map_append ▸ h.nodup : ((d.tree.numbers) ++ d.detached.numbers).Nodup)
    by_cases hn : n ∈ d.tree.numbers
    · have hnot : n ∉ d.detached.numbers := fun h' => hdisjoint n hn n h' rfl
      refine edit_of_perm h ?_ hnodup hfresh hle
      show ((Forest.adopt _ _ _).elements ++ (Forest.adopt _ _ _).elements).Perm ((_ ++ _) ++ _)
      rw [Forest.adopt_of_not_mem hnot, List.append_assoc]
      refine ((Forest.elements_adopt htree hn).append_right _).trans ?_
      rw [List.append_assoc]
      exact List.perm_append_comm.append_left _
    · by_cases hn' : n ∈ d.detached.numbers
      · refine edit_of_perm h ?_ hnodup hfresh hle
        show ((Forest.adopt _ _ _).elements ++ (Forest.adopt _ _ _).elements).Perm ((_ ++ _) ++ _)
        rw [Forest.adopt_of_not_mem hn, List.append_assoc]
        exact (Forest.elements_adopt hdetached hn').append_left _
      · -- nobody gets the trees
        have hnil : ([].map fun e : Element => e.number).Nodup := List.nodup_nil
        refine edit_of_perm h ?_ hnil nofun hle
        show ((Forest.adopt _ _ _).elements ++ (Forest.adopt _ _ _).elements).Perm _
        rw [Forest.adopt_of_not_mem hn, Forest.adopt_of_not_mem hn', List.append_nil]
        rfl

theorem wellNumbered_ofTrees (trees : Forest) : (ofTrees trees).WellNumbered := by
  obtain ⟨hnodup, hfresh⟩ := Forest.fresh_numbered 0 trees
  have helements : (ofTrees trees).elements = (trees.numbered 0).1.elements := List.append_nil _
  refine ⟨helements ▸ hnodup, ?_⟩
  intro e he
  exact (hfresh e (helements ▸ he)).2

/-- An element is found by its number. -/
theorem element?_number (h : d.WellNumbered) (he : e ∈ d.elements) :
    d.element? e.number = some e := by
  have hfind : d.elements.find? (·.number == e.number) = some e := by
    rcases hf : d.elements.find? (·.number == e.number) with - | e'
    · rw [List.find?_eq_none] at hf
      exact absurd (beq_self_eq_true _) (hf e he)
    · have hnum : e'.number = e.number := by simpa using List.find?_some hf
      rw [hf, List.inj_on_of_nodup_map h.nodup (List.mem_of_find?_eq_some hf) he hnum]
  rwa [elements, List.find?_append] at hfind

theorem mem_of_element? (he : d.element? n = some e) : e ∈ d.elements ∧ e.number = n := by
  have hfind : d.elements.find? (·.number == n) = some e := by
    rw [elements, List.find?_append]
    exact he
  exact ⟨List.mem_of_find?_eq_some hfind, by simpa using List.find?_some hfind⟩

end Document

end Passkey.Browser
