/-
Passkey/Proofs/Browser/Veiling.lean

Hiding and showing.

Showing and hiding change one class of elements and leave them in their places:
such a change is a veiling (`IsVeiling`), and veilings compose.  Hiding the
errors is one, over the elements that bear their class, and so is hiding or
showing an element that is looked up by its id.  An operation on classes cannot
fail as long as the page is presentable, which every veiling keeps.
-/
import Passkey.Proofs.Browser.Classes
import Passkey.Proofs.Browser.Hook
import Passkey.Proofs.Browser.Mapping

namespace Passkey.Browser

/-! ### Messages of a page with the default settings -/

/-- Whether an element bears the class of errors. -/
def Element.isError (e : Element) : Bool :=
  e.classes.contains (Config.default.text .errorClass)

/-- Whether an element is hidden. -/
def Element.isHidden (e : Element) : Bool :=
  e.classes.contains (Config.default.text .hiddenClass)

namespace Document

/-- The instruction message. -/
def message? (d : Document) : Option Element :=
  d.byId? (Config.default.text .message)

/-- The generic area of errors. -/
def errorArea? (d : Document) : Option Element :=
  d.byId? (Config.default.text .errorArea)

/-- The part of the generic area that holds the text. -/
def errorMessage? (d : Document) : Option Element :=
  d.byId? (Config.default.text .errorMessage)

/-- What stands for the error with a key: the element whose id it is, or the generic area. -/
def shownFor? (d : Document) (key : String) : Option Element :=
  (d.byId? key).or d.errorArea?

/-- No two elements of the page have the id. -/
def Unique (d : Document) (id : String) : Prop :=
  ∀ e ∈ d.tree.elements, ∀ e' ∈ d.tree.elements,
    e.attribute? "id" = some id → e'.attribute? "id" = some id → e.number = e'.number

instance (d : Document) (id : String) : Decidable (d.Unique id) :=
  inferInstanceAs (Decidable (∀ e ∈ d.tree.elements, ∀ e' ∈ d.tree.elements, _))

/-- The generic area is one of the errors, and the instruction message is none. -/
structure Sorted (d : Document) : Prop where
  area : ∀ e ∈ d.errorArea?, e.isError = true
  message : ∀ e ∈ d.message?, e.isError = false

/-- A page whose generic area is one of the errors and whose instruction message is none.  A text
in the generic area takes away what lay there, so another element would then be the first with an
id: the generic area and the message do not share theirs.  Classes can be changed on all
elements. -/
structure Presentable (d : Document) : Prop where
  numbered : d.WellNumbered
  classLists : ∀ e ∈ d.elements, .classList ∉ e.faults
  sorted : d.Sorted
  area : d.Unique (Config.default.text .errorArea)
  message : d.Unique (Config.default.text .message)

end Document

/-! ### Hiding and showing -/

/-- The element after an operation, or as it was if the operation throws. -/
def Element.after (operation : Element → Except ScriptValue Element) (e : Element) : Element :=
  match operation e with
  | .ok e' => e'
  | .error _ => e

/-- The operation that hides an element, or shows it. -/
def veil (hidden : Bool) (e : Element) : Except ScriptValue Element :=
  if hidden then e.addClass (Config.default.text .hiddenClass)
  else e.removeClass (Config.default.text .hiddenClass)

/-- Elements are hidden or shown, and nothing else becomes of them. -/
structure IsVeiling (g : Element → Element) : Prop where
  reclassed : ∀ e, Element.Reclassed e (g e)
  isError : ∀ e, (g e).isError = e.isError

section Veil

variable {g g' : Element → Element} {e e' : Element} {hidden : Bool} {d : Document} {n : Nat}

theorem isVeiling_id : IsVeiling fun e => e :=
  ⟨fun _ => ⟨rfl, rfl, rfl, rfl, fun _ _ => rfl⟩, fun _ => rfl⟩

theorem IsVeiling.comp (hg : IsVeiling g) (hg' : IsVeiling g') : IsVeiling (g' ∘ g) := by
  refine ⟨fun e => ?_, fun e => (hg'.isError _).trans (hg.isError e)⟩
  have h := hg.reclassed e
  have h' := hg'.reclassed (g e)
  exact ⟨h'.number.trans h.number, h'.tag.trans h.tag, h'.ownText.trans h.ownText,
    h'.faults.trans h.faults,
    fun other ho => (h'.attribute? other ho).trans (h.attribute? other ho)⟩

theorem reclassed_of_veil (h : veil hidden e = .ok e') : Element.Reclassed e e' := by
  cases hidden
  · exact Element.reclassed_of_removeClass h
  · exact Element.reclassed_of_addClass h

theorem isError_of_veil (h : veil hidden e = .ok e') : e'.isError = e.isError := by
  have hne : Config.default.text .errorClass ≠ Config.default.text .hiddenClass := by decide
  rw [Element.isError, Element.isError, Bool.eq_iff_iff, List.contains_iff_mem,
    List.contains_iff_mem]
  cases hidden
  · rw [Element.mem_classes_of_removeClass h]
    exact and_iff_right hne
  · rw [Element.mem_classes_of_addClass h]
    exact or_iff_right hne

theorem isHidden_of_veil (h : veil hidden e = .ok e') : e'.isHidden = hidden := by
  rw [Element.isHidden, Bool.eq_iff_iff, List.contains_iff_mem]
  cases hidden
  · rw [Element.mem_classes_of_removeClass h]
    simp
  · rw [Element.mem_classes_of_addClass h]
    simp

theorem exists_veil_eq_ok (h : .classList ∉ e.faults) (hidden : Bool) :
    ∃ e', veil hidden e = .ok e' := by
  have htoken : Element.IsToken (Config.default.text .hiddenClass) := by decide
  cases hidden
  · exact ⟨_, Element.changeClass_eq_ok_iff.mpr ⟨h, htoken, rfl⟩⟩
  · exact ⟨_, Element.changeClass_eq_ok_iff.mpr ⟨h, htoken, rfl⟩⟩

/-- Hiding or showing elements of a choice. -/
theorem isVeiling_veil (hidden : Bool) (p : Element → Prop) [DecidablePred p] :
    IsVeiling fun e => if p e then e.after (veil hidden) else e := by
  refine ⟨fun e => ?_, fun e => ?_⟩
  · split
    · rw [Element.after]
      split
      · next h => exact reclassed_of_veil h
      · exact isVeiling_id.reclassed e
    · exact isVeiling_id.reclassed e
  · split
    · rw [Element.after]
      split
      · next h => exact isError_of_veil h
      · rfl
    · rfl

theorem isHidden_after_veil (h : .classList ∉ e.faults) (hidden : Bool) :
    (e.after (veil hidden)).isHidden = hidden := by
  obtain ⟨e', he'⟩ := exists_veil_eq_ok h hidden
  rw [Element.after, he']
  exact isHidden_of_veil he'

theorem IsVeiling.id_eq (hg : IsVeiling g) (e : Element) :
    (g e).attribute? "id" = e.attribute? "id" :=
  (hg.reclassed e).attribute? "id" (by decide)

theorem IsVeiling.number_eq (hg : IsVeiling g) (e : Element) : (g e).number = e.number :=
  (hg.reclassed e).number

theorem IsVeiling.byId? (hg : IsVeiling g) (d : Document) (id : String) :
    (d.map g).byId? id = (d.byId? id).map g :=
  Document.byId?_map _ fun e _ => hg.id_eq e

/-- What is found afterwards is what became of what was found before. -/
theorem IsVeiling.exists_of_byId? (hg : IsVeiling g) {id : String}
    (h : (d.map g).byId? id = some e') : ∃ e, d.byId? id = some e ∧ g e = e' := by
  rw [hg.byId?] at h
  exact Option.map_eq_some_iff.mp h

theorem IsVeiling.textOf (hg : IsVeiling g) (d : Document) (e : Element) :
    (d.map g).textOf (g e) = d.textOf e := by
  have htext (f : Forest) : (f.map g).text = f.text := by
    induction f with
    | empty => rfl
    | tree e children rest ih₁ ih₂ =>
      rw [Forest.map, Forest.text, Forest.text, ih₁, ih₂, (hg.reclassed e).ownText]
  rw [Document.textOf, Document.textOf, hg.number_eq, Document.below_map hg.number_eq, htext,
    (hg.reclassed e).ownText]

/-- An id that no other element has leads to the element. -/
theorem Document.Unique.byId? {id : String} (h : d.Unique id) (hd : d.WellNumbered)
    (hne : id ≠ "") (he : e ∈ d.tree.elements) (hid : e.attribute? "id" = some id) :
    d.byId? id = some e := by
  cases hfound : d.byId? id with
  | none =>
    exact absurd hid ((byId?_eq_none_iff.mp hfound).resolve_left hne e he)
  | some x =>
    have hx := mem_of_byId? hfound
    have hnumber := h x hx e he (id_of_byId? hfound) hid
    have hsame := List.inj_on_of_nodup_map hd.nodup (List.mem_append_left _ hx)
      (List.mem_append_left _ he) hnumber
    rw [hsame]

/-- **A page stays presentable** when elements leave it and others keep number, id and the class of
errors. -/
theorem Document.Presentable.of_subset {d' : Document} (h : d.Presentable)
    (hnumber : ∀ e, (g e).number = e.number)
    (hid : ∀ e, (g e).attribute? "id" = e.attribute? "id")
    (herror : ∀ e, (g e).isError = e.isError) (hnumbered : d'.WellNumbered)
    (hclassLists : ∀ e ∈ d'.elements, .classList ∉ e.faults)
    (htree : d'.tree.elements ⊆ d.tree.elements.map g) : d'.Presentable := by
  have hunique {id : String} (hd : d.Unique id) : d'.Unique id := by
    intro e he e' he' hide hide'
    obtain ⟨x, hx, rfl⟩ := List.mem_map.mp (htree he)
    obtain ⟨x', hx', rfl⟩ := List.mem_map.mp (htree he')
    rw [hnumber, hnumber]
    exact hd x hx x' hx' ((hid x).symm.trans hide) ((hid x').symm.trans hide')
  -- an element that is found now was found before
  have hfound {id : String} {e' : Element} (hd : d.Unique id) (hne : id ≠ "")
      (he' : d'.byId? id = some e') : ∃ e ∈ d.byId? id, e'.isError = e.isError := by
    obtain ⟨e, he, rfl⟩ := List.mem_map.mp (htree (mem_of_byId? he'))
    have hide := (hid e).symm.trans (id_of_byId? he')
    exact ⟨e, hd.byId? h.numbered hne he hide, herror e⟩
  refine ⟨hnumbered, hclassLists, ⟨?_, ?_⟩, hunique h.area, hunique h.message⟩
  · intro e' he'
    obtain ⟨e, he, hsame⟩ := hfound h.area (by decide) he'
    exact hsame.trans (h.sorted.area e he)
  · intro e' he'
    obtain ⟨e, he, hsame⟩ := hfound h.message (by decide) he'
    exact hsame.trans (h.sorted.message e he)

/-- **Hiding and showing keeps a page presentable.** -/
theorem Document.Presentable.map (h : d.Presentable) (hg : IsVeiling g) :
    (d.map g).Presentable := by
  refine h.of_subset hg.number_eq hg.id_eq hg.isError (h.numbered.map hg.number_eq) ?_ ?_
  · intro e' he'
    rw [Document.elements_map] at he'
    obtain ⟨e, he, rfl⟩ := List.mem_map.mp he'
    rw [(hg.reclassed e).faults]
    exact h.classLists e he
  · rw [Document.map, Forest.elements_map]
    exact List.Subset.refl _

end Veil

/-! ### What the actions do to the document -/

section Actions

variable {b : Browser} {e e' : Element}

/-- Doing something to an element changes that one, if nothing is thrown. -/
theorem document_change (operation : Element → Except ScriptValue Element)
    (h : b.document.WellNumbered) (he : e ∈ b.document.elements)
    (ho : ∀ e', operation e = .ok e' → e'.number = e.number) :
    ((change e.number operation).run b).2.document
      = b.document.map fun x => if x.number = e.number then x.after operation else x := by
  -- the number belongs to one element only
  have hput (e' : Element) (x : Element) (hx : x ∈ b.document.elements) :
      (if x.number = e.number then e' else x) = if x = e then e' else x := by
    refine if_congr ⟨?_, congrArg _⟩ rfl rfl
    exact List.inj_on_of_nodup_map h.nodup hx he
  have hmap : (b.document.map fun x => if x.number = e.number then x.after operation else x)
      = b.document.map fun x => if x.number = e.number then e.after operation else x := by
    refine Document.map_congr fun x hx => ?_
    rw [hput _ x hx, hput _ x hx]
    split
    · next hxe => rw [hxe]
    · rfl
  rw [hmap]
  show (change e.number operation b).2.document = _
  rw [change, Document.element?_number h he, Element.after]
  dsimp only
  rcases hop : operation e with v | e'
  · refine (Document.map_id b.document).symm.trans (Document.map_congr fun x hx => ?_)
    rw [hput _ x hx]
    split
    · next hxe => exact hxe
    · rfl
  · show b.document.put e' = _
    rw [Document.put, Document.update_eq_map, ho e' hop]

/-- Hiding or showing an element. -/
theorem document_setHidden (h : b.document.WellNumbered) (he : e ∈ b.document.elements)
    (hidden : Bool) :
    ((setHidden Config.default hidden e.number).run b).2.document
      = b.document.map fun x => if x.number = e.number then x.after (veil hidden) else x := by
  have hchanged := document_change (veil hidden) h he fun e' he' =>
    (reclassed_of_veil he').number
  rw [← hchanged, setHidden, StateT.run_bind]
  have hveil : (fun e : Element => if hidden then e.addClass (Config.default.text .hiddenClass)
      else e.removeClass (Config.default.text .hiddenClass)) = veil hidden := rfl
  rw [hveil]
  generalize (change e.number (veil hidden)).run b = changed
  obtain ⟨thrown, b'⟩ := changed
  cases thrown with
  | none => rfl
  | some v => exact document_log _ _ _ _ _

/-- Hiding or showing an element does that, and spares the others. -/
theorem exists_setHidden (h : b.document.Presentable) (he : e ∈ b.document.elements)
    (hidden : Bool) :
    ∃ g, IsVeiling g ∧
      ((setHidden Config.default hidden e.number).run b).2.document = b.document.map g ∧
      (g e).isHidden = hidden ∧ ∀ x ∈ b.document.elements, x ≠ e → g x = x := by
  refine ⟨_, isVeiling_veil hidden (·.number = e.number), document_setHidden h.numbered he hidden,
    ?_, ?_⟩
  · show (if e.number = e.number then e.after (veil hidden) else e).isHidden = hidden
    rw [if_pos rfl]
    exact isHidden_after_veil (h.classLists e he) hidden
  · intro x hx hne
    refine if_neg fun hn => hne ?_
    exact List.inj_on_of_nodup_map h.numbered.nodup hx he hn

/-- **Hiding several elements**, one after the other, hides those. -/
theorem exists_hideAll {es : List Element} (h : b.document.Presentable)
    (hes : ∀ e ∈ es, ∃ x ∈ b.document.elements, x.number = e.number) :
    ∃ g, IsVeiling g ∧
      ((es.forM fun e => setHidden Config.default true e.number).run b).2.document
        = b.document.map g ∧
      (∀ x ∈ b.document.elements, x.number ∈ es.map (·.number) → (g x).isHidden = true) ∧
      ∀ x ∈ b.document.elements, x.number ∉ es.map (·.number) → g x = x := by
  induction es generalizing b with
  | nil => exact ⟨_, isVeiling_id, (Document.map_id _).symm, nofun, fun _ _ _ => rfl⟩
  | cons e rest ih =>
    obtain ⟨x₀, hx₀, hnumber⟩ := hes e List.mem_cons_self
    obtain ⟨g₁, hg₁, hdoc₁, hhidden₁, hspared₁⟩ := exists_setHidden h hx₀ true
    rw [hnumber] at hdoc₁
    -- the others are in the page that this leaves behind, under the same numbers
    have hpresentable := h.map hg₁
    have hfound : ∀ e' ∈ rest, ∃ x ∈ (b.document.map g₁).elements, x.number = e'.number := by
      intro e' he'
      obtain ⟨x, hx, hn⟩ := hes e' (List.mem_cons_of_mem e he')
      refine ⟨g₁ x, ?_, (hg₁.number_eq x).trans hn⟩
      rw [Document.elements_map]
      exact List.mem_map_of_mem hx
    rw [← hdoc₁] at hpresentable hfound
    obtain ⟨g₂, hg₂, hdoc₂, hhidden₂, hspared₂⟩ := ih hpresentable hfound
    rw [hdoc₁, Document.elements_map] at hhidden₂ hspared₂
    refine ⟨g₂ ∘ g₁, hg₁.comp hg₂, ?_, ?_, ?_⟩
    · rw [hdoc₁, Document.map_map] at hdoc₂
      exact hdoc₂
    · intro x hx hn
      have hx₁ : g₁ x ∈ b.document.elements.map g₁ := List.mem_map_of_mem hx
      by_cases hrest : x.number ∈ rest.map (·.number)
      · exact hhidden₂ (g₁ x) hx₁ ((hg₁.number_eq x).symm ▸ hrest)
      · -- it is hidden first, and spared later
        rw [List.map_cons, List.mem_cons, or_iff_left hrest] at hn
        have hsame : x = x₀ :=
          List.inj_on_of_nodup_map h.numbered.nodup hx hx₀ (hn.trans hnumber.symm)
        rw [Function.comp_apply, hspared₂ (g₁ x) hx₁ ((hg₁.number_eq x).symm ▸ hrest), hsame]
        exact hhidden₁
    · intro x hx hn
      rw [List.map_cons, List.mem_cons, not_or] at hn
      have hne : x ≠ x₀ := fun hsame => hn.1 (hsame ▸ hnumber)
      have hx₁ : g₁ x ∈ b.document.elements.map g₁ := List.mem_map_of_mem hx
      rw [Function.comp_apply, hspared₂ (g₁ x) hx₁ ((hg₁.number_eq x).symm ▸ hn.2),
        hspared₁ x hx hne]

theorem read?_errorSelector :
    Selector.read? (errorSelector Config.default)
      = some (ofClass (Config.default.text .errorClass)) := by
  decide +kernel

/-- **Hiding the errors hides everything in the page that bears their class**, and spares
everything that does not. -/
theorem exists_hideErrors (h : b.document.Presentable) :
    ∃ g, IsVeiling g ∧
      ((hideErrors Config.default).run b).2.document = b.document.map g ∧
      (∀ e ∈ b.document.tree.elements, e.isError = true → (g e).isHidden = true) ∧
      ∀ e ∈ b.document.elements, e.isError = false → g e = e := by
  have hselected : b.document.select (ofClass (Config.default.text .errorClass))
      = b.document.tree.elements.filter (·.isError) := Document.select_ofClass _ _
  have hmem {e : Element} (he : e ∈ b.document.tree.elements.filter (·.isError)) :
      e ∈ b.document.elements := List.mem_append_left _ (List.mem_of_mem_filter he)
  obtain ⟨g, hg, hdoc, hhidden, hspared⟩ :=
    exists_hideAll h fun e he => ⟨e, hmem he, rfl⟩
  refine ⟨g, hg, ?_, ?_, ?_⟩
  · rw [← hdoc, hideErrors, read?_errorSelector, ← hselected]
    rfl
  · intro e he herror
    refine hhidden e (List.mem_append_left _ he) (List.mem_map_of_mem ?_)
    exact List.mem_filter.mpr ⟨he, herror⟩
  · intro e he herror
    refine hspared e he fun hn => ?_
    obtain ⟨x, hx, hnumber⟩ := List.mem_map.mp hn
    have hsame : x = e := List.inj_on_of_nodup_map h.numbered.nodup (hmem hx) he hnumber
    rw [← hsame, (List.mem_filter.mp hx).2] at herror
    cases herror

/-- Hiding or showing the element that a setting names, and doing nothing to the document if there
is none. -/
theorem exists_setNamedHidden (otherwise : StateM Browser Unit) (h : b.document.Presentable)
    (setting : TextSetting) (hidden : Bool)
    (hotherwise : ∀ b, (otherwise.run b).2.document = b.document) :
    ∃ g, IsVeiling g ∧
      ((named? Config.default setting >>= fun found =>
          found.elim otherwise fun e => setHidden Config.default hidden e.number).run b).2.document
        = b.document.map g ∧
      (∀ e ∈ b.document.byId? (Config.default.text setting), (g e).isHidden = hidden) ∧
      ∀ e ∈ b.document.elements,
        b.document.byId? (Config.default.text setting) ≠ some e → g e = e := by
  obtain ⟨hfound, hdocument⟩ := run_named? Config.default setting b
  rw [StateT.run_bind]
  generalize (named? Config.default setting).run b = named at hfound hdocument ⊢
  obtain ⟨found, b'⟩ := named
  dsimp only at hfound hdocument
  rw [← hdocument] at h hfound ⊢
  rw [← hfound]
  cases found with
  | none =>
    exact ⟨_, isVeiling_id, (hotherwise b').trans (Document.map_id _).symm, nofun,
      fun _ _ _ => rfl⟩
  | some m =>
    have hm : m ∈ b'.document.elements := List.mem_append_left _ (mem_of_byId? hfound.symm)
    obtain ⟨g, hg, hdoc, hhidden, hspared⟩ := exists_setHidden h hm hidden
    refine ⟨g, hg, hdoc, ?_, ?_⟩
    · intro m' hm'
      cases hm'
      exact hhidden
    · intro e he hne
      exact hspared e he fun hsame => hne (congrArg some hsame.symm)

theorem setMessageHidden_eq (config : Config) (hidden : Bool) :
    setMessageHidden config hidden = named? config .message >>= fun found =>
      found.elim (pure ()) fun e => setHidden config hidden e.number := by
  refine bind_congr fun found => ?_
  cases found <;> rfl

theorem showGenericError_eq (config : Config) (text : String) :
    showGenericError config text = (do
      named? config .errorMessage >>= fun found => found.elim (pure ()) fun e =>
        modify fun b => { b with document := b.document.setText e.number text }
      named? config .errorArea >>= fun found =>
        found.elim (log .document .warn ("No error area to show the message in " ++ text) [])
          fun e => setHidden config false e.number) := by
  rw [bind_assoc]
  refine bind_congr fun found => ?_
  cases found with
  | none =>
    rw [Option.elim_none, pure_bind]
    refine bind_congr fun area => ?_
    cases area <;> rfl
  | some e =>
    refine bind_congr fun _ => bind_congr fun area => ?_
    cases area <;> rfl

/-- Every error of a page is hidden, the instruction message is hidden or shown, and everything
else is spared. -/
structure Document.IsSweep (d : Document) (hidden : Bool) (g : Element → Element) : Prop where
  veiling : IsVeiling g
  errors : ∀ e ∈ d.tree.elements, e.isError = true → (g e).isHidden = true
  message : ∀ e ∈ d.message?, (g e).isHidden = hidden
  others : ∀ e ∈ d.elements, e.isError = false → d.message? ≠ some e → g e = e

/-- What is found after a veiling was found before, at the same place. -/
theorem IsVeiling.of_byId? {g : Element → Element} {d : Document} {id : String} (hg : IsVeiling g)
    (h : d.WellNumbered) (he : e ∈ d.elements) (hfound : (d.map g).byId? id = some (g e)) :
    d.byId? id = some e := by
  obtain ⟨x, hx, heq⟩ := hg.exists_of_byId? hfound
  have hnumber : x.number = e.number := by
    rw [← hg.number_eq x, heq, hg.number_eq e]
  have hmember : x ∈ d.elements := List.mem_append_left _ (mem_of_byId? hx)
  exact List.inj_on_of_nodup_map h.nodup hmember he hnumber ▸ hx

/-- **Hiding what was shown** hides every error, and hides or shows the instruction message. -/
theorem exists_sweep (h : b.document.Presentable) (hidden : Bool) :
    ∃ g, b.document.IsSweep hidden g ∧
      ((do hideErrors Config.default; setMessageHidden Config.default hidden).run b).2.document
        = b.document.map g := by
  obtain ⟨g₁, hg₁, hdoc₁, herrors, hspared₁⟩ := exists_hideErrors h
  have h₁ := h.map hg₁
  rw [← hdoc₁] at h₁
  obtain ⟨g₂, hg₂, hdoc₂, hshown, hspared₂⟩ :=
    exists_setNamedHidden (pure ()) h₁ .message hidden fun _ => rfl
  rw [← setMessageHidden_eq, hdoc₁, Document.map_map] at hdoc₂
  rw [hdoc₁] at h₁ hshown hspared₂
  have hmem {e : Element} (he : e ∈ b.document.elements) :
      g₁ e ∈ (b.document.map g₁).elements := by
    rw [Document.elements_map]
    exact List.mem_map_of_mem he
  refine ⟨g₂ ∘ g₁, ⟨hg₁.comp hg₂, ?_, ?_, ?_⟩, hdoc₂⟩
  · intro e he herror
    rw [Function.comp_apply, hspared₂ (g₁ e) (hmem (List.mem_append_left _ he))]
    · exact herrors e he herror
    · -- an error is not the instruction message
      intro hm
      have hno := h₁.sorted.message (g₁ e) hm
      rw [hg₁.isError, herror] at hno
      cases hno
  · intro m hm
    refine hshown (g₁ m) ?_
    rw [hg₁.byId?]
    exact congrArg (Option.map g₁) hm
  · intro e he herror hne
    rw [Function.comp_apply, hspared₂ (g₁ e) (hmem he)]
    · exact hspared₁ e he herror
    · exact fun hm => hne (hg₁.of_byId? h.numbered he hm)

end Actions

end Passkey.Browser
