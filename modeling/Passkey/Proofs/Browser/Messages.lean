/-
Passkey/Proofs/Browser/Messages.lean

Which messages a page shows.

An error is shown by its key.  First everything that bears the class of errors
is hidden, and the instruction message with it; then the element whose id is
the key is shown, or, if there is none, the generic area with the key as its
text.  Hiding goes by class and showing by id, so the two have to meet: as long
as the generic area is one of the errors and the instruction message is none,
no message is left over from an earlier error, whatever was shown before
(`one_error_shown`).  Both have to be alone with their ids: otherwise the text
of an error can put others in their places (`shared_ids_shown`).

The text of the generic area is the one change that does not leave the elements
in their places: it takes out what lay inside the element that gets it.
-/
import Passkey.Proofs.Browser.Veiling
import Passkey.Proofs.Browser.Wiring

namespace Passkey.Browser

/-! ### The text of an element -/

namespace Forest

variable {e : Element} {f : Forest}

theorem sublist_vacate (n : Nat) (f : Forest) : (f.vacate n).1.elements.Sublist f.elements := by
  induction f with
  | empty => exact .refl _
  | tree e children rest ih₁ ih₂ =>
    rw [vacate]
    split
    · exact (List.sublist_append_right children.elements rest.elements).cons_cons e
    · exact (ih₁.append ih₂).cons_cons e

/-- The element whose children are taken out stays. -/
theorem mem_vacate (h : f.numbers.Nodup) (he : e ∈ f.elements) :
    e ∈ (f.vacate e.number).1.elements := by
  induction f with
  | empty => cases he
  | tree root children rest ih₁ ih₂ =>
    have hinj := List.inj_on_of_nodup_map h
    rw [numbers, elements, List.map_cons, List.map_append] at h
    obtain ⟨hchildren, hrest, -⟩ := List.nodup_append.mp (List.nodup_cons.mp h).2
    rw [vacate]
    split
    · next hroot =>
      rw [hinj List.mem_cons_self he hroot]
      exact List.mem_cons_self
    · next hroot =>
      rcases List.mem_cons.mp he with rfl | he
      · exact absurd rfl hroot
      · refine List.mem_cons_of_mem root (List.mem_append.mpr ?_)
        rcases List.mem_append.mp he with he | he
        · exact .inl (ih₁ hchildren he)
        · exact .inr (ih₂ hrest he)

/-- Nothing is left below the element. -/
theorem below?_vacate (n : Nat) (f : Forest) :
    (f.vacate n).1.below? n = (f.below? n).map fun _ => empty := by
  induction f with
  | empty => rfl
  | tree e children rest ih₁ ih₂ =>
    rw [vacate, below?]
    split
    · next h => rw [below?, if_pos h, Option.map_some]
    · next h =>
      rw [below?, if_neg h, ih₁, ih₂]
      cases children.below? n <;> rfl

theorem exists_below?_eq_some (he : e ∈ f.elements) : ∃ below, f.below? e.number = some below := by
  induction f with
  | empty => cases he
  | tree root children rest ih₁ ih₂ =>
    rw [below?]
    split
    · exact ⟨children, rfl⟩
    · next hroot =>
      rcases List.mem_cons.mp he with rfl | he
      · exact absurd rfl hroot
      · rcases List.mem_append.mp he with he | he
        · obtain ⟨below, hbelow⟩ := ih₁ he
          exact ⟨below, by rw [hbelow, Option.some_or]⟩
        · obtain ⟨below, hbelow⟩ := ih₂ he
          cases children.below? e.number with
          | none => exact ⟨below, by rw [Option.none_or, hbelow]⟩
          | some below' => exact ⟨below', Option.some_or⟩

end Forest

section Text

variable {d : Document} {e m : Element} {n : Nat} {id text : String}

/-- The element with a text of its own, if it has the number. -/
def Element.withText (n : Nat) (text : String) (e : Element) : Element :=
  if e.number = n then { e with ownText := text } else e

/-- A text changes nothing else about an element. -/
theorem Element.reclassed_withText (n : Nat) (text : String) (e : Element) :
    (e.withText n text).number = e.number ∧ (e.withText n text).faults = e.faults ∧
      ∀ name, (e.withText n text).attribute? name = e.attribute? name := by
  rw [withText]
  split
  · exact ⟨rfl, rfl, fun _ => rfl⟩
  · exact ⟨rfl, rfl, fun _ => rfl⟩

theorem Element.number_withText (n : Nat) (text : String) (e : Element) :
    (e.withText n text).number = e.number :=
  (e.reclassed_withText n text).1

theorem Element.classes_withText (n : Nat) (text : String) (e : Element) :
    (e.withText n text).classes = e.classes := by
  rw [classes, (e.reclassed_withText n text).2.2, classes]

theorem Element.isError_withText (n : Nat) (text : String) (e : Element) :
    (e.withText n text).isError = e.isError := by
  rw [isError, e.classes_withText, isError]

theorem Element.isHidden_withText (n : Nat) (text : String) (e : Element) :
    (e.withText n text).isHidden = e.isHidden := by
  rw [isHidden, e.classes_withText, isHidden]

namespace Document

theorem tree_setText (d : Document) (n : Nat) (text : String) :
    (d.setText n text).tree = (d.tree.vacate n).1.map (·.withText n text) :=
  Forest.update_eq_map n _ _

/-- Nothing is lost by a text; what it replaces is taken out. -/
theorem perm_setText (d : Document) (n : Nat) (text : String) :
    (d.setText n text).elements.Perm (d.elements.map (·.withText n text)) := by
  rw [setText, elements_update]
  refine List.Perm.map _ ?_
  show (_ ++ (Forest.append _ (Forest.append _ _)).elements).Perm (_ ++ _)
  rw [Forest.elements_append, Forest.elements_append, ← List.append_assoc]
  exact (Forest.regroup _ _ _ _).trans
    ((Forest.elements_vacate n d.tree).append (Forest.elements_vacate n d.detached))

theorem WellNumbered.nodup_tree (h : d.WellNumbered) : d.tree.numbers.Nodup :=
  (List.nodup_append.mp (List.map_append ▸ h.nodup : (d.tree.numbers ++ _).Nodup)).1

/-- What is found first is found first among some of the elements. -/
theorem find?_of_sublist {l l' : List Element} {p : Element → Bool} (h : l'.Sublist l)
    (hnodup : l.Nodup) (hfind : l.find? p = some e) (he : e ∈ l') : l'.find? p = some e := by
  induction h with
  | slnil => cases he
  | @cons l₁ l₂ x hsub ih =>
    obtain ⟨hx, hnodup⟩ := List.nodup_cons.mp hnodup
    rw [List.find?_cons] at hfind
    split at hfind
    · cases hfind
      exact absurd (hsub.subset he) hx
    · exact ih hnodup hfind he
  | @cons_cons l₁ l₂ x hsub ih =>
    rw [List.find?_cons] at hfind ⊢
    split at hfind
    · exact hfind
    · next hp =>
      refine ih (List.nodup_cons.mp hnodup).2 hfind ?_
      refine List.mem_of_ne_of_mem ?_ he
      rintro rfl
      rw [List.find?_some hfind] at hp
      cases hp

/-- An element that gets a text is still the one with its id. -/
theorem byId?_setText (h : d.WellNumbered) (hm : d.byId? id = some m) (text : String) :
    (d.setText m.number text).byId? id = some (m.withText m.number text) := by
  have hvacated : byId? { d with tree := (d.tree.vacate m.number).1 } id = some m := by
    have hmem := Forest.mem_vacate h.nodup_tree (mem_of_byId? hm)
    rw [byId?] at hm ⊢
    split at hm
    · cases hm
    · next hid =>
      rw [if_neg hid]
      exact find?_of_sublist (Forest.sublist_vacate _ _) h.nodup_tree.of_map hm hmem
  have hmap := byId?_map id (d := { d with tree := (d.tree.vacate m.number).1 })
    (g := (·.withText m.number text)) fun e _ => (e.reclassed_withText _ _).2.2 "id"
  rw [hvacated] at hmap
  exact (byId?_congr (d.tree_setText _ _)).trans hmap

theorem errorMessage?_setText (h : d.WellNumbered) (hm : d.errorMessage? = some m)
    (text : String) :
    (d.setText m.number text).errorMessage? = some (m.withText m.number text) :=
  byId?_setText h hm text

theorem tree_setText_subset (d : Document) (n : Nat) (text : String) :
    (d.setText n text).tree.elements ⊆ d.tree.elements.map (·.withText n text) := by
  rw [tree_setText, Forest.elements_map]
  exact List.map_subset _ (Forest.sublist_vacate _ _).subset

/-- **A text in the generic area keeps a page presentable.** -/
theorem Presentable.setText (h : d.Presentable) (n : Nat) (text : String) :
    (d.setText n text).Presentable := by
  refine h.of_subset (fun e => e.number_withText n text)
    (fun e => (e.reclassed_withText n text).2.2 "id") (fun e => e.isError_withText n text)
    (edit_setText h.numbered _ _).wellNumbered ?_ (d.tree_setText_subset n text)
  intro e' he'
  obtain ⟨e, he, rfl⟩ := List.mem_map.mp ((d.perm_setText _ _).mem_iff.mp he')
  rw [(e.reclassed_withText _ _).2.1]
  exact h.classLists e he

/-- The text is all that the element holds. -/
theorem textOf_setText (hm : m ∈ d.tree.elements) (text : String) :
    (d.setText m.number text).textOf (m.withText m.number text) = text := by
  obtain ⟨below, hbelow⟩ := Forest.exists_below?_eq_some hm
  have hnothing : (d.setText m.number text).below m.number = .empty := by
    rw [Document.below, tree_setText, Forest.below?_map fun e => e.number_withText _ _,
      Forest.below?_vacate, hbelow]
    rfl
  rw [textOf, Element.number_withText, hnothing, Element.withText, if_pos rfl]
  exact String.append_empty

end Document

end Text

/-! ### One error at a time -/

/-- A page shows the error with a key, after another page was shown. -/
structure Document.Displays (d d' : Document) (key : String) : Prop where
  /-- No other error is seen. -/
  only : ∀ e ∈ d'.tree.elements, e.isError = true → e.isHidden = false →
    d'.shownFor? key = some e
  shown : ∀ e ∈ d'.shownFor? key, e.isHidden = false
  /-- An error that has no element of its own is spelled out. -/
  text : d'.byId? key = none → ∀ m ∈ d'.errorMessage?, d'.textOf m = key
  message : key ≠ Config.default.text .message → ∀ m ∈ d'.message?, m.isHidden = true
  others : ∀ e ∈ d.elements, ∀ e' ∈ d'.elements, e'.number = e.number →
    e.isError = false → d.message? ≠ some e → d.byId? key ≠ some e → e'.isHidden = e.isHidden

/-- A page shows no error, after another page was shown. -/
structure Document.Clears (d d' : Document) : Prop where
  errors : ∀ e ∈ d'.tree.elements, e.isError = true → e.isHidden = true
  message : ∀ m ∈ d'.message?, m.isHidden = false
  others : ∀ e ∈ d.elements, ∀ e' ∈ d'.elements, e'.number = e.number →
    e.isError = false → d.message? ≠ some e → e'.isHidden = e.isHidden

section Displays

variable {b : Browser} {d d' : Document} {g : Element → Element} {e e' x : Element} {key : String}

/-- The element that became of an element is known by its number. -/
theorem eq_of_perm_map (h : d.WellNumbered) (hg : ∀ e, (g e).number = e.number)
    (hperm : d'.elements.Perm (d.elements.map g)) (he : e ∈ d.elements) (he' : e' ∈ d'.elements)
    (hnumber : e'.number = e.number) : e' = g e := by
  obtain ⟨x, hx, rfl⟩ := List.mem_map.mp (hperm.mem_iff.mp he')
  rw [hg] at hnumber
  rw [List.inj_on_of_nodup_map h.nodup hx he hnumber]

/-- **An error with an element of its own.** -/
theorem displays_of_byId? (h : d.Presentable) (hg : d.IsSweep true g)
    (hdoc : b.document = d.map g) (hx : b.document.byId? key = some x) :
    (((setHidden Config.default false x.number).run b).2.document).Presentable ∧
      d.Displays ((setHidden Config.default false x.number).run b).2.document key := by
  have h₁ := h.map hg.veiling
  rw [hdoc] at hx
  have hx' : x ∈ b.document.elements := by
    rw [hdoc]
    exact List.mem_append_left _ (mem_of_byId? hx)
  obtain ⟨g', hg', hdoc', hshown, hspared⟩ := exists_setHidden (hdoc ▸ h₁) hx' false
  rw [hdoc, Document.elements_map] at hspared
  rw [hdoc', hdoc, Document.map_map]
  have hveiling := hg.veiling.comp hg'
  -- whatever is not shown now is as it was left by the sweep
  have hother {e : Element} (he : e ∈ d.elements) (hne : g e ≠ x) : g' (g e) = g e :=
    hspared (g e) (List.mem_map_of_mem he) hne
  have hfound : (d.map (g' ∘ g)).byId? key = some (g' x) := by
    rw [← Document.map_map, hg'.byId?, hx, Option.map_some]
  have hshownFor : (d.map (g' ∘ g)).shownFor? key = some (g' x) := by
    rw [Document.shownFor?, hfound, Option.some_or]
  refine ⟨h.map hveiling, ?_, ?_, ?_, ?_, ?_⟩
  · intro e' he' herror hseen
    rw [Document.map, Forest.elements_map] at he'
    obtain ⟨e, he, rfl⟩ := List.mem_map.mp he'
    rw [hveiling.isError] at herror
    rw [hshownFor]
    by_cases hsame : g e = x
    · exact congrArg (fun e => some (g' e)) hsame.symm
    · rw [Function.comp_apply, hother (List.mem_append_left _ he) hsame,
        hg.errors e he herror] at hseen
      cases hseen
  · intro e he
    rw [hshownFor] at he
    cases he
    exact hshown
  · intro hnone
    rw [hfound] at hnone
    cases hnone
  · intro hkey m' hm'
    obtain ⟨m, hm, rfl⟩ := hveiling.exists_of_byId? hm'
    rw [Function.comp_apply, hother (List.mem_append_left _ (mem_of_byId? hm))]
    · exact hg.message m hm
    · -- two ids are two elements
      intro hsame
      have hid : (g m).attribute? "id" = some key := hsame ▸ Document.id_of_byId? hx
      rw [hg.veiling.id_eq, Document.id_of_byId? hm] at hid
      exact hkey (Option.some.inj hid).symm
  · intro e he e' he' hnumber herror hne hkey
    have hperm := Document.elements_map (g' ∘ g) d
    rw [eq_of_perm_map h.numbered hveiling.number_eq (.of_eq hperm) he he' hnumber,
      Function.comp_apply, hother he]
    · rw [hg.others e he herror hne]
    · intro hsame
      exact hkey (hg.veiling.of_byId? h.numbered he (hsame ▸ hx))

/-- **The text of the generic area** comes first.  Elements keep everything but their texts, and
nothing comes to the page that was not there. -/
theorem exists_withText (h : b.document.Presentable) (text : String) :
    ∃ n b', (showGenericError Config.default text).run b =
        (named? Config.default .errorArea >>= fun found =>
          found.elim (log .document .warn ("No error area to show the message in " ++ text) [])
            fun e => setHidden Config.default false e.number).run b' ∧
      b'.document.Presentable ∧
      b'.document.elements.Perm (b.document.elements.map (·.withText n text)) ∧
      b'.document.tree.elements ⊆ b.document.tree.elements.map (·.withText n text) ∧
      ∀ m ∈ b'.document.errorMessage?, b'.document.textOf m = text := by
  obtain ⟨hfound, hdocument⟩ := run_named? Config.default .errorMessage b
  rw [showGenericError_eq, StateT.run_bind, StateT.run_bind]
  generalize (named? Config.default .errorMessage).run b = named at hfound hdocument ⊢
  obtain ⟨found, b'⟩ := named
  dsimp only at hfound hdocument
  rw [← hdocument] at h hfound ⊢
  cases found with
  | none =>
    -- nobody bears the next number, so nobody gets the text
    have hsame : ∀ e ∈ b'.document.elements, e.withText b'.document.next text = e := by
      intro e he
      exact if_neg (Nat.ne_of_lt (h.numbered.lt_next e he))
    have htree : ∀ e ∈ b'.document.tree.elements, e.withText b'.document.next text = e :=
      fun e he => hsame e (List.mem_append_left _ he)
    have hnone : b'.document.errorMessage? = none := hfound.symm
    refine ⟨b'.document.next, b', rfl, h, ?_, ?_, ?_⟩
    · rw [List.map_congr_left hsame, List.map_id']
    · rw [List.map_congr_left htree, List.map_id']
      exact List.Subset.refl _
    · rw [hnone]
      exact nofun
  | some m =>
    have hm : b'.document.errorMessage? = some m := hfound.symm
    refine ⟨m.number, { b' with document := b'.document.setText m.number text }, rfl,
      h.setText m.number text, b'.document.perm_setText _ _,
      b'.document.tree_setText_subset _ _, ?_⟩
    · intro m' hm'
      have hlabelled := Document.errorMessage?_setText h.numbered hm text
      cases hlabelled.symm.trans hm'
      exact Document.textOf_setText (mem_of_byId? hm) text

/-- **An error without an element of its own.** -/
theorem displays_of_byId?_eq_none (h : d.Presentable) (hg : d.IsSweep true g)
    (hdoc : b.document = d.map g) (hnone : b.document.byId? key = none) :
    (((showGenericError Config.default key).run b).2.document).Presentable ∧
      d.Displays ((showGenericError Config.default key).run b).2.document key := by
  have h₁ := h.map hg.veiling
  rw [← hdoc] at h₁
  obtain ⟨n, b', hrun, h₂, hperm, htree, htext⟩ := exists_withText h₁ key
  obtain ⟨g', hg', hdoc', hshown, hspared⟩ :=
    exists_setNamedHidden _ h₂ .errorArea false fun b => document_log _ _ _ _ b
  have hgone : b'.document.byId? key = none :=
    Document.byId?_eq_none_of_subset (fun e => (e.reclassed_withText n key).2.2 "id") htree hnone
  rw [hrun, hdoc']
  rw [hdoc, Document.elements_map, List.map_map] at hperm
  rw [hdoc, Document.map, Forest.elements_map, List.map_map] at htree
  rw [Function.comp_def] at hperm htree
  have hfinal : (b'.document.map g').elements.Perm
      (d.elements.map fun e => g' ((g e).withText n key)) := by
    rw [Document.elements_map, ← Function.comp_def g', ← List.map_map]
    exact hperm.map g'
  have hnumber (e : Element) : (g' ((g e).withText n key)).number = e.number := by
    rw [hg'.number_eq, Element.number_withText, hg.veiling.number_eq]
  have herror (e : Element) : ((g e).withText n key).isError = e.isError := by
    rw [Element.isError_withText, hg.veiling.isError]
  have hmem {e : Element} (he : e ∈ d.elements) :
      (g e).withText n key ∈ b'.document.elements := hperm.mem_iff.mpr (List.mem_map_of_mem he)
  -- what is no error is not the generic area, so that it is not shown now
  have hother {e : Element} (he : e ∈ d.elements) (hno : e.isError = false) :
      g' ((g e).withText n key) = (g e).withText n key := by
    refine hspared _ (hmem he) fun harea => ?_
    have hyes := h₂.sorted.area _ harea
    rw [herror, hno] at hyes
    cases hyes
  have harea : (b'.document.map g').shownFor? key = b'.document.errorArea?.map g' := by
    rw [Document.shownFor?, hg'.byId?, hgone, Option.map_none, Option.none_or]
    exact hg'.byId? _ _
  refine ⟨h₂.map hg', ?_, ?_, ?_, ?_, ?_⟩
  · intro e' he' hyes hseen
    rw [Document.map, Forest.elements_map] at he'
    obtain ⟨x, hx, rfl⟩ := List.mem_map.mp he'
    obtain ⟨e, he, rfl⟩ := List.mem_map.mp (htree hx)
    rw [hg'.isError, herror] at hyes
    rw [harea, Option.map_eq_some_iff]
    by_contra hno
    -- any other error is as it was left by the sweep
    have hsame := hspared _ (List.mem_append_left _ hx) fun hx => hno ⟨_, hx, rfl⟩
    rw [hsame, Element.isHidden_withText, hg.errors e he hyes] at hseen
    cases hseen
  · intro e he
    rw [harea] at he
    obtain ⟨a, ha, rfl⟩ := Option.map_eq_some_iff.mp he
    exact hshown a ha
  · intro _ m' hm'
    obtain ⟨m, hm, rfl⟩ := hg'.exists_of_byId? hm'
    rw [hg'.textOf]
    exact htext m hm
  · intro _ m'' hm''
    obtain ⟨m', hm', rfl⟩ := hg'.exists_of_byId? hm''
    -- it is the message of before, since nobody else has its id
    obtain ⟨m, hm, rfl⟩ := List.mem_map.mp (htree (mem_of_byId? hm'))
    have hid : m.attribute? "id" = some (Config.default.text .message) := by
      rw [← hg.veiling.id_eq, ← ((g m).reclassed_withText n key).2.2]
      exact Document.id_of_byId? hm'
    have hfound : d.message? = some m := h.message.byId? h.numbered (by decide) hm hid
    rw [hother (List.mem_append_left _ hm) (h.sorted.message m hfound),
      Element.isHidden_withText]
    exact hg.message m hfound
  · intro e he e' he' hsame hno hne _
    rw [eq_of_perm_map h.numbered hnumber hfinal he he' hsame, hother he hno,
      Element.isHidden_withText, hg.others e he hno hne]

/-- **Showing an error** shows that one. -/
theorem displays_displayError (h : b.document.Presentable) (key : String) :
    (((page Config.default).displayError key).run b).2.document.Presentable ∧
      b.document.Displays (((page Config.default).displayError key).run b).2.document key := by
  obtain ⟨g, hg, hdoc⟩ := exists_sweep h true
  rcases hswept : (page Config.default).hideMessages.run b with ⟨_, b'⟩
  have hdoc' : b'.document = b.document.map g := by
    rw [← hdoc]
    exact congrArg (·.2.document) hswept.symm
  have hrun : ((page Config.default).displayError key).run b
      = (((page Config.default).revealError key).run b' >>= fun p =>
          (if !p.1 then showGenericError Config.default key else pure ()).run p.2) := by
    rw [Page.displayError, StateT.run_bind, hswept]
    rfl
  rw [hrun]
  cases hx : b'.document.byId? key with
  | none =>
    have hreveal : ((page Config.default).revealError key).run b' = (false, b') := by
      show (revealError Config.default key).run b' = (false, b')
      simp only [revealError, StateT.run_bind, StateT.run_get, pure_bind, hx]
      rfl
    rw [hreveal]
    exact displays_of_byId?_eq_none h hg hdoc' hx
  | some x =>
    have hreveal : ((page Config.default).revealError key).run b'
        = (true, ((setHidden Config.default false x.number).run b').2) := by
      show (revealError Config.default key).run b' = _
      simp only [revealError, StateT.run_bind, StateT.run_get, pure_bind, hx]
      rfl
    rw [hreveal]
    exact displays_of_byId? h hg hdoc' hx

/-- **Clearing the errors** shows none. -/
theorem clears_clearErrors (h : b.document.Presentable) :
    ((page Config.default).clearErrors.run b).2.document.Presentable ∧
      b.document.Clears ((page Config.default).clearErrors.run b).2.document := by
  obtain ⟨g, hg, hdoc⟩ := exists_sweep h false
  have hdoc' : ((page Config.default).clearErrors.run b).2.document = b.document.map g := hdoc
  rw [hdoc']
  refine ⟨h.map hg.veiling, ?_, ?_, ?_⟩
  · intro e' he' hyes
    rw [Document.map, Forest.elements_map] at he'
    obtain ⟨e, he, rfl⟩ := List.mem_map.mp he'
    rw [hg.veiling.isError] at hyes
    exact hg.errors e he hyes
  · intro m' hm'
    obtain ⟨m, hm, rfl⟩ := hg.veiling.exists_of_byId? hm'
    exact hg.message m hm
  · intro e he e' he' hsame hno hne
    have hperm := Document.elements_map g b.document
    rw [eq_of_perm_map h.numbered hg.veiling.number_eq (.of_eq hperm) he he' hsame,
      hg.others e he hno hne]

end Displays

/-! ### Any number of messages -/

/-- What a page is asked to show. -/
inductive Announcement where
  | error (key : String)
  | clear
deriving DecidableEq, Repr

/-- Shows it. -/
def Announcement.make : Announcement → StateM Browser Unit
  | error key => (page Config.default).displayError key
  | clear => (page Config.default).clearErrors

/-- A browser after several announcements. -/
def announced (as : List Announcement) (b : Browser) : Browser :=
  as.foldl (fun b a => (a.make.run b).2) b

/-- **Announcements keep a page presentable.** -/
theorem presentable_announced {b : Browser} (h : b.document.Presentable)
    (as : List Announcement) : (announced as b).document.Presentable := by
  induction as generalizing b with
  | nil => exact h
  | cons a as ih =>
    refine ih ?_
    cases a with
    | error key => exact (displays_displayError h key).1
    | clear => exact (clears_clearErrors h).1

/-- **One error is shown at a time.**  Whatever was announced before, an error is shown alone, in
its own element or else in the generic area, and in place of the instruction message; and when the
errors are cleared, none is shown and the message is back. -/
theorem one_error_shown {b : Browser} (h : b.document.Presentable) (as : List Announcement) :
    (∀ key, (announced as b).document.Displays
        (announced (as ++ [.error key]) b).document key) ∧
      (announced as b).document.Clears (announced (as ++ [.clear]) b).document := by
  have hreached := presentable_announced h as
  have hlast (a : Announcement) :
      announced (as ++ [a]) b = (a.make.run (announced as b)).2 := List.foldl_append
  refine ⟨?_, ?_⟩
  · intro key
    rw [hlast]
    exact (displays_displayError hreached key).2
  · rw [hlast]
    exact (clears_clearErrors hreached).2

/-- A page with an instruction message, an error of its own and the generic area. -/
def messagePage : Forest :=
  .tree ⟨0, "p", [("id", "webauthn-message")], [], "", "", false, [], []⟩ .empty
    (.tree ⟨0, "p", [("id", "notallowederror"), ("class", "error-message hidden")], [], "", "",
        false, [], []⟩ .empty
      (.tree ⟨0, "div", [("id", "webauthn-error"), ("class", "error-message hidden")], [], "", "",
          false, [], []⟩
        (.tree ⟨0, "span", [("id", "webauthn-error-message")], [], "", "", false, [], []⟩
          .empty .empty)
        .empty))

theorem presentable_messagePage : (Document.ofTrees messagePage).Presentable := by
  have hclassLists : ∀ e ∈ (Document.ofTrees messagePage).elements, .classList ∉ e.faults := by
    decide +kernel
  refine ⟨Document.wellNumbered_ofTrees _, hclassLists, ⟨?_, ?_⟩, ?_, ?_⟩
  · decide +kernel
  · decide +kernel
  · decide +kernel
  · decide +kernel

/-- One error after another, with the page cleared in between. -/
theorem one_error_shown_messagePage :
    (Document.ofTrees messagePage).Presentable ∧
      ∀ key,
        (announced [.error "notallowederror", .clear]
            (.fresh goodSurroundings messagePage .undefined 0)).document.Displays
          (announced [.error "notallowederror", .clear, .error key]
            (.fresh goodSurroundings messagePage .undefined 0)).document key := by
  have hshown := one_error_shown (b := .fresh goodSurroundings messagePage .undefined 0)
    presentable_messagePage [.error "notallowederror", .clear]
  exact ⟨presentable_messagePage, hshown.1⟩

/-- A page on which the generic area and the instruction message lie in the text of an error, and
share their ids with others behind it. -/
def twinPage : Forest :=
  .tree ⟨0, "div", [("id", "webauthn-error-message")], [], "", "", false, [], []⟩
    (.tree ⟨0, "div", [("id", "webauthn-error"), ("class", "error-message hidden")], [], "", "",
        false, [], []⟩ .empty
      (.tree ⟨0, "p", [("id", "webauthn-message")], [], "", "", false, [], []⟩ .empty .empty))
    (.tree ⟨0, "div", [("id", "webauthn-error"), ("class", "hidden")], [], "", "", false, [], []⟩
      .empty
      (.tree ⟨0, "p", [("id", "webauthn-message")], [], "", "", false, [], []⟩ .empty .empty))

/-- The page after an error without an element of its own. -/
def twinsShown : Document :=
  (announced [.error "parse"] (.fresh goodSurroundings twinPage .undefined 0)).document

/-- **Shared ids lead astray**: the text of the error takes the generic area and the instruction
message out of the page, and then an element that is no error is shown, and the message that is
found was never hidden. -/
theorem shared_ids_shown :
    (Document.ofTrees twinPage).Sorted ∧
      (∃ m ∈ twinsShown.message?, m.isHidden = false) ∧
      ∃ e ∈ (Document.ofTrees twinPage).elements, ∃ e' ∈ twinsShown.elements,
        e'.number = e.number ∧ e.isError = false ∧
        (Document.ofTrees twinPage).message? ≠ some e ∧
        (Document.ofTrees twinPage).byId? "parse" ≠ some e ∧ e'.isHidden ≠ e.isHidden := by
  refine ⟨⟨?_, ?_⟩, ?_, ?_⟩
  · decide +kernel
  · decide +kernel
  · decide +kernel
  · decide +kernel

end Passkey.Browser
