/-
Passkey/Proofs/Browser/Likeness.lean

Documents whose elements are alike.

A likeness says what of an element stays: `K e e'` if `e'` may have become of
`e`.  Two documents are alike in place if they have the same shape and every
element is like the one in its place (`InPlace`); they are alike if the
elements may have been taken out or moved as well (`Alike`).  Changing an
element keeps documents alike in place, and a text that replaces what lay in an
element keeps them alike.  So for every likeness there are two relations that
actions stay in, one for the actions that show no text and one for all.  Such
texts take elements out of the page and put none into it (`Thins`), which is
what statements about everything in a page need.
-/
import Passkey.Proofs.Browser.Conduct
import Passkey.Proofs.Browser.Messages

namespace Passkey.Browser

/-- What of an element stays; its number does. -/
structure IsLikeness (K : Element → Element → Prop) : Prop where
  refl : ∀ e, K e e
  trans : ∀ {e e' e''}, K e e' → K e' e'' → K e e''
  number : ∀ {e e'}, K e e' → e'.number = e.number

namespace Document

variable {K : Element → Element → Prop} {d d' d'' : Document}

/-- Every element is like the one that was in its place. -/
def InPlace (K : Element → Element → Prop) (d d' : Document) : Prop :=
  ∃ g : Element → Element, (∀ e, K e (g e)) ∧ d' = d.map g

/-- Every element is like one that was there, wherever it is now. -/
def Alike (K : Element → Element → Prop) (d d' : Document) : Prop :=
  d'.next = d.next ∧ ∃ g : Element → Element, (∀ e, K e (g e)) ∧
    d'.elements.Perm (d.elements.map g)

theorem InPlace.refl (hK : IsLikeness K) (d : Document) : d.InPlace K d :=
  ⟨fun e => e, hK.refl, d.map_id.symm⟩

theorem InPlace.trans (hK : IsLikeness K) (h : d.InPlace K d') (h' : d'.InPlace K d'') :
    d.InPlace K d'' := by
  obtain ⟨g, hg, rfl⟩ := h
  obtain ⟨g', hg', rfl⟩ := h'
  exact ⟨g' ∘ g, fun e => hK.trans (hg e) (hg' (g e)), d.map_map g g'⟩

theorem InPlace.alike (h : d.InPlace K d') : d.Alike K d' := by
  obtain ⟨g, hg, rfl⟩ := h
  exact ⟨rfl, g, hg, .of_eq (d.elements_map g)⟩

theorem InPlace.mono {K' : Element → Element → Prop} (h : d.InPlace K d')
    (hK : ∀ e e', K e e' → K' e e') : d.InPlace K' d' := by
  obtain ⟨g, hg, hd⟩ := h
  exact ⟨g, fun e => hK _ _ (hg e), hd⟩

theorem Alike.mono {K' : Element → Element → Prop} (h : d.Alike K d')
    (hK : ∀ e e', K e e' → K' e e') : d.Alike K' d' := by
  obtain ⟨hnext, g, hg, hperm⟩ := h
  exact ⟨hnext, g, fun e => hK _ _ (hg e), hperm⟩

theorem Alike.trans (hK : IsLikeness K) (h : d.Alike K d') (h' : d'.Alike K d'') :
    d.Alike K d'' := by
  obtain ⟨hnext, g, hg, hperm⟩ := h
  obtain ⟨hnext', g', hg', hperm'⟩ := h'
  refine ⟨hnext'.trans hnext, g' ∘ g, fun e => hK.trans (hg e) (hg' (g e)), ?_⟩
  rw [← List.map_map]
  exact hperm'.trans (hperm.map g')

theorem Alike.wellNumbered (hK : IsLikeness K) (h : d.Alike K d') (hd : d.WellNumbered) :
    d'.WellNumbered := by
  obtain ⟨hnext, g, hg, hperm⟩ := h
  have hnumber (e : Element) : (g e).number = e.number := hK.number (hg e)
  refine ⟨?_, ?_⟩
  · rw [(hperm.map _).nodup_iff, List.map_map]
    exact (List.map_congr_left fun e _ => hnumber e) ▸ hd.nodup
  · intro e' he'
    obtain ⟨e, he, rfl⟩ := List.mem_map.mp (hperm.mem_iff.mp he')
    rw [hnumber, hnext]
    exact hd.lt_next e he

/-- An element is like the one that bore its number. -/
theorem Alike.like (h : d.Alike K d') {e' : Element} (he' : e' ∈ d'.elements) :
    ∃ e ∈ d.elements, K e e' := by
  obtain ⟨-, g, hg, hperm⟩ := h
  obtain ⟨e, he, rfl⟩ := List.mem_map.mp (hperm.mem_iff.mp he')
  exact ⟨e, he, hg e⟩

/-- What was there is still there, or what became of it. -/
theorem Alike.exists_like (h : d.Alike K d') {e : Element} (he : e ∈ d.elements) :
    ∃ e' ∈ d'.elements, K e e' := by
  obtain ⟨-, g, hg, hperm⟩ := h
  exact ⟨g e, hperm.mem_iff.mpr (List.mem_map_of_mem he), hg e⟩

/-- A number belongs to elements that are alike, if to any. -/
theorem Alike.element? (hK : IsLikeness K) (h : d.Alike K d') (hd : d.WellNumbered) (n : Nat) :
    Option.Rel K (d.element? n) (d'.element? n) := by
  have hd' := h.wellNumbered hK hd
  cases he : d.element? n with
  | some e =>
    obtain ⟨hmem, rfl⟩ := mem_of_element? he
    obtain ⟨e', hmem', hlike⟩ := h.exists_like hmem
    rw [← hK.number hlike, element?_number hd' hmem']
    exact .some hlike
  | none =>
    cases he' : d'.element? n with
    | none => exact .none
    | some e' =>
      obtain ⟨hmem', rfl⟩ := mem_of_element? he'
      obtain ⟨e, hmem, hlike⟩ := h.like hmem'
      rw [hK.number hlike, element?_number hd hmem] at he
      cases he

open Classical in
/-- Replacing an element by one that is like it. -/
theorem inPlace_put {e e' : Element} (hK : IsLikeness K) (hd : d.WellNumbered)
    (he : e ∈ d.elements) (hlike : K e e') : d.InPlace K (d.put e') := by
  refine ⟨fun x => if x = e then e' else x, fun x => ?_, ?_⟩
  · dsimp only
    split
    · next hx => exact hx ▸ hlike
    · exact hK.refl x
  · -- the number belongs to that element only
    rw [put, update_eq_map]
    refine map_congr fun x hx => if_congr ⟨fun hn => ?_, fun hx => ?_⟩ rfl rfl
    · exact List.inj_on_of_nodup_map hd.nodup hx he (hn.trans (hK.number hlike))
    · rw [hx, hK.number hlike]

theorem alike_setText (hK : IsLikeness K)
    (htext : ∀ (e : Element) (ownText : String), K e { e with ownText }) (d : Document) (n : Nat)
    (text : String) : d.Alike K (d.setText n text) := by
  refine ⟨rfl, (·.withText n text), fun e => ?_, d.perm_setText n text⟩
  show K e (e.withText n text)
  rw [Element.withText]
  split
  · exact htext e text
  · exact hK.refl e

/-- Documents are alike, and whatever is in the page was in the page before. -/
structure Thins (K : Element → Element → Prop) (d d' : Document) : Prop where
  alike : d.Alike K d'
  page : ∀ e' ∈ d'.tree.elements, ∃ e ∈ d.tree.elements, K e e'

theorem InPlace.thins (h : d.InPlace K d') : d.Thins K d' := by
  refine ⟨h.alike, ?_⟩
  obtain ⟨g, hg, rfl⟩ := h
  intro e' he'
  rw [map, Forest.elements_map] at he'
  obtain ⟨e, he, rfl⟩ := List.mem_map.mp he'
  exact ⟨e, he, hg e⟩

theorem Thins.refl (hK : IsLikeness K) (d : Document) : d.Thins K d :=
  (InPlace.refl hK d).thins

theorem Thins.trans (hK : IsLikeness K) (h : d.Thins K d') (h' : d'.Thins K d'') :
    d.Thins K d'' := by
  refine ⟨h.alike.trans hK h'.alike, fun e'' he'' => ?_⟩
  obtain ⟨e', he', hlike'⟩ := h'.page e'' he''
  obtain ⟨e, he, hlike⟩ := h.page e' he'
  exact ⟨e, he, hK.trans hlike hlike'⟩

theorem Thins.mono {K' : Element → Element → Prop} (h : d.Thins K d')
    (hK : ∀ e e', K e e' → K' e e') : d.Thins K' d' := by
  refine ⟨h.alike.mono hK, fun e' he' => ?_⟩
  obtain ⟨e, he, hlike⟩ := h.page e' he'
  exact ⟨e, he, hK _ _ hlike⟩

theorem thins_setText (hK : IsLikeness K)
    (htext : ∀ (e : Element) (ownText : String), K e { e with ownText }) (d : Document) (n : Nat)
    (text : String) : d.Thins K (d.setText n text) := by
  refine ⟨alike_setText hK htext d n text, fun e' he' => ?_⟩
  have htree : (d.setText n text).tree
      = (d.tree.vacate n).1.update n fun e => { e with ownText := text } := rfl
  rw [htree, Forest.elements_update] at he'
  obtain ⟨e, he, rfl⟩ := List.mem_map.mp he'
  refine ⟨e, (Forest.sublist_vacate n d.tree).subset he, ?_⟩
  split
  · exact htext e text
  · exact hK.refl e

end Document

/-! ### What operations make of elements -/

/-- What a script writes by one of the names that the program uses. -/
theorem setAttribute_eq_ok {e e' : Element} {name : String}
    (hname : Text.asciiLowerText name = name) {value : String}
    (h : e.setAttribute [.text name, .text value] = .ok e') : e' = e.withAttribute name value := by
  rw [Element.setAttribute] at h
  split at h
  · cases h
  · split at h
    · have hresult := Except.ok.inj h
      rw [← hresult]
      show e.withAttribute (Text.asciiLowerText name) value = _
      rw [hname]
    · cases h

theorem lookup_dropEntry (name other : String) (entries : List (String × String)) :
    (dropEntry name entries).lookup other
      = if other = name then none else entries.lookup other := by
  induction entries with
  | nil => rw [dropEntry, List.filter_nil, List.lookup_nil, ite_self]
  | cons entry rest ih =>
    obtain ⟨key, value⟩ := entry
    rw [dropEntry, List.filter_cons]
    by_cases hkey : key = name
    · rw [if_neg (by simpa using hkey), ← dropEntry, ih, List.lookup_cons]
      -- an entry that is dropped is not found by another name
      split
      · rfl
      · next hne => rw [beq_eq_false_iff_ne.mpr fun hsame => hne (hsame.trans hkey)]
    · rw [if_pos (by simpa using hkey), List.lookup_cons, List.lookup_cons, ← dropEntry, ih]
      by_cases hother : other = key
      · subst hother
        rw [beq_self_eq_true]
        exact (if_neg hkey).symm
      · rw [beq_eq_false_iff_ne.mpr hother]

theorem eq_of_guarded {e e' : Element} {fault : ElementFault} {thrown : ScriptValue}
    {changed : Element} (h : e.guarded fault thrown changed = .ok e') : e' = changed := by
  rw [Element.guarded] at h
  split at h
  · cases h
  · exact (Except.ok.inj h).symm

/-! ### Changes along a likeness -/

section Change

variable {K : Element → Element → Prop} {b : Browser} {n : Nat} {operation : Operation}

/-- An operation that leaves an element with a number alike. -/
def Likens (K : Element → Element → Prop) (n : Nat) (operation : Operation) : Prop :=
  ∀ e e', e.number = n → operation e = .ok e' → K e e'

theorem inPlace_change (hK : IsLikeness K) (ho : Likens K n operation)
    (h : b.document.WellNumbered) :
    b.document.InPlace K ((change n operation).run b).2.document := by
  cases he : b.document.element? n with
  | none =>
    have hrun : (change n operation).run b = (none, b) := by
      show change n operation b = _
      rw [change, he]
    rw [hrun]
    exact .refl hK _
  | some e =>
    obtain ⟨hmem, rfl⟩ := Document.mem_of_element? he
    refine ⟨_, fun x => ?_,
      document_change operation h hmem fun e' he' => hK.number (ho e e' rfl he')⟩
    split
    · next hx =>
      rw [Element.after]
      split
      · next x' hx' => exact ho x x' hx hx'
      · exact hK.refl x
    · exact hK.refl x

theorem isLikeness_reclassed : IsLikeness Element.Reclassed where
  refl _ := ⟨rfl, rfl, rfl, rfl, fun _ _ => rfl⟩
  trans h h' := ⟨h'.number.trans h.number, h'.tag.trans h.tag, h'.ownText.trans h.ownText,
    h'.faults.trans h.faults,
    fun name hname => (h'.attribute? name hname).trans (h.attribute? name hname)⟩
  number h := h.number

/-- A change that nothing is thrown by. -/
theorem run_change {e e' : Element} {operation : Operation} (hb : b.document.WellNumbered)
    (he : e ∈ b.document.elements) (ho : operation e = .ok e') :
    (change e.number operation).run b = (none, { b with document := b.document.put e' }) := by
  show change e.number operation b = _
  rw [change, Document.element?_number hb he]
  dsimp only
  rw [ho]

theorem mem_put {d : Document} {e : Element} (e' : Element) (he : e ∈ d.elements)
    (hn : e'.number = e.number) :
    e' ∈ (d.put e').elements := by
  rw [Document.put, Document.elements_update]
  exact List.mem_map.mpr ⟨e, he, if_pos hn.symm⟩

/-- What stays as it is around a document that actions change: listeners, timers, the settings of
ceremonies, and the surroundings. -/
structure SameAround (b b' : Browser) : Prop where
  listeners : b'.listeners = b.listeners
  timers : b'.timers = b.timers
  offers : b'.offers.map (·.config) = b.offers.map (·.config)
  surroundings : b'.surroundings = b.surroundings

theorem SameAround.trans {b b' b'' : Browser} (h : b.SameAround b') (h' : b'.SameAround b'') :
    b.SameAround b'' where
  listeners := h'.listeners.trans h.listeners
  timers := h'.timers.trans h.timers
  offers := h'.offers.trans h.offers
  surroundings := h'.surroundings.trans h.surroundings

/-- A comparison of documents, with everything the same around them. -/
def Along (D : Document → Document → Prop) (b b' : Browser) : Prop :=
  b.document.WellNumbered →
    D b.document b'.document ∧ b'.document.WellNumbered ∧ b.SameAround b'

variable {D : Document → Document → Prop}

theorem Along.mono {D' : Document → Document → Prop} {b' : Browser} (h : Along D b b')
    (hD : ∀ {d d'}, D d d' → D' d d') : Along D' b b' := by
  intro hb
  obtain ⟨hdocument, hrest⟩ := h hb
  exact ⟨hD hdocument, hrest⟩

/-- Listeners and numbers are as they should be afterwards. -/
theorem Sound.along {b' : Browser} (h : b.Sound) (halong : Along D b b') : b'.Sound := by
  obtain ⟨-, hnumbered, haround⟩ := halong h.numbered
  exact ⟨hnumbered, haround.listeners ▸ h.made⟩

theorem along_of_document_eq {b' : Browser} (hrefl : ∀ d, D d d)
    (hdocument : b'.document = b.document) (haround : b.SameAround b') : Along D b b' := by
  intro h
  rw [hdocument]
  exact ⟨hrefl _, h, haround⟩

theorem isFrame_along (hrefl : ∀ d, D d d) (htrans : ∀ {d d' d''}, D d d' → D d' d'' → D d d'')
    {may : Nat → Operation → Prop}
    (hchange : ∀ {n operation}, may n operation → ∀ b : Browser, b.document.WellNumbered →
      D b.document ((change n operation).run b).2.document ∧
        ((change n operation).run b).2.document.WellNumbered) : IsFrame (Along D) may where
  refl b := along_of_document_eq hrefl rfl ⟨rfl, rfl, rfl, rfl⟩
  trans := by
    intro b b' b'' h h' hb
    obtain ⟨hD, hb', haround⟩ := h hb
    obtain ⟨hD', hb'', haround'⟩ := h' hb'
    exact ⟨htrans hD hD', hb'', haround.trans haround'⟩
  calls b calls span := along_of_document_eq hrefl rfl ⟨rfl, rfl, rfl, rfl⟩
  change := by
    intro n operation hmay b h
    obtain ⟨hD, hb'⟩ := hchange hmay b h
    refine ⟨hD, hb', ?_⟩
    have hrun : change n operation b = (change n operation).run b := rfl
    rw [← hrun, change]
    split
    · exact ⟨rfl, rfl, rfl, rfl⟩
    · split <;> exact ⟨rfl, rfl, rfl, rfl⟩

theorem isFrame_inPlace (hK : IsLikeness K) :
    IsFrame (Along (Document.InPlace K)) (Likens K) :=
  isFrame_along (.refl hK) (.trans hK) fun ho _ h =>
    have hplace := inPlace_change hK ho h
    ⟨hplace, hplace.alike.wellNumbered hK h⟩

theorem isFrame_alike (hK : IsLikeness K) : IsFrame (Along (Document.Alike K)) (Likens K) :=
  isFrame_along (fun d => (Document.InPlace.refl hK d).alike) (.trans hK) fun ho _ h =>
    have halike := (inPlace_change hK ho h).alike
    ⟨halike, halike.wellNumbered hK h⟩

theorem along_put {e e' : Element} (hK : IsLikeness K) (he : e ∈ b.document.elements)
    (hlike : K e e') : Along (Document.InPlace K) b { b with document := b.document.put e' } := by
  intro h
  have hplace := Document.inPlace_put hK h he hlike
  exact ⟨hplace, hplace.alike.wellNumbered hK h, rfl, rfl, rfl, rfl⟩

theorem allowsText_alike (hK : IsLikeness K)
    (htext : ∀ (e : Element) (ownText : String), K e { e with ownText }) :
    AllowsText (Along (Document.Alike K)) := by
  intro b n text h
  have halike := Document.alike_setText hK htext b.document n text
  exact ⟨halike, halike.wellNumbered hK h, rfl, rfl, rfl, rfl⟩

theorem isFrame_thins (hK : IsLikeness K) : IsFrame (Along (Document.Thins K)) (Likens K) :=
  isFrame_along (.refl hK) (.trans hK) fun ho _ h =>
    have hplace := inPlace_change hK ho h
    ⟨hplace.thins, hplace.alike.wellNumbered hK h⟩

theorem allowsText_thins (hK : IsLikeness K)
    (htext : ∀ (e : Element) (ownText : String), K e { e with ownText }) :
    AllowsText (Along (Document.Thins K)) := by
  intro b n text h
  have hthins := Document.thins_setText hK htext b.document n text
  exact ⟨hthins, hthins.alike.wellNumbered hK h, rfl, rfl, rfl, rfl⟩

theorem allowsRuns_along (hrefl : ∀ d, D d d) : AllowsRuns (Along D) where
  ceremonies n c b := by
    refine along_of_document_eq hrefl rfl ⟨rfl, rfl, ?_, rfl⟩
    refine List.ext_getElem? fun i => ?_
    show ((b.offers.modify n _).map _)[i]? = _
    rw [List.getElem?_map, List.getElem?_map, List.getElem?_modify]
    cases b.offers[i]? with
    | none => rfl
    | some o =>
      show some (if n = i then _ else o : Offer).config = some o.config
      split <;> rfl
  runs b runs := along_of_document_eq hrefl rfl ⟨rfl, rfl, rfl, rfl⟩
  tasks b tasks := along_of_document_eq hrefl rfl ⟨rfl, rfl, rfl, rfl⟩

end Change

end Passkey.Browser
