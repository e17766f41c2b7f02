/-
Passkey/Proofs/Browser/Fields.lean

The field beside an icon, and what leaves it alone.

A toggle acts on a field that it looks up by its place in the page, as the
first field inside whatever holds the icon.  As long as elements stay where
they are and no element becomes a field or ceases to be one, that is the same
field (`fieldBeside?_of_inPlace`).  Toggles themselves keep to this: they turn
the type of a field into another type that a field can have.

An element rests if its type stays what it was, for the field of a toggle, and
so do the two classes of its icon (`Rests`).  Whatever the page does beside
toggling leaves every element at rest, unless the settings use the classes of
the icon for something else.
-/
import Passkey.Proofs.Browser.Likeness

namespace Passkey.Browser

open Text

/-! ### Fields stay fields -/

/-- Whether an element is a field that toggles act on. -/
def Element.isField (e : Element) : Bool :=
  passwordFields.fits [] e

theorem passwordFields_fits (above : List Element) (e : Element) :
    passwordFields.fits above e = e.isField := by
  cases above <;> rfl

theorem isField_iff {e : Element} :
    e.isField = true ↔ e.hasTag "input" = true ∧ ∃ value, e.attribute? "type" = some value ∧
      (sameAscii value "password" = true ∨ sameAscii value "text" = true) := by
  rw [Element.isField]
  simp only [passwordFields, Selector.fits, Compound.holds, Trait.holds, List.any_cons,
    List.any_nil, List.all_cons, List.all_nil]
  cases e.attribute? "type" with
  | none => simp
  | some value => simp [Chain.fits, ← and_or_left]

theorem isField_congr {e e' : Element} (htag : e'.tag = e.tag)
    (htype : e'.attribute? "type" = e.attribute? "type") : e'.isField = e.isField := by
  rw [Bool.eq_iff_iff, isField_iff, isField_iff, Element.hasTag, Element.hasTag, htag, htype]

/-- An element that neither becomes a field nor ceases to be one, and that keeps its mark. -/
structure Element.Steady (e e' : Element) : Prop where
  number : e'.number = e.number
  faults : e'.faults = e.faults
  marked : e.isClaimed = true → e'.isClaimed = true
  isField : e'.isField = e.isField

theorem isLikeness_steady : IsLikeness Element.Steady where
  refl _ := ⟨rfl, rfl, id, rfl⟩
  trans h h' := ⟨h'.number.trans h.number, h'.faults.trans h.faults,
    fun hm => h'.marked (h.marked hm), h'.isField.trans h.isField⟩
  number h := h.number

/-- What a toggle writes keeps a field a field. -/
theorem steady_withType {e : Element} (h : e.isField = true) (v : Widget.Visibility) :
    e.Steady (e.withAttribute "type" v.inputType) := by
  refine ⟨rfl, rfl, fun hm => ?_, ?_⟩
  · rwa [Element.isClaimed_withAttribute (by decide)]
  · have htype : (e.withAttribute "type" v.inputType).attribute? "type" = some v.inputType := by
      rw [Element.attribute?_withAttribute, if_pos rfl]
    rw [h, isField_iff, htype]
    refine ⟨(isField_iff.mp h).1, v.inputType, rfl, ?_⟩
    cases v
    · exact .inl (by decide)
    · exact .inr (by decide)

section Beside

variable {d d' : Document} {icon : Nat} {field : Element}

/-- **The field beside an icon is the same** as long as everything stays in its place. -/
theorem fieldBeside?_of_inPlace (h : d.InPlace Element.Steady d') (icon : Nat) :
    (d'.fieldBeside? icon).map (·.number) = (d.fieldBeside? icon).map (·.number) := by
  obtain ⟨g, hg, rfl⟩ := h
  have hnumber (e : Element) : (g e).number = e.number := (hg e).number
  have hfits (above : List Element) (e : Element) :
      passwordFields.fits (above.map g) (g e) = passwordFields.fits above e := by
    rw [passwordFields_fits, passwordFields_fits, (hg e).isField]
  have hfound : (d.map g).fieldBeside? icon = (d.fieldBeside? icon).map g := by
    rw [Document.fieldBeside?, Document.fieldBeside?, Document.parent?_map hnumber]
    cases d.parent? icon with
    | none => rfl
    | some parent =>
      rw [Option.map_some, Option.bind_some, Option.bind_some, Document.selectBelow?,
        Document.selectBelow?, hnumber, Document.below_map hnumber, Document.path_map hnumber,
        Forest.select_map hfits, List.head?_map]
  rw [hfound, Option.map_map]
  exact congrArg (Option.map · _) (funext hnumber)

theorem Forest.mem_of_mem_select {test : List Element → Element → Bool} {above : List Element}
    {f : Forest} {e : Element} (h : e ∈ f.select test above) :
    e ∈ f.elements ∧ ∃ above', test above' e = true := by
  induction f generalizing above with
  | empty => cases h
  | tree root children rest ih₁ ih₂ =>
    have hinside (h : e ∈ children.select test (root :: above) ++ rest.select test above) :
        e ∈ (Forest.tree root children rest).elements ∧ ∃ above', test above' e = true := by
      rcases List.mem_append.mp h with h | h
      · obtain ⟨hmem, hfits⟩ := ih₁ h
        exact ⟨List.mem_cons_of_mem _ (List.mem_append_left _ hmem), hfits⟩
      · obtain ⟨hmem, hfits⟩ := ih₂ h
        exact ⟨List.mem_cons_of_mem _ (List.mem_append_right _ hmem), hfits⟩
    rw [Forest.select] at h
    split at h
    · next hroot =>
      rcases List.mem_cons.mp h with rfl | h
      · exact ⟨List.mem_cons_self, above, hroot⟩
      · exact hinside h
    · exact hinside h

theorem Forest.mem_of_below? {n : Nat} {f below : Forest} (h : f.below? n = some below)
    {e : Element} (he : e ∈ below.elements) : e ∈ f.elements := by
  induction f with
  | empty => cases h
  | tree root children rest ih₁ ih₂ =>
    rw [Forest.below?] at h
    split at h
    · cases h
      exact List.mem_cons_of_mem _ (List.mem_append_left _ he)
    · rcases Option.or_eq_some_iff.mp h with h | ⟨-, h⟩
      · exact List.mem_cons_of_mem _ (List.mem_append_left _ (ih₁ h))
      · exact List.mem_cons_of_mem _ (List.mem_append_right _ (ih₂ h))

/-- What a toggle finds is an element of the document, and a field. -/
theorem mem_of_fieldBeside? (h : d.fieldBeside? icon = some field) :
    field ∈ d.elements ∧ field.isField = true := by
  obtain ⟨parent, -, hselect⟩ := Option.bind_eq_some_iff.mp h
  obtain ⟨hmem, above, hfits⟩ := Forest.mem_of_mem_select (List.mem_of_head? hselect)
  rw [passwordFields_fits] at hfits
  refine ⟨?_, hfits⟩
  rw [Document.below] at hmem
  cases htree : d.tree.below? parent.number with
  | some below =>
    rw [htree] at hmem
    exact List.mem_append_left _ (Forest.mem_of_below? htree hmem)
  | none =>
    rw [htree] at hmem
    cases hdetached : d.detached.below? parent.number with
    | some below =>
      rw [hdetached] at hmem
      exact List.mem_append_right _ (Forest.mem_of_below? hdetached hmem)
    | none =>
      rw [hdetached] at hmem
      cases hmem

end Beside

/-! ### Elements at rest -/

/-- The classes of the icon of a toggle. -/
def iconClasses : List String := ["eye", "slash"]

/-- Settings that mark hidden and busy elements by other classes than those of icons. -/
structure IsCalm (config : Config) : Prop where
  hidden : config.text .hiddenClass ∉ iconClasses
  busy : config.text .busyClass ∉ iconClasses

instance (config : Config) : Decidable (IsCalm config) :=
  decidable_of_iff
    (config.text .hiddenClass ∉ iconClasses ∧ config.text .busyClass ∉ iconClasses)
    ⟨fun h => ⟨h.1, h.2⟩, fun h => ⟨h.hidden, h.busy⟩⟩

/-- Nothing was toggled: the field has its type, and the icon has its classes if the settings leave
those alone. -/
structure Rests (icon field : Nat) (calm : Prop) (e e' : Element) : Prop where
  steady : e.Steady e'
  type : e.number = field → e'.attribute? "type" = e.attribute? "type"
  classes : calm → e.number = icon → ∀ name ∈ iconClasses, (name ∈ e'.classes ↔ name ∈ e.classes)

section Rests

variable {icon field n : Nat} {calm : Prop} {e e' : Element} {name : String} {config : Config}

theorem isLikeness_rests (icon field : Nat) (calm : Prop) : IsLikeness (Rests icon field calm) where
  refl e := ⟨isLikeness_steady.refl e, fun _ => rfl, fun _ _ _ _ => Iff.rfl⟩
  trans := by
    intro e e' e'' h h'
    have hnumber := h.steady.number
    refine ⟨isLikeness_steady.trans h.steady h'.steady, fun hn => ?_, fun hc hn name hname => ?_⟩
    · exact (h'.type (hnumber.trans hn)).trans (h.type hn)
    · exact (h'.classes hc (hnumber.trans hn) name hname).trans (h.classes hc hn name hname)
  number h := h.steady.number

theorem rests_of_reclassed (h : e.Reclassed e')
    (hclasses : calm → e.number = icon →
      ∀ name ∈ iconClasses, (name ∈ e'.classes ↔ name ∈ e.classes)) :
    Rests icon field calm e e' := by
  have htype := h.attribute? "type" (by decide)
  refine ⟨⟨h.number, h.faults, fun hm => ?_, isField_congr h.tag htype⟩, fun _ => htype, hclasses⟩
  rwa [Element.isClaimed_eq, h.attribute? _ (by decide)]

theorem rests_of_attributes (hnumber : e'.number = e.number) (htag : e'.tag = e.tag)
    (hfaults : e'.faults = e.faults) (hmark : e.isClaimed = true → e'.isClaimed = true)
    (hattributes : ∀ name ∈ ["type", "class"], e'.attribute? name = e.attribute? name) :
    Rests icon field calm e e' := by
  have htype := hattributes "type" (by decide)
  have hclasses : e'.classes = e.classes := by
    rw [Element.classes, hattributes "class" (by decide), Element.classes]
  refine ⟨⟨hnumber, hfaults, hmark, isField_congr htag htype⟩, fun _ => htype, ?_⟩
  intro _ _ name _
  rw [hclasses]

/-- Classes other than those of icons may be changed. -/
theorem mayClass_rests (h : calm → name ∉ iconClasses) :
    MayClass (Likens (Rests icon field calm)) name := by
  refine fun n => ⟨fun e e' _ he' => ?_, fun e e' _ he' => ?_⟩
  · refine rests_of_reclassed (Element.reclassed_of_addClass he') fun hc _ other hother => ?_
    rw [Element.mem_classes_of_addClass he']
    exact or_iff_right fun hsame => h hc (hsame ▸ hother)
  · refine rests_of_reclassed (Element.reclassed_of_removeClass he') fun hc _ other hother => ?_
    rw [Element.mem_classes_of_removeClass he']
    exact and_iff_right fun hsame => h hc (hsame ▸ hother)

/-- On other elements than the icon, every class may be changed. -/
theorem likens_rests_class (h : n ≠ icon) (name : String) :
    Likens (Rests icon field calm) n (·.addClass name) ∧
      Likens (Rests icon field calm) n (·.removeClass name) := by
  refine ⟨fun e e' hn he' => ?_, fun e e' hn he' => ?_⟩
  · exact rests_of_reclassed (Element.reclassed_of_addClass he') fun _ hicon =>
      absurd (hn.symm.trans hicon) h
  · exact rests_of_reclassed (Element.reclassed_of_removeClass he') fun _ hicon =>
      absurd (hn.symm.trans hicon) h

/-- An attribute that has nothing to do with toggles may be written. -/
theorem likens_rests_write (hname : asciiLowerText name = name)
    (hother : name ∉ ["type", "class", "data-initialized"]) (n : Nat) :
    MayWrite (Likens (Rests icon field calm)) name n := by
  intro value e e' _ he'
  rw [setAttribute_eq_ok hname he']
  refine rests_of_attributes rfl rfl rfl (fun hm => ?_) fun other hmem => ?_
  · rwa [Element.isClaimed_withAttribute]
    rintro rfl
    exact hother (by decide)
  · rw [Element.attribute?_withAttribute, if_neg]
    rintro rfl
    simp_all

theorem likens_rests_enable (n : Nat) :
    Likens (Rests icon field calm) n (·.removeAttribute "disabled") := by
  intro e e' _ he'
  rw [eq_of_guarded he']
  have hkept {other : String} (h : other ≠ "disabled") :
      Element.attribute? { e with attributes := dropEntry "disabled" e.attributes } other
        = e.attribute? other := (lookup_dropEntry _ _ _).trans (if_neg h)
  refine rests_of_attributes rfl rfl rfl (fun hm => ?_) fun other hmem => hkept ?_
  · rwa [Element.isClaimed_eq, hkept (by decide)]
  · rintro rfl
    simp at hmem

theorem likens_rests_mark (n : Nat) :
    Likens (Rests icon field calm) n (·.setData claimEntry claimMark) := by
  intro e e' _ he'
  have hclaimed := Element.isClaimed_of_setData he'
  rw [Element.setData_claim_eq_ok he'] at hclaimed ⊢
  refine rests_of_attributes rfl rfl rfl (fun _ => hclaimed) fun other hmem => ?_
  rw [Element.attribute?_withAttribute, if_neg]
  rintro rfl
  simp at hmem

theorem mayPhoto_rests (icon field : Nat) (calm : Prop) :
    MayPhoto (Likens (Rests icon field calm)) := by
  have hstyle {style : List (String × String)} (e : Element) :
      Rests icon field calm e { e with style } :=
    rests_of_attributes rfl rfl rfl id fun _ _ => rfl
  refine ⟨fun n => ⟨fun e e' _ he' => ?_, fun e e' _ he' => ?_⟩, fun n e e' _ he' => ?_,
    fun n checked e e' _ he' => ?_⟩
  · rw [eq_of_guarded he']
    exact hstyle e
  · rw [eq_of_guarded he']
    exact hstyle e
  · cases he'
    exact rests_of_attributes rfl rfl rfl id fun _ _ => rfl
  · cases he'
    exact rests_of_attributes rfl rfl rfl id fun _ _ => rfl

theorem mayServe_rests (h : calm → IsCalm config) :
    MayServe (Likens (Rests icon field calm)) config where
  hide := mayClass_rests fun hc => (h hc).hidden
  busy := mayClass_rests fun hc => (h hc).busy
  disable n := likens_rests_write (by decide +kernel) (by decide) n
  enable n := likens_rests_enable n

end Rests

end Passkey.Browser
