/-
Passkey/Proofs/Browser/Photo.lean

What a page shows of a photo.

A state of the photo says how elements have to be: which ones are displayed,
which boxes are ticked, which fields are empty (`Element.Fits`).  A page shows
a state if all its elements are as that has them (`Document.Shows`).  Showing a
state changes four groups of elements one after the other.  Each change does
its group and spares what the others are about, so in the end everything in the
page is as it should be, however many elements there are (`shows_showPhoto`).

Whatever else the page does leaves the photo alone (`PhotoKin`), unless the
settings use the classes of photos for something else.
-/
import Passkey.Proofs.Browser.Passing

namespace Passkey.Browser

open Text Widget

/-! ### What belongs to a photo -/

/-- The classes of photos: what shows one and what stands in its place, the fields that pick one,
the boxes and the icons that delete it. -/
def photoClasses : List String :=
  ["photo-content", "photo-placeholder", Role.photoField.className, "photo-delete-button",
    Role.photoDelete.className]

namespace Element

/-- Whether an element of the page's language bears a class. -/
def bears (e : Element) (name : String) : Bool :=
  e.isHtml && e.classes.contains name

/-- Whether the style of an element can be changed. -/
def isStylable (e : Element) : Bool :=
  !e.faults.contains .style

/-- Whether an element is displayed, as far as its own style goes. -/
def isDisplayed (e : Element) : Bool :=
  e.style.lookup "display" != some "none"

/-- Whether an element shows the photo. -/
def isPhoto (e : Element) : Bool :=
  e.bears "photo-content"

/-- Whether an element stands in the place of a photo. -/
def isPlaceholder (e : Element) : Bool :=
  e.bears "photo-placeholder"

/-- Whether an element is a field that picks photos. -/
def isPhotoField (e : Element) : Bool :=
  e.bears Role.photoField.className

/-- Whether an element is a box that is submitted to delete the photo. -/
def isDeleteBox (e : Element) : Bool :=
  e.bears "photo-delete-button" && e.isInput

/-- An element is as a state of the photo has it.  One that shows the photo and stands in its place
at once is as a placeholder has to be, and of one that refuses styles no page can choose whether it
is displayed. -/
structure Fits (s : PhotoState) (e : Element) : Prop where
  photo : e.isPhoto = true → e.isPlaceholder = false → e.isStylable = true →
    e.isDisplayed = s.contentVisible
  placeholder : e.isPlaceholder = true → e.isStylable = true →
    e.isDisplayed = s.placeholderVisible
  box : e.isDeleteBox = true → e.checked = s.deleteChecked
  field : s.clearsField = true → e.isPhotoField = true → e.firstFile? = none

end Element

/-- A page shows a state of the photo. -/
def Document.Shows (d : Document) (s : PhotoState) : Prop :=
  ∀ e ∈ d.tree.elements, e.Fits s

/-- The elements of the page's language with a class. -/
theorem Document.selectHtml_ofClass (d : Document) (name : String) :
    d.selectHtml (ofClass name) = d.tree.elements.filter (·.bears name) := by
  rw [selectHtml, select_ofClass, List.filter_filter]
  rfl

/-! ### What leaves a photo alone -/

/-- An element belongs to the photo in the same way as before.  If the photo is left alone, it is
displayed, ticked and filled as before, too. -/
structure PhotoKin (still : Prop) (e e' : Element) : Prop where
  number : e'.number = e.number
  tag : e'.tag = e.tag
  faults : e'.faults = e.faults
  classes : ∀ name ∈ photoClasses, (name ∈ e'.classes ↔ name ∈ e.classes)
  still : still → e'.style = e.style ∧ e'.checked = e.checked ∧ e'.firstFile? = e.firstFile?

/-- Settings that mark hidden and busy elements by other classes than those of photos. -/
structure SparesPhotos (config : Config) : Prop where
  hidden : config.text .hiddenClass ∉ photoClasses
  busy : config.text .busyClass ∉ photoClasses

instance (config : Config) : Decidable (SparesPhotos config) :=
  decidable_of_iff
    (config.text .hiddenClass ∉ photoClasses ∧ config.text .busyClass ∉ photoClasses)
    ⟨fun h => ⟨h.1, h.2⟩, fun h => ⟨h.hidden, h.busy⟩⟩

section Kin

variable {still : Prop} {e e' : Element} {name : String} {s : PhotoState} {d d' : Document}
  {config : Config}

theorem isLikeness_photoKin (still : Prop) : IsLikeness (PhotoKin still) where
  refl _ := ⟨rfl, rfl, rfl, fun _ _ => Iff.rfl, fun _ => ⟨rfl, rfl, rfl⟩⟩
  trans := by
    intro e e' e'' h h'
    refine ⟨h'.number.trans h.number, h'.tag.trans h.tag, h'.faults.trans h.faults,
      fun name hname => (h'.classes name hname).trans (h.classes name hname), fun hstill => ?_⟩
    obtain ⟨hstyle, hchecked, hfile⟩ := h.still hstill
    obtain ⟨hstyle', hchecked', hfile'⟩ := h'.still hstill
    exact ⟨hstyle'.trans hstyle, hchecked'.trans hchecked, hfile'.trans hfile⟩
  number h := h.number

theorem PhotoKin.mono {still' : Prop} (h : PhotoKin still e e') (hstill : still' → still) :
    PhotoKin still' e e' :=
  ⟨h.number, h.tag, h.faults, h.classes, fun h' => h.still (hstill h')⟩

theorem PhotoKin.bears (h : PhotoKin still e e') (hname : name ∈ photoClasses) :
    e'.bears name = e.bears name := by
  have hclass : e'.classes.contains name = e.classes.contains name := by
    rw [Bool.eq_iff_iff, List.contains_iff_mem, List.contains_iff_mem]
    exact h.classes name hname
  rw [Element.bears, hclass, Element.isHtml, Element.hasTag, h.tag]
  rfl

theorem PhotoKin.isPhoto (h : PhotoKin still e e') : e'.isPhoto = e.isPhoto :=
  h.bears (by decide)

theorem PhotoKin.isPlaceholder (h : PhotoKin still e e') : e'.isPlaceholder = e.isPlaceholder :=
  h.bears (by decide)

theorem PhotoKin.isPhotoField (h : PhotoKin still e e') : e'.isPhotoField = e.isPhotoField :=
  h.bears (by decide)

theorem PhotoKin.isStylable (h : PhotoKin still e e') : e'.isStylable = e.isStylable := by
  rw [Element.isStylable, h.faults]
  rfl

/-- What leaves the photo alone leaves elements as a state has them. -/
theorem Element.Fits.of_kin (h : e.Fits s) (hkin : PhotoKin True e e') : e'.Fits s := by
  have hbox : e'.bears "photo-delete-button" = e.bears "photo-delete-button" :=
    hkin.bears (by decide)
  have hinput : e'.isInput = e.isInput := by rw [isInput, hasTag, hkin.tag]; rfl
  obtain ⟨hstyle, hchecked, hfile⟩ := hkin.still trivial
  have hdisplayed : e'.isDisplayed = e.isDisplayed := by rw [isDisplayed, hstyle]; rfl
  refine ⟨fun hphoto hno hstylable => ?_, fun hplace hstylable => ?_, fun htick => ?_,
    fun hclears hfield => ?_⟩
  · rw [hkin.isPhoto] at hphoto
    rw [hkin.isPlaceholder] at hno
    rw [hkin.isStylable] at hstylable
    exact hdisplayed.trans (h.photo hphoto hno hstylable)
  · rw [hkin.isPlaceholder] at hplace
    rw [hkin.isStylable] at hstylable
    exact hdisplayed.trans (h.placeholder hplace hstylable)
  · rw [isDeleteBox, hbox, hinput] at htick
    exact hchecked.trans (h.box htick)
  · rw [hkin.isPhotoField] at hfield
    exact hfile.trans (h.field hclears hfield)

theorem Document.Shows.thins (h : d.Shows s) (hthins : d.Thins (PhotoKin True) d') :
    d'.Shows s := by
  intro e' he'
  obtain ⟨e, he, hkin⟩ := hthins.page e' he'
  exact (h e he).of_kin hkin

theorem photoKin_of_attributes (hnumber : e'.number = e.number) (htag : e'.tag = e.tag)
    (hfaults : e'.faults = e.faults) (hclass : e'.attribute? "class" = e.attribute? "class")
    (hstill : still → e'.style = e.style ∧ e'.checked = e.checked ∧
      e'.firstFile? = e.firstFile?) : PhotoKin still e e' := by
  refine ⟨hnumber, htag, hfaults, fun name _ => ?_, hstill⟩
  rw [Element.classes, hclass, Element.classes]

/-- A field holds the same file if its tag, its type and its files are the same. -/
theorem firstFile?_congr (htag : e'.tag = e.tag)
    (htype : e'.attribute? "type" = e.attribute? "type") (hfiles : e'.files = e.files) :
    e'.firstFile? = e.firstFile? := by
  rw [Element.firstFile?, Element.isFileField, Element.isInput, Element.hasTag, htag, htype,
    hfiles]
  rfl

/-- Adding classes and taking them away changes neither style nor box nor files. -/
theorem photoKin_withClasses {cs : List String}
    (h : ∀ name ∈ photoClasses, (name ∈ (e.withClasses cs).classes ↔ name ∈ e.classes)) :
    PhotoKin still e (e.withClasses cs) := by
  have hre := Element.reclassed_withClasses e cs
  have hrest : (e.withClasses cs).style = e.style ∧ (e.withClasses cs).checked = e.checked ∧
      (e.withClasses cs).files = e.files := by
    obtain ⟨heq, -⟩ | heq := Element.withClasses_eq e cs
    · rw [heq]
      exact ⟨rfl, rfl, rfl⟩
    · rw [heq]
      exact ⟨rfl, rfl, rfl⟩
  obtain ⟨hstyle, hchecked, hfiles⟩ := hrest
  exact ⟨hre.number, hre.tag, hre.faults, h, fun _ => ⟨hstyle, hchecked,
    firstFile?_congr hre.tag (hre.attribute? "type" (by decide)) hfiles⟩⟩

/-- Classes other than those of photos may be changed. -/
theorem mayClass_photoKin (h : name ∉ photoClasses) :
    MayClass (Likens (PhotoKin still)) name := by
  refine fun n => ⟨fun e e' _ he' => ?_, fun e e' _ he' => ?_⟩
  · obtain ⟨-, -, rfl⟩ := Element.changeClass_eq_ok_iff.mp he'
    refine photoKin_withClasses fun other hother => ?_
    rw [Element.mem_classes_of_addClass he']
    refine or_iff_right ?_
    rintro rfl
    exact h hother
  · obtain ⟨-, -, rfl⟩ := Element.changeClass_eq_ok_iff.mp he'
    refine photoKin_withClasses fun other hother => ?_
    rw [Element.mem_classes_of_removeClass he']
    refine and_iff_right ?_
    rintro rfl
    exact h hother

/-- An attribute that has nothing to do with photos may be written. -/
theorem likens_photoKin_write (hname : asciiLowerText name = name)
    (hother : name ∉ ["type", "class"]) (n : Nat) :
    MayWrite (Likens (PhotoKin still)) name n := by
  intro value e e' _ he'
  rw [setAttribute_eq_ok hname he']
  have hkept {other : String} (h : other ∈ ["type", "class"]) :
      (e.withAttribute name value).attribute? other = e.attribute? other := by
    rw [Element.attribute?_withAttribute, if_neg]
    rintro rfl
    exact hother h
  exact photoKin_of_attributes rfl rfl rfl (hkept (by decide)) fun _ =>
    ⟨rfl, rfl, firstFile?_congr rfl (hkept (by decide)) rfl⟩

/-- Where a picture comes from may be changed. -/
theorem maySource_photoKin (n : Nat) : MayWrite (Likens (PhotoKin still)) "src" n :=
  likens_photoKin_write (by decide +kernel) (by decide) n

theorem likens_photoKin_enable (n : Nat) :
    Likens (PhotoKin still) n (·.removeAttribute "disabled") := by
  intro e e' _ he'
  rw [eq_of_guarded he']
  have hkept {other : String} (h : other ≠ "disabled") :
      Element.attribute? { e with attributes := dropEntry "disabled" e.attributes } other
        = e.attribute? other := (lookup_dropEntry _ _ _).trans (if_neg h)
  exact photoKin_of_attributes rfl rfl rfl (hkept (by decide)) fun _ =>
    ⟨rfl, rfl, firstFile?_congr rfl (hkept (by decide)) rfl⟩

theorem mayServe_photoKin (h : SparesPhotos config) :
    MayServe (Likens (PhotoKin still)) config where
  hide := mayClass_photoKin h.hidden
  busy := mayClass_photoKin h.busy
  disable n := likens_photoKin_write (by decide +kernel) (by decide) n
  enable n := likens_photoKin_enable n

theorem allowsText_photoKin (still : Prop) :
    AllowsText (Along (Document.Thins (PhotoKin still))) :=
  allowsText_thins (isLikeness_photoKin still) fun _ _ =>
    photoKin_of_attributes rfl rfl rfl rfl fun _ => ⟨rfl, rfl, rfl⟩

/-- What a toggle writes makes no field one for files. -/
theorem photoKin_withType (h : e.isField = true) (v : Visibility) :
    PhotoKin still e (e.withAttribute "type" v.inputType) := by
  have hclass : (e.withAttribute "type" v.inputType).attribute? "class" = e.attribute? "class" := by
    rw [Element.attribute?_withAttribute, if_neg (by decide)]
  refine photoKin_of_attributes rfl rfl rfl hclass fun _ => ⟨rfl, rfl, ?_⟩
  obtain ⟨-, value, hvalue, hsame⟩ := isField_iff.mp h
  -- a type that toggles know is not that of files
  have hold : e.isFileField = false := by
    rw [Element.isFileField, hvalue]
    refine Bool.and_eq_false_imp.mpr fun _ => beq_eq_false_iff_ne.mpr ?_
    rintro ⟨⟩
    revert hsame
    decide
  have hnew : (e.withAttribute "type" v.inputType).isFileField = false := by
    rw [Element.isFileField, Element.attribute?_withAttribute, if_pos rfl]
    refine Bool.and_eq_false_imp.mpr fun _ => ?_
    cases v <;> decide
  rw [Element.firstFile?, hnew, Element.firstFile?, hold]
  rfl

/-- What is done to a photo takes nothing into it and nothing out of it. -/
theorem mayPhoto_photoKin : MayPhoto (Likens (PhotoKin False)) := by
  refine ⟨fun n => ⟨fun e e' _ he' => ?_, fun e e' _ he' => ?_⟩, fun n e e' _ he' => ?_,
    fun n checked e e' _ he' => ?_⟩
  · rw [eq_of_guarded he']
    exact photoKin_of_attributes rfl rfl rfl rfl nofun
  · rw [eq_of_guarded he']
    exact photoKin_of_attributes rfl rfl rfl rfl nofun
  · cases he'
    exact photoKin_of_attributes rfl rfl rfl rfl nofun
  · cases he'
    exact photoKin_of_attributes rfl rfl rfl rfl nofun

end Kin

/-! ### Showing a state -/

/-- The operation that displays an element, or does not. -/
def display (displayed : Bool) (e : Element) : Except ScriptValue Element :=
  if displayed then e.removeStyle "display" else e.setStyle "display" "none"

namespace Element

/-- The element displayed, or not, if it bears a class. -/
def displayedIn (name : String) (displayed : Bool) (e : Element) : Element :=
  if e.bears name then e.after (display displayed) else e

/-- The element empty, if it is a field that picks photos. -/
def unpicked (e : Element) : Element :=
  if e.isPhotoField && e.isInput then e.emptied else e

/-- The element ticked, or not, if it is a box that deletes the photo. -/
def ticked (checked : Bool) (e : Element) : Element :=
  if e.isDeleteBox then { e with checked } else e

/-- The element after a state of the photo was shown. -/
def developed (s : PhotoState) (e : Element) : Element :=
  let displayed := (e.displayedIn "photo-content" s.contentVisible).displayedIn
    "photo-placeholder" s.placeholderVisible
  ticked s.deleteChecked (if s.clearsField then displayed.unpicked else displayed)

end Element

/-- An action that changes every element of the page in its place. -/
def Renders (g : Element → Element) (m : StateM Browser Unit) : Prop :=
  ∀ b : Browser, b.document.WellNumbered →
    (m.run b).2.document.WellNumbered ∧
      (m.run b).2.document.tree.elements = b.document.tree.elements.map g

section Show

variable {b : Browser} {g g' : Element → Element} {m m' : StateM Browser Unit} {e : Element}
  {name : String} {displayed : Bool} {s : PhotoState}

theorem Renders.seq (h : Renders g m) (h' : Renders g' m') :
    Renders (g' ∘ g) (m >>= fun _ => m') := by
  intro b hb
  obtain ⟨hb₁, hpage₁⟩ := h b hb
  obtain ⟨hb₂, hpage₂⟩ := h' (m.run b).2 hb₁
  rw [run_seq]
  exact ⟨hb₂, by rw [hpage₂, hpage₁, List.map_map]⟩

theorem Renders.congr (h : Renders g m) (hg : ∀ e, g e = g' e) : Renders g' m :=
  funext hg ▸ h

theorem number_after {operation : Operation}
    (hnumber : ∀ e e', operation e = .ok e' → e'.number = e.number) (e : Element) :
    (e.after operation).number = e.number := by
  rw [Element.after]
  split
  · next e' he' => exact hnumber e e' he'
  · rfl

/-- Doing something to several elements, one after the other. -/
theorem document_forM {operation : Operation} {action : Element → StateM Browser Unit}
    (hnumber : ∀ e e', operation e = .ok e' → e'.number = e.number)
    (haction : ∀ e b,
      ((action e).run b).2.document = ((change e.number operation).run b).2.document)
    {es : List Element} (h : b.document.WellNumbered)
    (hes : ∀ e ∈ es, e.number ∈ b.document.elements.map (·.number))
    (hnodup : (es.map (·.number)).Nodup) :
    ((es.forM action).run b).2.document
      = b.document.map fun x => if x.number ∈ es.map (·.number) then x.after operation else x := by
  induction es generalizing b with
  | nil => exact (Document.map_id _).symm
  | cons e rest ih =>
    obtain ⟨x₀, hx₀, hn⟩ := List.mem_map.mp (hes e List.mem_cons_self)
    obtain ⟨hfresh, hrest⟩ := List.nodup_cons.mp hnodup
    have hfirst : ((action e).run b).2.document
        = b.document.map fun x => if x.number = e.number then x.after operation else x := by
      rw [haction, ← hn]
      exact document_change operation h hx₀ fun e' he' => hnumber x₀ e' he'
    have hkeeps (x : Element) :
        (if x.number = e.number then x.after operation else x).number = x.number := by
      split
      · exact number_after hnumber x
      · rfl
    have hnumbered := h.map hkeeps
    rw [← hfirst] at hnumbered
    have hfound : ∀ e' ∈ rest,
        e'.number ∈ ((action e).run b).2.document.elements.map (·.number) := by
      intro e' he'
      obtain ⟨x, hx, hx'⟩ := List.mem_map.mp (hes e' (List.mem_cons_of_mem e he'))
      rw [hfirst, Document.elements_map, List.map_map]
      exact List.mem_map.mpr ⟨x, hx, (hkeeps x).trans hx'⟩
    have hforM : ((e :: rest).forM action).run b = (rest.forM action).run ((action e).run b).2 :=
      rfl
    rw [hforM, ih hnumbered hfound hrest, hfirst, Document.map_map]
    refine Document.map_congr fun x _ => ?_
    rw [Function.comp_apply, hkeeps, List.map_cons]
    by_cases hx : x.number = e.number
    · -- the numbers of the others are different
      rw [if_neg (hx ▸ hfresh), if_pos hx, if_pos (List.mem_cons.mpr (.inl hx))]
    · rw [if_neg hx]
      exact if_congr (List.mem_cons.trans (or_iff_right hx)).symm rfl rfl

/-- Doing something to the elements of the page that pass a test. -/
theorem renders_forM (p : Element → Bool) {operation : Operation}
    {action : Element → StateM Browser Unit}
    (hnumber : ∀ e e', operation e = .ok e' → e'.number = e.number)
    (haction : ∀ e b,
      ((action e).run b).2.document = ((change e.number operation).run b).2.document) :
    Renders (fun e => if p e then e.after operation else e)
      (get >>= fun b => (b.document.tree.elements.filter p).forM action) := by
  intro b hb
  have hsub : (b.document.tree.elements.filter p).Sublist b.document.elements :=
    List.filter_sublist.trans (List.sublist_append_left _ _)
  have hdocument := document_forM hnumber haction hb
    (fun e he => List.mem_map_of_mem (hsub.subset he)) (hb.nodup.sublist (hsub.map _))
  show (((b.document.tree.elements.filter p).forM action).run b).2.document.WellNumbered ∧
    (((b.document.tree.elements.filter p).forM action).run b).2.document.tree.elements = _
  rw [hdocument]
  refine ⟨hb.map fun x => ?_, ?_⟩
  · split
    · exact number_after hnumber x
    · rfl
  · rw [Document.map, Forest.elements_map]
    refine List.map_congr_left fun x hx => if_congr ⟨fun hn => ?_, fun hp => ?_⟩ rfl rfl
    · -- the number of an element that passes belongs to no other element
      obtain ⟨y, hy, hyx⟩ := List.mem_map.mp hn
      have hsame := List.inj_on_of_nodup_map hb.nodup (hsub.subset hy)
        (List.mem_append_left _ hx) hyx
      exact hsame ▸ (List.mem_filter.mp hy).2
    · exact List.mem_map_of_mem (List.mem_filter.mpr ⟨hx, hp⟩)

/-- Displaying the elements of a class, or not. -/
theorem renders_setClassDisplayed (name : String) (displayed : Bool) :
    Renders (Element.displayedIn name displayed) (setClassDisplayed name displayed) := by
  have hnumber : ∀ e e', display displayed e = .ok e' → e'.number = e.number := by
    intro e e' he'
    cases displayed
    · rw [eq_of_guarded he']
    · rw [eq_of_guarded he']
  have haction : ∀ e b, ((setDisplayed displayed e).run b).2.document
      = ((change e.number (display displayed)).run b).2.document := by
    intro e b
    have hdisplay : (fun e : Element =>
        if displayed then e.removeStyle "display" else e.setStyle "display" "none")
          = display displayed := rfl
    rw [setDisplayed, hdisplay, StateT.run_bind]
    generalize (change e.number (display displayed)).run b = changed
    obtain ⟨thrown, b'⟩ := changed
    cases thrown with
    | none => rfl
    | some v => exact document_log _ _ _ _ _
  have hrenders := renders_forM (·.bears name) hnumber haction
  simp only [← Document.selectHtml_ofClass] at hrenders
  exact hrenders

/-- What is done to the elements of a kind is done to those that a filter leaves. -/
theorem forM_ite (p : Element → Bool) (f : Element → StateM Browser Unit) (es : List Element) :
    (es.forM fun e => if p e then f e else pure ()) = (es.filter p).forM f := by
  induction es with
  | nil => rfl
  | cons e es ih =>
    have hcons (g : Element → StateM Browser Unit) :
        (e :: es).forM g = g e >>= fun _ => es.forM g := rfl
    rw [hcons, ih, List.filter_cons]
    split
    · rfl
    · exact pure_bind _ _

/-- Changes an element, whether that works or not. -/
def alter (operation : Element → Element) (e : Element) : StateM Browser Unit := do
  let _ ← change e.number fun e => .ok (operation e)

/-- Changing the inputs of a class. -/
theorem renders_changeInputs (name : String) {operation : Element → Element}
    (hnumber : ∀ e, (operation e).number = e.number) :
    Renders (fun e => if e.bears name && e.isInput then operation e else e)
      (changeInputs name operation) := by
  have hkeeps : ∀ e e', (Except.ok (operation e) : Except ScriptValue Element) = .ok e' →
      e'.number = e.number := by
    rintro e e' ⟨⟩
    exact hnumber e
  have halter : ∀ e b, ((alter operation e).run b).2.document
      = ((change e.number fun e => .ok (operation e)).run b).2.document := fun _ _ => rfl
  have hrenders := renders_forM (fun e => e.bears name && e.isInput) hkeeps halter
  have hinputs (d : Document) :
      (d.tree.elements.filter fun e => e.bears name && e.isInput).forM (alter operation)
        = (d.selectHtml (ofClass name)).forM fun e =>
            if e.isInput then alter operation e else pure () := by
    rw [forM_ite Element.isInput, Document.selectHtml_ofClass, List.filter_filter]
    exact congrArg (List.forM · (alter operation)) (List.filter_congr fun _ _ => Bool.and_comm _ _)
  simp only [hinputs] at hrenders
  exact hrenders

/-- **Showing a state** changes every element of the page by itself. -/
theorem renders_showPhoto (s : PhotoState) : Renders (Element.developed s) (showPhoto s) := by
  have hcontent := renders_setClassDisplayed "photo-content" s.contentVisible
  have hplace := renders_setClassDisplayed "photo-placeholder" s.placeholderVisible
  have hempty : Renders Element.unpicked (changeInputs Role.photoField.className Element.emptied) :=
    renders_changeInputs _ fun _ => rfl
  have htick : Renders (Element.ticked s.deleteChecked)
      (changeInputs "photo-delete-button" fun e => { e with checked := s.deleteChecked }) :=
    renders_changeInputs _ fun _ => rfl
  rw [showPhoto]
  cases hclears : s.clearsField with
  | true =>
    have hall := hcontent.seq (hplace.seq (hempty.seq htick))
    rw [if_pos rfl]
    refine hall.congr fun e => ?_
    simp [Element.developed, hclears]
  | false =>
    have hall := hcontent.seq (hplace.seq htick)
    rw [if_neg Bool.false_ne_true]
    refine hall.congr fun e => ?_
    simp [Element.developed, hclears]

theorem after_display (e : Element) (displayed : Bool) :
    e.after (display displayed)
      = if e.isStylable then
          { e with
            style := if displayed then dropEntry "display" e.style
              else putEntry "display" "none" e.style }
        else e := by
  rw [Element.after, Element.isStylable]
  cases displayed
  · rw [display, if_neg Bool.false_ne_true, Element.setStyle, Element.guarded]
    cases e.faults.contains .style <;> rfl
  · rw [display, if_pos rfl, Element.removeStyle, Element.guarded]
    cases e.faults.contains .style <;> rfl

/-- Displaying what bears a class changes the style of such elements at most. -/
theorem exists_displayedIn_eq (name : String) (displayed : Bool) (e : Element) :
    ∃ style, e.displayedIn name displayed = { e with style } ∧
      (e.bears name = true → e.isStylable = true →
        Element.isDisplayed { e with style } = displayed) ∧
      (e.bears name = false → style = e.style) := by
  rw [Element.displayedIn, after_display]
  cases e.bears name with
  | false => exact ⟨e.style, rfl, nofun, fun _ => rfl⟩
  | true =>
    cases e.isStylable with
    | false => exact ⟨e.style, rfl, nofun, nofun⟩
    | true =>
      refine ⟨_, rfl, fun _ _ => ?_, nofun⟩
      rw [Element.isDisplayed]
      cases displayed
      · rw [if_neg Bool.false_ne_true, lookup_putEntry, if_pos rfl]
        rfl
      · rw [if_pos rfl, lookup_dropEntry, if_pos rfl]
        rfl

/-- After both changes of displays a photo is displayed as a state has it, and so is what stands in
its place. -/
theorem exists_displayed_eq (s : PhotoState) (e : Element) :
    ∃ style, (e.displayedIn "photo-content" s.contentVisible).displayedIn "photo-placeholder"
        s.placeholderVisible = { e with style } ∧
      (e.isPhoto = true → e.isPlaceholder = false → e.isStylable = true →
        Element.isDisplayed { e with style } = s.contentVisible) ∧
      (e.isPlaceholder = true → e.isStylable = true →
        Element.isDisplayed { e with style } = s.placeholderVisible) := by
  obtain ⟨style₁, h₁, hshown₁, -⟩ :=
    exists_displayedIn_eq "photo-content" s.contentVisible e
  obtain ⟨style₂, h₂, hshown₂, hspared₂⟩ :=
    exists_displayedIn_eq "photo-placeholder" s.placeholderVisible { e with style := style₁ }
  rw [h₁]
  refine ⟨style₂, h₂, fun hphoto hno hstylable => ?_, hshown₂⟩
  -- the second change spares what is no placeholder
  rw [hspared₂ hno]
  exact hshown₁ hphoto hstylable

/-- No element holds a file if there is none in it, should it be an input. -/
theorem firstFile?_eq_none (h : e.isInput = true → e.files = []) : e.firstFile? = none := by
  rw [Element.firstFile?]
  split
  · next hfile => rw [h (Bool.and_eq_true_iff.mp hfile).1, List.head?_nil]
  · rfl

/-- Emptying fields changes what fields hold, and those of photos hold nothing then. -/
theorem exists_filled_eq (s : PhotoState) (e : Element) :
    ∃ value files, (if s.clearsField then e.unpicked else e) = { e with value, files } ∧
      (s.clearsField = true → e.isPhotoField = true → e.isInput = true → files = []) := by
  split
  · rw [Element.unpicked]
    split
    · exact ⟨"", [], rfl, fun _ _ _ => rfl⟩
    · next hother =>
      refine ⟨e.value, e.files, rfl, fun _ hfield hinput => absurd ?_ hother⟩
      rw [hfield, hinput]
      rfl
  · next hclears => exact ⟨e.value, e.files, rfl, fun h => absurd h hclears⟩

/-- Ticking boxes changes their ticks. -/
theorem exists_ticked_eq (checked : Bool) (e : Element) :
    ∃ checked', e.ticked checked = { e with checked := checked' } ∧
      (e.isDeleteBox = true → checked' = checked) := by
  rw [Element.ticked]
  split
  · exact ⟨checked, rfl, fun _ => rfl⟩
  · next hother => exact ⟨e.checked, rfl, fun h => absurd h hother⟩

/-- **Showing a state makes every element as the state has it.** -/
theorem fits_developed (s : PhotoState) (e : Element) : (e.developed s).Fits s := by
  obtain ⟨style, hdisplayed, hphoto, hplace⟩ := exists_displayed_eq s e
  obtain ⟨value, files, hfilled, hfiles⟩ := exists_filled_eq s { e with style }
  obtain ⟨checked, hticked, hbox⟩ := exists_ticked_eq s.deleteChecked { e with style, value, files }
  rw [Element.developed, hdisplayed, hfilled, hticked]
  refine ⟨hphoto, hplace, hbox, fun hclears hfield => ?_⟩
  exact firstFile?_eq_none (hfiles hclears hfield)

/-- **A page shows the state that was shown last.** -/
theorem shows_showPhoto (hb : b.document.WellNumbered) (s : PhotoState) :
    ((showPhoto s).run b).2.document.Shows s := by
  obtain ⟨-, hpage⟩ := renders_showPhoto s b hb
  intro e' he'
  rw [hpage] at he'
  obtain ⟨e, -, rfl⟩ := List.mem_map.mp he'
  exact fits_developed s e

end Show

end Passkey.Browser
