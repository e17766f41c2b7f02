/-
Passkey/Proofs/Browser/LastDecision.lean

The last decision about a photo counts.

A visitor uses the photo of a page: clicks delete it, picks of a file replace
it, and picks can be cancelled, which empties the field.  One use takes a page
that shows a state to a page that shows the state behind the use
(`PhotoKept.take`), whatever the order, so after any number of uses the page
shows the state of the last deletion or pick (`photo_follows_last_decision`).
In particular the mark that deletes the photo is never submitted together with
a new one.

Displays follow the state only where an element is either a photo or stands in
the place of one, and as long as the page has no other use for the classes of
photos (`photo_beside_placeholder`).
-/
import Passkey.Proofs.Browser.Decisions

namespace Passkey.Widget

/-! ### The last of several events -/

/-- The state that an event decides for, if it is a decision. -/
def PhotoEvent.decision? : PhotoEvent → Option PhotoState
  | delete => some .removed
  | pick => some .previewing
  | cancel => none

/-- The state that the last delete or pick decides for; there is none before the first one. -/
def lastDecision (events : List PhotoEvent) : Option PhotoState :=
  (events.filterMap PhotoEvent.decision?).getLast?

theorem PhotoEvent.apply_eq (state : Option PhotoState) (e : PhotoEvent) :
    e.apply state = e.decision?.or state := by
  cases e <;> rfl

theorem lastDecision_cons (e : PhotoEvent) (events : List PhotoEvent) :
    lastDecision (e :: events) = (lastDecision events).or e.decision? := by
  rw [lastDecision, List.filterMap_cons, lastDecision]
  cases e.decision? with
  | none => exact (Option.or_none).symm
  | some s =>
    rw [List.getLast?_cons]
    cases (events.filterMap PhotoEvent.decision?).getLast? <;> rfl

/-- **The state after several events** is that of the last decision. -/
theorem foldl_apply (state : Option PhotoState) (events : List PhotoEvent) :
    events.foldl PhotoEvent.apply state = (lastDecision events).or state := by
  induction events generalizing state with
  | nil => rfl
  | cons e events ih =>
    rw [List.foldl_cons, ih, lastDecision_cons, PhotoEvent.apply_eq, Option.or_assoc]

end Passkey.Widget

namespace Passkey.Browser

open Widget

/-! ### Using the photo of a page -/

/-- Whether an element is a box that a click ticks, unless the click is taken back. -/
def Element.isTickable (e : Element) : Bool :=
  e.isInput && ["checkbox", "radio"].any (Text.sameAscii ((e.attribute? "type").getD ""))

/-- What a visitor does to the photo. -/
inductive PhotoUse where
  /-- A click at an element, which lies inside an icon that deletes the photo or is one. -/
  | delete (now : Option Float) (n : Nat)
  /-- One or more files are picked in a field. -/
  | pick (now : Option Float) (field : Nat) (file : String) (files : List String) (value : String)
  /-- A pick is cancelled, and the field is empty. -/
  | cancel (now : Option Float) (field : Nat) (value : String)

/-- A field gets files, and its change is told. -/
def refill (now : Option Float) (field : Nat) (files : List String) (value : String) :
    List Happening :=
  [.step now (.fill (.number field) files value),
    .step none (.event (.number field) "change" none .undefined)]

namespace PhotoUse

/-- What a use is to the photo. -/
def event : PhotoUse → PhotoEvent
  | delete _ _ => .delete
  | pick _ _ _ _ _ => .pick
  | cancel _ _ _ => .cancel

/-- What happens to the page by a use. -/
def happenings : PhotoUse → List Happening
  | delete now n => [.step now (.event (.number n) "click" none .undefined)]
  | pick now field file files value => refill now field (file :: files) value
  | cancel now field value => refill now field [] value

/-- The browser after a use. -/
def take (b : Browser) (u : PhotoUse) : Browser :=
  b.after u.happenings

/-- A use suits a page: the click passes an icon of the page that deletes the photo, or the field
is one of the page that picks photos.  What is clicked is not a box that the click itself ticks. -/
def Suits (b : Browser) : PhotoUse → Prop
  | delete _ n =>
    (∃ e ∈ b.document.selectHtml (ofClass Role.photoDelete.className),
      .element e.number ∈ route b.document "click" (.element n)) ∧
      ∀ e ∈ b.document.elements, e.number = n → e.isTickable = false
  | pick _ field _ _ _ =>
    ∃ e ∈ b.document.selectHtml (ofClass Role.photoField.className),
      e.number = field ∧ e.isFileField = true
  | cancel _ field _ =>
    ∃ e ∈ b.document.selectHtml (ofClass Role.photoField.className), e.number = field

instance (b : Browser) : (u : PhotoUse) → Decidable (u.Suits b)
  | delete _ _ => inferInstanceAs (Decidable ((∃ e ∈ _, _) ∧ ∀ e ∈ b.document.elements, _))
  | pick _ _ _ _ _ => inferInstanceAs (Decidable (∃ e ∈ _, _))
  | cancel _ _ _ => inferInstanceAs (Decidable (∃ e ∈ _, _))

end PhotoUse

/-- The browser after uses of the photo. -/
def afterPhotoUses (b : Browser) (uses : List PhotoUse) : Browser :=
  uses.foldl PhotoUse.take b

/-- Every use suits the page at the moment when it comes. -/
def EachPhotoUseSuits (b : Browser) : List PhotoUse → Prop
  | [] => True
  | u :: rest => u.Suits b ∧ (u.take b).EachPhotoUseSuits rest

instance decidableEachPhotoUseSuits (b : Browser) :
    (uses : List PhotoUse) → Decidable (b.EachPhotoUseSuits uses)
  | [] => inferInstanceAs (Decidable True)
  | u :: rest =>
    have := decidableEachPhotoUseSuits (u.take b) rest
    inferInstanceAs (Decidable (u.Suits b ∧ (u.take b).EachPhotoUseSuits rest))

/-- A page whose photo is bound: every icon that deletes it and every field that picks one has its
listener. -/
structure BoundPhoto (b : Browser) : Prop where
  document : b.surroundings.hasDocument = true
  icons : ∀ e ∈ b.document.selectHtml (ofClass Role.photoDelete.className),
    b.DecidesAt (.element e.number) .removed
  fields : ∀ e ∈ b.document.selectHtml (ofClass Role.photoField.className),
    b.DecidesAt (.element e.number) .previewing

instance (b : Browser) : Decidable b.BoundPhoto :=
  decidable_of_iff
    (b.surroundings.hasDocument = true ∧
      (∀ e ∈ b.document.selectHtml (ofClass Role.photoDelete.className),
        b.DecidesAt (.element e.number) .removed) ∧
      ∀ e ∈ b.document.selectHtml (ofClass Role.photoField.className),
        b.DecidesAt (.element e.number) .previewing)
    ⟨fun h => ⟨h.1, h.2.1, h.2.2⟩, fun h => ⟨h.document, h.icons, h.fields⟩⟩

/-- A page whose photo is bound, and that can display it: no element shows the photo and stands in
its place at once, styles can be changed, and the settings of ceremonies use the classes of photos
for nothing else. -/
structure HasPhoto (b : Browser) : Prop extends b.BoundPhoto where
  apart : ∀ e ∈ b.document.tree.elements, e.isPhoto = true → e.isPlaceholder = false
  styles : ∀ e ∈ b.document.tree.elements, e.isPhoto = true ∨ e.isPlaceholder = true →
    e.isStylable = true
  settings : ∀ config ∈ b.offers.map (·.config), SparesPhotos config

instance (b : Browser) : Decidable b.HasPhoto :=
  decidable_of_iff
    (b.BoundPhoto ∧
      (∀ e ∈ b.document.tree.elements, e.isPhoto = true → e.isPlaceholder = false) ∧
      (∀ e ∈ b.document.tree.elements, e.isPhoto = true ∨ e.isPlaceholder = true →
        e.isStylable = true) ∧
      ∀ config ∈ b.offers.map Offer.config, SparesPhotos config)
    ⟨fun h => ⟨h.1, h.2.1, h.2.2.1, h.2.2.2⟩,
      fun h => ⟨h.toBoundPhoto, h.apart, h.styles, h.settings⟩⟩

/-- A page with a photo that shows a state, if there was a decision. -/
structure PhotoKept (state : Option PhotoState) (b : Browser) : Prop where
  sound : b.Sound
  photo : b.HasPhoto
  shows : ∀ s, state = some s → b.document.Shows s

section Kept

variable {still : Prop} {state : Option PhotoState} {s : PhotoState} {b b' : Browser} {d : Document}
  {target : Target} {place : Place} {isReady : Document → Prop} {e : Element} {n : Nat}

theorem HasPhoto.along (h : b.HasPhoto) (hb : b.document.WellNumbered)
    (halong : Along (Document.Thins (PhotoKin still)) b b') : b'.HasPhoto := by
  obtain ⟨hthins, -, haround⟩ := halong hb
  have hbound {name : String} {s : PhotoState} (hname : name ∈ photoClasses)
      (hall : ∀ e ∈ b.document.selectHtml (ofClass name), b.DecidesAt (.element e.number) s) :
      ∀ e ∈ b'.document.selectHtml (ofClass name), b'.DecidesAt (.element e.number) s := by
    intro e' he'
    rw [Document.selectHtml_ofClass, List.mem_filter] at he'
    obtain ⟨e, he, hkin⟩ := hthins.page e' he'.1
    rw [DecidesAt, haround.listeners, hkin.number]
    refine hall e ?_
    rw [Document.selectHtml_ofClass, List.mem_filter, ← hkin.bears hname]
    exact ⟨he, he'.2⟩
  refine ⟨⟨haround.surroundings ▸ h.document, hbound (by decide) h.icons,
    hbound (by decide) h.fields⟩, fun e' he' => ?_, fun e' he' => ?_, haround.offers ▸ h.settings⟩
  · obtain ⟨e, he, hkin⟩ := hthins.page e' he'
    rw [hkin.isPhoto, hkin.isPlaceholder]
    exact h.apart e he
  · obtain ⟨e, he, hkin⟩ := hthins.page e' he'
    rw [hkin.isPhoto, hkin.isPlaceholder, hkin.isStylable]
    exact h.styles e he

/-- What leaves the photo alone keeps it. -/
theorem PhotoKept.along (h : PhotoKept state b)
    (halong : Along (Document.Thins (PhotoKin True)) b b') : PhotoKept state b' :=
  ⟨h.sound.along halong, h.photo.along h.sound.numbered halong,
    fun s hs => (h.shows s hs).thins (halong h.sound.numbered).1⟩

/-- Tasks leave the photo alone. -/
theorem settle_thins (hb : b.document.WellNumbered) (h : b.HasPhoto) :
    Along (Document.Thins (PhotoKin True)) b ((settle).run b).2 :=
  settle_along (isFrame_thins (isLikeness_photoKin True))
    (.refl (isLikeness_photoKin True)) (allowsText_photoKin True) hb
    fun config hconfig => mayServe_photoKin (h.settings config hconfig)

theorem PhotoKept.settle (h : PhotoKept state b) : PhotoKept state ((Browser.settle).run b).2 :=
  h.along (settle_thins h.sound.numbered h.photo)

/-- At the beginning of a step the time is told. -/
theorem PhotoKept.clock (h : PhotoKept state b) (clock : Float) :
    PhotoKept state { b with clock, calls := [] } :=
  ⟨⟨h.sound.numbered, h.sound.made⟩, ⟨⟨h.photo.document, h.photo.icons, h.photo.fields⟩,
    h.photo.apart, h.photo.styles, h.photo.settings⟩, h.shows⟩

/-! ### Events -/

/-- The type of the event by which a decision is told. -/
def decisionType : PhotoState → String
  | .removed => "click"
  | .previewing => "change"

theorem not_isLoading_decisionType (s : PhotoState) : ¬ IsLoading (decisionType s) := by
  cases s
  · rintro (h | h) <;> simp [decisionType] at h
  · rintro (h | h) <;> simp [decisionType] at h

/-- Whoever decides for a state hears the events by which that is told. -/
theorem exists_hearing_of_decidesAt (h : b.Sound) (hdecides : b.DecidesAt place s) :
    ∃ l ∈ b.listeners.filter (·.hears place (decisionType s)), l.handler.decides? = some s := by
  obtain ⟨⟨there, type, k⟩, hl, rfl, hk⟩ := hdecides
  have hevent := (h.made _ hl).event
  refine ⟨_, List.mem_filter.mpr ⟨hl, ?_⟩, hk⟩
  rw [Listener.hears, Bool.and_eq_true, beq_self_eq_true, beq_iff_eq]
  refine ⟨rfl, ?_⟩
  dsimp only at hk hevent ⊢
  cases k
  case deletePhoto =>
    cases Option.some.inj hk
    exact List.mem_singleton.mp hevent
  case previewPhoto =>
    cases Option.some.inj hk
    exact List.mem_singleton.mp hevent
  all_goals cases hk

/-- **A decision on its way**: somebody on the way makes it, and the page shows its state. -/
theorem PhotoKept.dispatch (h : PhotoKept state b)
    (hguides : Guides (decisionType s) place s isReady) (hready : isReady b.document)
    (hdecides : ∃ there ∈ route b.document (decisionType s) place, b.DecidesAt there s)
    (key : Option String) (detail : ScriptValue) :
    PhotoKept (some s) ((Browser.dispatch place (decisionType s) key detail).run b).2 := by
  have hled := dispatch_leads hguides h.sound (not_isLoading_decisionType s) key detail
  obtain ⟨there, hthere, hat⟩ := hdecides
  have hmade := exists_hearing_of_decidesAt h.sound hat
  obtain ⟨hleads, -, -⟩ := hled h.sound.numbered
  refine ⟨h.sound.along hled, h.photo.along h.sound.numbered (hled.mono fun h => h.thins), ?_⟩
  rintro s ⟨⟩
  exact hleads.shows hready (.inl ⟨there, hthere, hmade⟩)

/-- **A cancelled pick on its way** changes nothing. -/
theorem PhotoKept.dispatch_cancel (h : PhotoKept state b)
    (hempty : b.document.fileAt? place = none) (key : Option String) (detail : ScriptValue) :
    PhotoKept state ((Browser.dispatch place "change" key detail).run b).2 ∧
      ((Browser.dispatch place "change" key detail).run b).2.document = b.document := by
  have hled := dispatch_leads (guides_cancel hempty) h.sound
    (not_isLoading_decisionType .previewing) key detail
  obtain ⟨hleads, -, -⟩ := hled h.sound.numbered
  have hsame := hleads.ready rfl
  refine ⟨⟨h.sound.along hled, h.photo.along h.sound.numbered (hled.mono fun h => h.thins),
    fun s hs => ?_⟩, hsame⟩
  rw [hsame]
  exact h.shows s hs

/-- An event at a place, with the tasks behind it. -/
theorem step_event (hplace : b.place? target = some place) (now : Option Float) (type : String)
    (key : Option String) (detail : ScriptValue) :
    (step now (.event target type key detail) b).2
      = ((settle).run ((dispatch place type key detail).run
          { b with clock := now.getD b.clock, calls := [] }).2).2 := by
  have hact : ((act (.event target type key detail)).run
      { b with clock := now.getD b.clock, calls := [] }).2
        = ((dispatch place type key detail).run
          { b with clock := now.getD b.clock, calls := [] }).2 := by
    have hplace : place? { b with clock := now.getD b.clock, calls := [] } target = some place :=
      hplace
    rw [act, atTarget, StateT.run_bind, StateT.run_get, pure_bind, hplace]
    dsimp only
    rw [run_then]
    rfl
  have hstep : (step now (.event target type key detail) b).2
      = ((settle).run ((act (.event target type key detail)).run
          { b with clock := now.getD b.clock, calls := [] }).2).2 := rfl
  rw [hstep, hact]

theorem place?_number (h : b.HasPhoto) (hb : b.document.WellNumbered)
    (he : e ∈ b.document.elements) : b.place? (.number e.number) = some (.element e.number) := by
  rw [place?, if_pos h.document, Document.element?_number hb he]
  rfl

/-! ### Filling a field -/

/-- An element that is displayed and ticked as before. -/
structure Element.LooksSame (e e' : Element) : Prop where
  number : e'.number = e.number
  style : e'.style = e.style
  checked : e'.checked = e.checked

theorem isLikeness_looksSame : IsLikeness Element.LooksSame where
  refl _ := ⟨rfl, rfl, rfl⟩
  trans h h' := ⟨h'.number.trans h.number, h'.style.trans h.style, h'.checked.trans h.checked⟩
  number h := h.number

theorem PhotoKin.looksSame {e' : Element} (h : PhotoKin True e e') : e.LooksSame e' :=
  ⟨h.number, (h.still trivial).1, (h.still trivial).2.1⟩

/-- A document with files in a field. -/
def Document.filled (d : Document) (field : Nat) (files : List String) (value : String) :
    Document :=
  d.update field fun e => { e with files, value }

/-- Filling a field changes that one, and neither its style nor its mark. -/
theorem Document.inPlace_filled {K : Element → Element → Prop} (hK : IsLikeness K)
    (hfilled : ∀ (e : Element) files value, K e { e with files, value }) (field : Nat)
    (files : List String) (value : String) : d.InPlace K (d.filled field files value) := by
  refine ⟨_, fun e => ?_, d.update_eq_map field _⟩
  split
  · exact hfilled e files value
  · exact hK.refl e

theorem photoKin_filled (e : Element) (files : List String) (value : String) :
    PhotoKin False e { e with files, value } :=
  photoKin_of_attributes rfl rfl rfl rfl nofun

/-- An empty field goes with every state. -/
theorem Document.Shows.emptied (h : d.Shows s) (field : Nat) (value : String) :
    (d.filled field [] value).Shows s := by
  intro e' he'
  rw [filled, update_eq_map, map, Forest.elements_map] at he'
  obtain ⟨e, he, rfl⟩ := List.mem_map.mp he'
  have hfits := h e he
  split
  · exact ⟨hfits.photo, hfits.placeholder, hfits.box, fun _ _ => firstFile?_eq_none fun _ => rfl⟩
  · exact hfits

theorem Document.fileAt?_filled (hd : d.WellNumbered) (he : e ∈ d.elements) (files : List String)
    (value : String) : (d.filled e.number files value).fileAt? (.element e.number)
      = if e.isFileField then files.head? else none := by
  have hK := isLikeness_photoKin False
  have hplace : d.InPlace (PhotoKin False) (d.filled e.number files value) :=
    inPlace_filled hK photoKin_filled e.number files value
  have hfilled := hplace.alike.wellNumbered hK hd
  have hmem : { e with files, value } ∈ (d.filled e.number files value).elements := by
    rw [filled, elements_update]
    exact List.mem_map.mpr ⟨e, he, if_pos rfl⟩
  have hfound := element?_number hfilled hmem
  dsimp only at hfound
  rw [fileAt?, Place.element?, hfound]
  rfl

/-- What leaves the photo alone leaves the files in its fields. -/
theorem Document.Thins.fileAt? {d' : Document} (h : d.Thins (PhotoKin True) d')
    (hd : d.WellNumbered) (place : Place) : d'.fileAt? place = d.fileAt? place := by
  cases place with
  | document => rfl
  | element n =>
    have hsame := h.alike.element? (isLikeness_photoKin True) hd n
    rw [Document.fileAt?, Document.fileAt?, Place.element?, Place.element?]
    generalize d.element? n = before, d'.element? n = after at hsame ⊢
    cases hsame with
    | none => rfl
    | some hkin => exact (hkin.still trivial).2.2

/-- A step that fills a field, with the tasks behind it. -/
theorem step_fill (hplace : b.place? (.number n) = some (.element n)) (now : Option Float)
    (files : List String) (value : String) :
    (step now (.fill (.number n) files value) b).2
      = ((settle).run
          { b with
            clock := now.getD b.clock
            calls := []
            document := b.document.filled n files value }).2 := by
  have hact : ((act (.fill (.number n) files value)).run
      { b with clock := now.getD b.clock, calls := [] }).2
        = { b with
            clock := now.getD b.clock
            calls := []
            document := b.document.filled n files value } := by
    have hplace : place? { b with clock := now.getD b.clock, calls := [] } (.number n)
        = some (.element n) := hplace
    rw [act, atTarget, StateT.run_bind, StateT.run_get, pure_bind, hplace]
    rfl
  have hstep : (step now (.fill (.number n) files value) b).2
      = ((settle).run ((act (.fill (.number n) files value)).run
          { b with clock := now.getD b.clock, calls := [] }).2).2 := rfl
  rw [hstep, hact]

/-- **Filling a field** changes the files in it and nothing else of the photo. -/
theorem PhotoKept.fill (h : PhotoKept state b) (he : e ∈ b.document.elements)
    (now : Option Float) (files : List String) (value : String) (state' : Option PhotoState)
    (hshows : ∀ s, state' = some s → (b.document.filled e.number files value).Shows s) :
    PhotoKept state' (step now (.fill (.number e.number) files value) b).2 ∧
      b.document.Alike Element.LooksSame
        (step now (.fill (.number e.number) files value) b).2.document ∧
      b.SameAround (step now (.fill (.number e.number) files value) b).2 ∧
      (step now (.fill (.number e.number) files value) b).2.document.fileAt? (.element e.number)
        = if e.isFileField then files.head? else none := by
  have hb := h.sound.numbered
  have hK := isLikeness_photoKin False
  rw [step_fill (place?_number h.photo hb he)]
  have hplace : b.document.InPlace (PhotoKin False) (b.document.filled e.number files value) :=
    Document.inPlace_filled hK photoKin_filled e.number files value
  have hfilled : Along (Document.Thins (PhotoKin False)) b
      { b with
        clock := now.getD b.clock
        calls := []
        document := b.document.filled e.number files value } :=
    fun hb => ⟨hplace.thins, hplace.alike.wellNumbered hK hb, rfl, rfl, rfl, rfl⟩
  have hkept : PhotoKept state'
      { b with
        clock := now.getD b.clock
        calls := []
        document := b.document.filled e.number files value } :=
    ⟨h.sound.along hfilled, h.photo.along hb hfilled, hshows⟩
  have hnumbered := hkept.sound.numbered
  obtain ⟨hthins, -, haround⟩ := settle_thins hnumbered hkept.photo hnumbered
  have hlooks : b.document.InPlace Element.LooksSame (b.document.filled e.number files value) :=
    Document.inPlace_filled isLikeness_looksSame (fun _ _ _ => ⟨rfl, rfl, rfl⟩) e.number files value
  refine ⟨hkept.settle, hlooks.alike.trans isLikeness_looksSame
    (hthins.alike.mono fun _ _ hkin => hkin.looksSame), (hfilled hb).2.2.trans haround, ?_⟩
  rw [hthins.fileAt? hnumbered]
  exact Document.fileAt?_filled hb he files value

/-! ### One use -/

/-- What is found by a class is in the page. -/
theorem mem_of_mem_selectHtml {name : String} (he : e ∈ d.selectHtml (ofClass name)) :
    e ∈ d.elements := by
  rw [Document.selectHtml_ofClass] at he
  exact List.mem_append_left _ (List.mem_of_mem_filter he)

theorem PhotoKept.take_delete (h : PhotoKept state b) {now : Option Float}
    (hsuits : (PhotoUse.delete now n).Suits b) :
    PhotoKept (some .removed) (PhotoUse.take b (.delete now n)) := by
  obtain ⟨⟨icon, hicon, hpassed⟩, -⟩ := hsuits
  obtain ⟨e, he, rfl⟩ := exists_of_mem_route (by decide) hpassed
  have hplace := place?_number h.photo h.sound.numbered he
  have hdecides : ∃ there ∈ route b.document (decisionType .removed) (.element e.number),
      b.DecidesAt there .removed := ⟨_, hpassed, h.photo.icons icon hicon⟩
  have hdispatched := (h.clock (now.getD b.clock)).dispatch (s := .removed)
    (guides_click (.element e.number)) trivial hdecides none .undefined
  show PhotoKept (some .removed) (step now (.event (.number e.number) "click" none .undefined) b).2
  rw [step_event hplace]
  exact hdispatched.settle

theorem PhotoKept.take_pick (h : PhotoKept state b) {now : Option Float} {file : String}
    {files : List String} {value : String}
    (hsuits : (PhotoUse.pick now n file files value).Suits b) :
    PhotoKept (some .previewing) (PhotoUse.take b (.pick now n file files value)) := by
  obtain ⟨e, he, rfl, hfile⟩ := hsuits
  have hmem := mem_of_mem_selectHtml he
  obtain ⟨hkept, halike, haround, hpicked⟩ := h.fill hmem now (file :: files) value none nofun
  rw [if_pos hfile, List.head?_cons] at hpicked
  have hdecides := h.photo.fields e he
  have htake : PhotoUse.take b (.pick now e.number file files value)
      = (step none (.event (.number e.number) "change" none .undefined)
          (step now (.fill (.number e.number) (file :: files) value) b).2).2 := rfl
  rw [htake]
  generalize (step now (.fill (.number e.number) (file :: files) value) b).2 = b₁
    at hkept halike haround hpicked ⊢
  rw [DecidesAt, ← haround.listeners] at hdecides
  obtain ⟨e', he', hlooks⟩ := halike.exists_like hmem
  rw [← hlooks.number] at hpicked hdecides ⊢
  have hdispatched := (hkept.clock (none.getD b₁.clock)).dispatch (s := .previewing)
    (guides_pick (.element e'.number)) (.inr (Option.isSome_iff_exists.mpr ⟨file, hpicked⟩))
    ⟨_, mem_route he', hdecides⟩ none .undefined
  rw [step_event (place?_number hkept.photo hkept.sound.numbered he')]
  exact hdispatched.settle

theorem PhotoKept.take_cancel (h : PhotoKept state b) {now : Option Float} {value : String}
    (hsuits : (PhotoUse.cancel now n value).Suits b) :
    PhotoKept state (PhotoUse.take b (.cancel now n value)) ∧
      b.document.Alike Element.LooksSame (PhotoUse.take b (.cancel now n value)).document := by
  obtain ⟨e, he, rfl⟩ := hsuits
  have hmem := mem_of_mem_selectHtml he
  obtain ⟨hkept, halike, -, hempty⟩ := h.fill hmem now [] value state
    fun s hs => (h.shows s hs).emptied e.number value
  rw [List.head?_nil, ite_self] at hempty
  have htake : PhotoUse.take b (.cancel now e.number value)
      = (step none (.event (.number e.number) "change" none .undefined)
          (step now (.fill (.number e.number) [] value) b).2).2 := rfl
  rw [htake]
  generalize (step now (.fill (.number e.number) [] value) b).2 = b₁
    at hkept halike hempty ⊢
  obtain ⟨e', he', hlooks⟩ := halike.exists_like hmem
  rw [← hlooks.number] at hempty ⊢
  rw [step_event (place?_number hkept.photo hkept.sound.numbered he')]
  obtain ⟨hheard, hsame⟩ :=
    (hkept.clock (none.getD b₁.clock)).dispatch_cancel hempty none .undefined
  have hnumbered := hheard.sound.numbered
  obtain ⟨hthins, -⟩ := settle_thins hnumbered hheard.photo hnumbered
  have hsettled := hthins.alike.mono fun _ _ hkin => hkin.looksSame
  rw [hsame] at hsettled
  exact ⟨hheard.settle, halike.trans isLikeness_looksSame hsettled⟩

/-- **One use** takes the state of the photo to that behind the use. -/
theorem PhotoKept.take {u : PhotoUse} (h : PhotoKept state b) (hsuits : u.Suits b) :
    PhotoKept (u.event.apply state) (u.take b) := by
  cases u with
  | delete now n => exact h.take_delete hsuits
  | pick now field file files value => exact h.take_pick hsuits
  | cancel now field value => exact (h.take_cancel hsuits).1

/-- **Any number of uses** take it to that of the last decision. -/
theorem PhotoKept.afterPhotoUses {uses : List PhotoUse} (h : PhotoKept state b)
    (hsuits : b.EachPhotoUseSuits uses) :
    PhotoKept ((lastDecision (uses.map (·.event))).or state) (b.afterPhotoUses uses) := by
  rw [← foldl_apply]
  induction uses generalizing state b with
  | nil => exact h
  | cons u uses ih => exact ih (h.take hsuits.1) hsuits.2

/-! ### What a page shows after a decision -/

/-- A page that follows a decision about the photo. -/
structure Document.Follows (d : Document) (s : PhotoState) : Prop where
  /-- The photo is displayed if the decision was a pick. -/
  displayed : ∀ e ∈ d.tree.elements, e.isPhoto = true → (e.isDisplayed = true ↔ s = .previewing)
  /-- Everything that shows the photo is displayed if and only if nothing in its place is. -/
  opposite : ∀ e ∈ d.tree.elements, ∀ p ∈ d.tree.elements, e.isPhoto = true →
    p.isPlaceholder = true → (e.isDisplayed = true ↔ p.isDisplayed = false)
  /-- Every box is ticked if and only if the decision was to delete the photo. -/
  marked : ∀ e ∈ d.tree.elements, e.isDeleteBox = true → (e.checked = true ↔ s = .removed)
  /-- Where a box is ticked no field holds a file. -/
  unsubmitted : ∀ e ∈ d.tree.elements, ∀ f ∈ d.tree.elements, e.isDeleteBox = true →
    e.checked = true → f.isPhotoField = true → f.firstFile? = none

/-- **A page that shows a state follows it.** -/
theorem PhotoKept.follows (h : PhotoKept (some s) b) : b.document.Follows s := by
  have hfits := h.shows s rfl
  have hphoto : ∀ e ∈ b.document.tree.elements, e.isPhoto = true →
      e.isDisplayed = s.contentVisible := fun e he hphoto =>
    (hfits e he).photo hphoto (h.photo.apart e he hphoto) (h.photo.styles e he (.inl hphoto))
  have hmarked : ∀ e ∈ b.document.tree.elements, e.isDeleteBox = true →
      (e.checked = true ↔ s = .removed) := by
    intro e he hbox
    rw [(hfits e he).box hbox]
    cases s <;> decide
  refine ⟨fun e he hshown => ?_, fun e he p hp hshown hplace => ?_, hmarked,
    fun e he f hf hbox hchecked hfield => ?_⟩
  · rw [hphoto e he hshown]
    cases s <;> decide
  · rw [hphoto e he hshown, (hfits p hp).placeholder hplace (h.photo.styles p hp (.inr hplace))]
    cases s <;> decide
  · have hremoved := (hmarked e he hbox).mp hchecked
    subst hremoved
    exact (hfits f hf).field rfl hfield

/-- **A new photo is never submitted with the mark that deletes it.**  On a visit of any kind that
comes to a page whose photo is bound, let the photo be deleted, picked and picks be cancelled, in
any order.  From the first deletion or pick on, the page follows the last one, and a cancelled pick
leaves everything displayed and ticked as it is, at any time. -/
theorem photo_follows_last_decision {v : Visit} (hphoto : v.browser.HasPhoto)
    {uses : List PhotoUse} (hsuits : v.browser.EachPhotoUseSuits uses) :
    (∀ s, lastDecision (uses.map (·.event)) = some s →
      (v.browser.afterPhotoUses uses).document.Follows s) ∧
    ∀ u : PhotoUse, u.event = .cancel → u.Suits (v.browser.afterPhotoUses uses) →
      (v.browser.afterPhotoUses uses).document.Alike Element.LooksSame
        (u.take (v.browser.afterPhotoUses uses)).document := by
  have hkept : PhotoKept none v.browser := ⟨v.served.sound, hphoto, nofun⟩
  have hafter := hkept.afterPhotoUses hsuits
  rw [Option.or_none] at hafter
  refine ⟨fun s hs => (hs ▸ hafter).follows, fun u hcancel hsuitsAfter => ?_⟩
  cases u with
  | delete now n => cases hcancel
  | pick now field file files value => cases hcancel
  | cancel now field value => exact (hafter.take_cancel hsuitsAfter).2

/-- A load hook comes to a page. -/
def loadedVisit (faults : List PageFault) (trees : Forest) (overrides : ScriptValue) : Visit where
  surroundings := { goodSurroundings with faults }
  trees := trees
  overrides := overrides
  clock := 0
  happenings := [.step none .refresh]
  fair := by
    simp only [List.forall_mem_cons, Happening.IsFair, true_and]
    exact nofun

/-- A page with two elements that show the photo, one that stands in their place, two fields and a
box.  The icon that deletes the photo lies in the first of them. -/
def photoPage : Forest :=
  .tree ⟨0, "div", [("class", "photo-content")], [], "", "", false, [], []⟩
    (.tree ⟨0, "img", [], [], "", "", false, [], []⟩ .empty
      (.tree ⟨0, "i", [("class", "photo-delete-icon")], [], "", "", false, [], []⟩ .empty .empty))
    (.tree ⟨0, "p", [("class", "small photo-content")], [], "", "", false, [], []⟩ .empty
      (.tree ⟨0, "div", [("class", "photo-placeholder")], [("display", "none")], "", "", false, [],
          []⟩ .empty
        (.tree ⟨0, "input", [("class", "photo-field"), ("type", "file")], [], "", "", false, [], []⟩
          .empty
          (.tree ⟨0, "input", [("class", "photo-field"), ("type", "file")], [], "", "", false, [],
              []⟩ .empty
            (.tree ⟨0, "input", [("class", "photo-delete-button"), ("type", "checkbox")], [], "",
                "", false, [], []⟩ .empty .empty)))))

/-- The load hook binds the photo. -/
def photoVisit : Visit :=
  loadedVisit [] photoPage .undefined

/-- A file is picked, and then the photo is deleted. -/
def photoUses : List PhotoUse :=
  [.pick none 5 "a.png" [] "", .delete none 2]

/-- The photo is deleted, no file is left, and a cancelled pick in the other field changes
nothing. -/
theorem photo_follows_photoUses :
    photoVisit.browser.HasPhoto ∧ photoVisit.browser.EachPhotoUseSuits photoUses ∧
      lastDecision (photoUses.map (·.event)) = some .removed ∧
      (photoVisit.browser.afterPhotoUses photoUses).document.Follows .removed ∧
      PhotoUse.Suits (photoVisit.browser.afterPhotoUses photoUses) (.cancel none 6 "") ∧
      (photoVisit.browser.afterPhotoUses photoUses).document.Alike Element.LooksSame
        (PhotoUse.take (photoVisit.browser.afterPhotoUses photoUses)
          (.cancel none 6 "")).document := by
  have hphoto : photoVisit.browser.HasPhoto := by decide +kernel
  have hsuits : photoVisit.browser.EachPhotoUseSuits photoUses := by decide +kernel
  have hlast : lastDecision (photoUses.map (·.event)) = some .removed := by decide
  have hcancel : PhotoUse.Suits (photoVisit.browser.afterPhotoUses photoUses)
      (.cancel none 6 "") := by decide +kernel
  obtain ⟨hfollows, hcancelled⟩ := photo_follows_last_decision hphoto hsuits
  exact ⟨hphoto, hsuits, hlast, hfollows _ hlast, hcancel, hcancelled _ rfl hcancel⟩

end Kept

/-! ### Photos beside placeholders -/

/-- A page displays a photo and something in its place. -/
def Document.DisplaysBoth (d : Document) : Prop :=
  (∃ e ∈ d.tree.elements, e.isPhoto = true ∧ e.isDisplayed = true) ∧
    ∃ e ∈ d.tree.elements, e.isPlaceholder = true ∧ e.isDisplayed = true

instance (d : Document) : Decidable d.DisplaysBoth :=
  inferInstanceAs (Decidable ((∃ e ∈ _, _) ∧ ∃ e ∈ _, _))

/-- The photo of a page is bound, and a click that deletes it leaves one displayed beside what
stands in its place. -/
def Visit.Mixes (v : Visit) (n : Nat) : Prop :=
  v.browser.BoundPhoto ∧ v.browser.EachPhotoUseSuits [.delete none n] ∧
    (v.browser.afterPhotoUses [.delete none n]).document.DisplaysBoth

instance (v : Visit) (n : Nat) : Decidable (v.Mixes n) :=
  inferInstanceAs (Decidable (_ ∧ _ ∧ _))

/-- A page with an element that shows the photo and stands in its place at once. -/
def twofoldPage : Forest :=
  .tree ⟨0, "div", [("class", "photo-content photo-placeholder")], [], "", "", false, [], []⟩ .empty
    (.tree ⟨0, "div", [("class", "photo-placeholder")], [], "", "", false, [], []⟩ .empty
      (.tree ⟨0, "i", [("class", "photo-delete-icon")], [], "", "", false, [], []⟩ .empty
        (.tree ⟨0, "input", [("class", "photo-delete-button"), ("type", "checkbox")], [], "", "",
            false, [], []⟩ .empty .empty)))

/-- A page on which the icon that deletes the photo lies in the trigger. -/
def triggerPage : Forest :=
  .tree ⟨0, "input", [("id", "webauthn-options")], [], "", "\x7b\"challenge\":\"\"\x7d", false, [],
      []⟩ .empty
    (.tree ⟨0, "p", [("id", "webauthn-message")], [], "", "", false, [], []⟩ .empty
      (.tree ⟨0, "button", [("id", "webauthn-authenticate")], [], "", "", false, [], []⟩
        (.tree ⟨0, "i", [("class", "photo-delete-icon")], [], "", "", false, [], []⟩ .empty .empty)
        (.tree ⟨0, "div", [("class", "photo-content")], [], "", "", false, [], []⟩ .empty
          (.tree ⟨0, "div", [("class", "photo-placeholder")], [], "", "", false, [], []⟩ .empty
            (.tree ⟨0, "input", [("class", "photo-delete-button"), ("type", "checkbox")], [], "",
                "", false, [], []⟩ .empty .empty)))))

/-- **A photo can be displayed beside a placeholder**, although the last decision was to delete it.
It may be a placeholder itself; the trigger may become a photo while it is busy; and the instruction
message may become one when it is hidden, because the run of the click fails. -/
theorem photo_beside_placeholder :
    (loadedVisit [] twofoldPage .undefined).Mixes 2 ∧
      (loadedVisit [] triggerPage
        (.object false [("busy_class", .text "photo-content")])).Mixes 3 ∧
      (loadedVisit [.credentials] triggerPage
        (.object false [("hidden_class", .text "photo-content")])).Mixes 3 := by
  decide +kernel

end Passkey.Browser
