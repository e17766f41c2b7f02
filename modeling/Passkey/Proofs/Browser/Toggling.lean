/-
Passkey/Proofs/Browser/Toggling.lean

A password toggle flips the field beside it.

A toggle is bound with a listener for clicks and one for keys, each of them
once.  An activation is a click or one of three keys; it passes the icon once,
so one of the two listeners hears it once.  That flips the type of the field
and dresses the icon for it, and whatever else hears the event leaves both at
rest (`flipped_activation`).  A load hook leaves them at rest, too, so the type
changes as often as the toggle is activated (`flipped_afterUses`).
-/
import Passkey.Proofs.Browser.Passing
import Passkey.Proofs.Browser.Wires

namespace Passkey.Browser

open Widget

/-! ### Toggling once -/

/-- The types of a password field change places: one that hides its text, in letters of any case,
shows it, and any other one hides it. -/
def otherType (inputType : String) : String :=
  if Text.sameAscii inputType "password" then "text" else "password"

/-- The type of an input. -/
def Document.inputType (d : Document) (n : Nat) : String :=
  ((d.element? n).bind (·.attribute? "type")).getD ""

/-- An icon is dressed as an eye, with a slash exactly if the text of its field is shown. -/
def Document.Dressed (d : Document) (icon field : Nat) : Prop :=
  ∃ e ∈ d.elements, e.number = icon ∧ "eye" ∈ e.classes ∧
    ("slash" ∈ e.classes ↔ d.inputType field = "text")

/-- What a toggle does to its field and its icon works on them. -/
structure Works (b : Browser) (icon field : Nat) : Prop where
  setAttribute : b.hasSetAttribute = true
  field : ∀ e ∈ b.document.elements, e.number = field → .setAttribute ∉ e.faults
  icon : ∀ e ∈ b.document.elements, e.number = icon → .classList ∉ e.faults

instance (d : Document) (icon field : Nat) : Decidable (d.Dressed icon field) :=
  inferInstanceAs (Decidable (∃ e ∈ _, _))

instance (b : Browser) (icon field : Nat) : Decidable (b.Works icon field) :=
  decidable_of_iff
    (b.hasSetAttribute = true ∧
      (∀ e ∈ b.document.elements, e.number = field → .setAttribute ∉ e.faults) ∧
      ∀ e ∈ b.document.elements, e.number = icon → .classList ∉ e.faults)
    ⟨fun h => ⟨h.1, h.2.1, h.2.2⟩, fun h => ⟨h.setAttribute, h.field, h.icon⟩⟩

section Toggle

variable {icon field : Nat} {calm : Prop} {b b' : Browser} {d d' : Document} {v : Visibility}

/-- What a toggle writes is the other type. -/
theorem inputType_toggled (inputType : String) :
    (Visibility.ofInputType inputType).toggled.inputType = otherType inputType := by
  rw [Visibility.ofInputType, otherType]
  split <;> rfl

/-- The other type is another one. -/
theorem otherType_ne (inputType : String) : otherType inputType ≠ inputType := by
  rw [otherType]
  split
  · next hsame =>
    rintro rfl
    revert hsame
    decide
  · next hother =>
    rintro rfl
    exact hother (by decide)

/-- The type of an input stays if its element keeps it. -/
theorem inputType_of_alike {K : Element → Element → Prop} (hK : IsLikeness K) (h : d.Alike K d')
    (hd : d.WellNumbered) {n : Nat}
    (htype : ∀ e e', e.number = n → K e e' → e'.attribute? "type" = e.attribute? "type") :
    d'.inputType n = d.inputType n := by
  have hsame := h.element? hK hd n
  have hnumber : ∀ e, d.element? n = some e → e.number = n := fun e he =>
    (Document.mem_of_element? he).2
  rw [Document.inputType, Document.inputType]
  generalize d.element? n = found at hsame hnumber ⊢
  generalize d'.element? n = found' at hsame ⊢
  cases hsame with
  | none => rfl
  | some hlike => rw [Option.bind_some, Option.bind_some, htype _ _ (hnumber _ rfl) hlike]

/-- A field at rest keeps its type. -/
theorem inputType_of_rests (h : d.Alike (Rests icon field calm) d') (hd : d.WellNumbered) :
    d'.inputType field = d.inputType field :=
  inputType_of_alike (isLikeness_rests icon field calm) h hd fun _ _ hn hrests => hrests.type hn

/-- An icon at rest stays dressed. -/
theorem dressed_of_rests (h : d.Alike (Rests icon field calm) d') (hd : d.WellNumbered)
    (hcalm : calm) (hdressed : d.Dressed icon field) : d'.Dressed icon field := by
  obtain ⟨e, he, hn, heye, hslash⟩ := hdressed
  obtain ⟨e', he', hrests⟩ := h.exists_like he
  refine ⟨e', he', hrests.steady.number.trans hn, ?_, ?_⟩
  · exact (hrests.classes hcalm hn "eye" (by decide)).mpr heye
  · rw [hrests.classes hcalm hn "slash" (by decide), inputType_of_rests h hd]
    exact hslash

theorem steady_of_reclassed {e e' : Element} (h : e.Reclassed e') : e.Steady e' :=
  have hrests : Rests 0 0 False e e' := rests_of_reclassed h nofun
  hrests.steady

theorem run_changeAll_cons {n : Nat} {operation : Operation} {rest : List (Nat × Operation)}
    (h : (change n operation).run b = (none, b')) :
    (changeAll ((n, operation) :: rest)).run b = (changeAll rest).run b' := by
  rw [changeAll, StateT.run_bind, h]
  rfl

/-- Two changes of the classes of an element. -/
theorem changeAll_pair {e e₁ e₂ : Element} (o₁ o₂ : Operation) (hb : b.document.WellNumbered)
    (he : e ∈ b.document.elements) (h₁ : o₁ e = .ok e₁) (h₂ : o₂ e₁ = .ok e₂)
    (hr₁ : e.Reclassed e₁) (hr₂ : e₁.Reclassed e₂) :
    ∃ b', (changeAll [(e.number, o₁), (e.number, o₂)]).run b = (none, b') ∧
      Along (Document.InPlace Element.Reclassed) b b' ∧ e₂ ∈ b'.document.elements := by
  have hfirst := along_put isLikeness_reclassed he hr₁
  have hmem₁ := mem_put _ he hr₁.number
  have hsecond := along_put (b := { b with document := b.document.put e₁ })
    isLikeness_reclassed hmem₁ hr₂
  have hmem₂ := mem_put _ hmem₁ hr₂.number
  refine ⟨_, ?_, (isFrame_inPlace isLikeness_reclassed).trans hfirst hsecond, hmem₂⟩
  have hb₁ := (hfirst hb).2.1
  rw [run_changeAll_cons (run_change hb he h₁), ← hr₁.number,
    run_changeAll_cons (run_change hb₁ hmem₁ h₂)]
  rfl

/-- **The icon is dressed** for a state of the field. -/
theorem dress_icon {e : Element} (hb : b.document.WellNumbered) (he : e ∈ b.document.elements)
    (hworks : .classList ∉ e.faults) (v : Visibility) :
    ∃ b' e', (changeAll (swapClasses e.number v.removedClasses v.addedClasses)).run b = (none, b') ∧
      Along (Document.InPlace Element.Reclassed) b b' ∧ e' ∈ b'.document.elements ∧
      e'.number = e.number ∧ "eye" ∈ e'.classes ∧ ("slash" ∈ e'.classes ↔ v = .shown) := by
  have heye : Element.IsToken "eye" := by decide
  have hslash : Element.IsToken "slash" := by decide
  cases v with
  | hidden =>
    obtain ⟨e₁, h₁⟩ := (Element.exists_class_eq_ok hworks hslash).2
    have hr₁ := Element.reclassed_of_removeClass h₁
    obtain ⟨e₂, h₂⟩ := (Element.exists_class_eq_ok (hr₁.faults ▸ hworks) heye).1
    have hr₂ := Element.reclassed_of_addClass h₂
    obtain ⟨b', hrun, halong, hmem⟩ := changeAll_pair (·.removeClass "slash")
      (·.addClass "eye") hb he h₁ h₂ hr₁ hr₂
    refine ⟨b', e₂, hrun, halong, hmem, hr₂.number.trans hr₁.number, ?_, ?_⟩
    · exact (Element.mem_classes_of_addClass h₂).mpr (.inl rfl)
    · rw [Element.mem_classes_of_addClass h₂, Element.mem_classes_of_removeClass h₁]
      simp
  | shown =>
    obtain ⟨e₁, h₁⟩ := (Element.exists_class_eq_ok hworks heye).1
    have hr₁ := Element.reclassed_of_addClass h₁
    obtain ⟨e₂, h₂⟩ := (Element.exists_class_eq_ok (hr₁.faults ▸ hworks) hslash).1
    have hr₂ := Element.reclassed_of_addClass h₂
    obtain ⟨b', hrun, halong, hmem⟩ := changeAll_pair (·.addClass "eye")
      (·.addClass "slash") hb he h₁ h₂ hr₁ hr₂
    refine ⟨b', e₂, hrun, halong, hmem, hr₂.number.trans hr₁.number, ?_, ?_⟩
    · rw [Element.mem_classes_of_addClass h₂, Element.mem_classes_of_addClass h₁]
      exact .inr (.inl rfl)
    · exact iff_of_true ((Element.mem_classes_of_addClass h₂).mpr (.inl rfl)) rfl

/-- The type of a field that can be written. -/
theorem run_writeType {f : Element} (hb : b.document.WellNumbered) (hf : f ∈ b.document.elements)
    (hset : b.hasSetAttribute = true) (hfault : .setAttribute ∉ f.faults) (v : Visibility) :
    (writeAttribute f.number "type" v.inputType).run b
      = (none, { b with document := b.document.put (f.withAttribute "type" v.inputType) }) := by
  have hwritten : f.setAttribute [.text "type", .text v.inputType]
      = .ok (f.withAttribute "type" v.inputType) := by
    rw [Element.setAttribute, if_neg (by simpa using hfault)]
    cases v
    · rfl
    · rfl
  rw [run_writeAttribute (by decide), hset, if_pos rfl, run_change hb hf hwritten]

/-- A toggle by which nothing is thrown. -/
theorem run_togglePassword {f : Element} {b₁ b₂ : Browser}
    (hfield : b.document.fieldBeside? icon = some f)
    (hv : (Visibility.ofInputType ((f.attribute? "type").getD "")).toggled = v)
    (hwritten : (writeAttribute f.number "type" v.inputType).run b = (none, b₁))
    (hdressed : (changeAll (swapClasses icon v.removedClasses v.addedClasses)).run b₁
      = (none, b₂)) :
    (togglePassword icon).run b = ((), b₂) := by
  rw [togglePassword, StateT.run_bind, StateT.run_get, pure_bind, hfield]
  dsimp only
  rw [hv, StateT.run_bind, hwritten]
  show StateT.run (changeAll (swapClasses icon v.removedClasses v.addedClasses) >>= _) b₁ = _
  rw [StateT.run_bind, hdressed]
  rfl

/-- **A toggle flips the type of its field and dresses its icon.** -/
theorem togglePassword_flips {e f : Element} (hb : b.document.WellNumbered)
    (hfield : b.document.fieldBeside? icon = some f) (he : e ∈ b.document.elements)
    (hn : e.number = icon) (hworks : b.Works icon f.number) :
    Along (Document.InPlace Element.Steady) b ((togglePassword icon).run b).2 ∧
      ((togglePassword icon).run b).2.document.inputType f.number
        = otherType (b.document.inputType f.number) ∧
      ((togglePassword icon).run b).2.document.Dressed icon f.number := by
  obtain ⟨hmem, hisField⟩ := mem_of_fieldBeside? hfield
  have hflip : otherType (b.document.inputType f.number)
      = (Visibility.ofInputType ((f.attribute? "type").getD "")).toggled.inputType := by
    rw [inputType_toggled, Document.inputType, Document.element?_number hb hmem]
    rfl
  rw [hflip]
  generalize hv : (Visibility.ofInputType ((f.attribute? "type").getD "")).toggled = v
  have hwritten := run_writeType hb hmem hworks.setAttribute (hworks.field f hmem rfl) v
  have hwrite := along_put isLikeness_steady hmem (steady_withType hisField v)
  obtain ⟨hplace₁, hb₁, -⟩ := hwrite hb
  -- the icon is the same element, but its type if it is the field
  obtain ⟨i, hi, hni⟩ := hplace₁.alike.exists_like he
  have hfaults : .classList ∉ i.faults := hni.faults ▸ hworks.icon e he hn
  obtain ⟨b', i', hrun, hdress, hi', hni', heye, hslash⟩ := dress_icon
    (b := { b with document := b.document.put (f.withAttribute "type" v.inputType) })
    hb₁ hi hfaults v
  have hicon : i.number = icon := hni.number.trans hn
  obtain ⟨hplace₂, hb', haround⟩ := hdress hb₁
  have htype : b'.document.inputType f.number = v.inputType := by
    rw [inputType_of_alike isLikeness_reclassed hplace₂.alike hb₁ fun _ _ _ h =>
      h.attribute? "type" (by decide)]
    have hmem' := mem_put (f.withAttribute "type" v.inputType) hmem rfl
    show ((Document.element? _ (f.withAttribute "type" v.inputType).number).bind _).getD "" = _
    rw [Document.element?_number hb₁ hmem', Option.bind_some, Element.attribute?_withAttribute,
      if_pos rfl]
    rfl
  have hall : Along (Document.InPlace Element.Steady) b b' := by
    have hdressed : Along (Document.InPlace Element.Steady)
        { b with document := b.document.put (f.withAttribute "type" v.inputType) } b' :=
      fun _ => ⟨hplace₂.mono fun _ _ => steady_of_reclassed, hb', haround⟩
    exact (isFrame_inPlace isLikeness_steady).trans hwrite hdressed
  rw [hicon] at hrun
  rw [run_togglePassword hfield hv hwritten hrun]
  refine ⟨hall, htype, i', hi', hni'.trans hicon, heye, ?_⟩
  rw [hslash, htype]
  cases v <;> decide

end Toggle

/-! ### Activations -/

/-- The keys that activate a toggle: Enter, and the space bar under either of its names. -/
def activationKeys : List String := ["Enter", " ", "Spacebar"]

/-- Whether an event activates the toggle that it passes: it is a click, or one of three keys. -/
def Activates (type : String) (key : Option String) : Prop :=
  type = "click" ∨ type = "keydown" ∧ ∃ k ∈ activationKeys, key = some k

instance (type : String) (key : Option String) : Decidable (Activates type key) :=
  inferInstanceAs (Decidable (_ ∨ _ ∧ ∃ k ∈ activationKeys, _))

theorem activatesToggle_of_mem {key : String} (h : key ∈ activationKeys) :
    activatesToggle key = true := by
  have hall : ∀ k ∈ activationKeys, activatesToggle k = true := by decide
  exact hall key h

/-- A toggle is ready: its field is beside it, no other toggle acts on that, and what it does
works. -/
structure Ready (b : Browser) (icon field : Nat) : Prop where
  beside : (b.document.fieldBeside? icon).map (·.number) = some field
  alone : ∀ l ∈ b.listeners, l.handler.toggled? ≠ some icon → b.document.Spares field l.handler
  works : b.Works icon field

instance (b : Browser) (icon field : Nat) : Decidable (b.Ready icon field) :=
  decidable_of_iff
    ((b.document.fieldBeside? icon).map (·.number) = some field ∧
      (∀ l ∈ b.listeners, l.handler.toggled? ≠ some icon →
        b.document.Spares field l.handler) ∧ b.Works icon field)
    ⟨fun h => ⟨h.1, h.2.1, h.2.2⟩, fun h => ⟨h.beside, h.alone, h.works⟩⟩

/-- A toggle is bound: it bears the mark, and its two listeners listen at it. -/
structure BoundToggle (b : Browser) (icon : Nat) : Prop where
  sound : b.Sound
  placed : ∀ l ∈ b.listeners, l.Placed
  marked : b.document.Marked icon
  wires : b.wires icon = Role.passwordToggle.listeners icon

section Activation

variable {icon field : Nat} {calm : Prop} {b b' : Browser} {type : String}

theorem not_isLoading {key : Option String} (h : Activates type key) : ¬ IsLoading type := by
  rcases h with rfl | ⟨rfl, -⟩
  · rintro (h | h) <;> simp at h
  · rintro (h | h) <;> simp at h

/-- The listeners of an element that hear events of a type are known from its wires. -/
theorem hearing_eq (b : Browser) (n : Nat) (type : String) :
    b.listeners.filter (·.hears (.element n) type)
      = ((b.wires n).filter (·.1 == type)).map fun w => ⟨.element n, w.1, w.2⟩ := by
  have hplace : ∀ l ∈ (b.listeners.filter (·.place == .element n)).filter (·.event == type),
      (⟨.element n, l.event, l.handler⟩ : Listener) = l := by
    intro l hl
    have hn := (List.mem_filter.mp (List.mem_of_mem_filter hl)).2
    rw [beq_iff_eq] at hn
    rw [← hn]
  have hmap := (List.map_congr_left hplace).trans (List.map_id' _)
  rw [wires, List.filter_map, List.map_map]
  refine Eq.trans ?_ hmap.symm
  rw [List.filter_filter]
  exact List.filter_congr fun l _ => Bool.and_comm _ _

/-- **At the icon** an activation is heard once. -/
theorem run_bubble_icon (h : b.BoundToggle icon) {ev : Event} (hev : Activates type ev.key) :
    ((bubble type [.element icon] ev).run b).2 = ((togglePassword icon).run b).2 := by
  rw [run_bubble_place h.sound (not_isLoading hev), hearing_eq, h.wires]
  rcases hev with rfl | ⟨rfl, key, hkey, hk⟩
  · show ((tell [⟨.element icon, "click", .toggle icon⟩] ev).run b).2 = _
    rfl
  · show ((handle ev (.press icon)).run b).2 = _
    rw [handle, hk]
    dsimp only
    rw [if_pos (activatesToggle_of_mem hkey)]
    rfl

/-- Whatever leaves what listens as it is keeps a toggle bound. -/
theorem BoundToggle.along {K : Element → Element → Prop} (h : b.BoundToggle icon)
    (hK : IsLikeness K) (hsteady : ∀ e e', K e e' → e.Steady e')
    (halong : Along (Document.Alike K) b b') : b'.BoundToggle icon := by
  obtain ⟨halike, -, haround⟩ := halong h.sound.numbered
  refine ⟨h.sound.along halong, haround.listeners ▸ h.placed,
    ⟨halike.1.symm ▸ h.marked.1, fun e' he' hn => ?_⟩, ?_⟩
  · obtain ⟨e, he, hlike⟩ := halike.like he'
    exact (hsteady _ _ hlike).marked (h.marked.2 e he ((hK.number hlike).symm.trans hn))
  · rw [wires_eq_of_listeners haround.listeners]
    exact h.wires

theorem Works.along (h : b.Works icon field) (hb : b.document.WellNumbered)
    (halong : Along (Document.InPlace Element.Steady) b b') : b'.Works icon field := by
  obtain ⟨hplace, -, haround⟩ := halong hb
  refine ⟨?_, fun e' he' hn => ?_, fun e' he' hn => ?_⟩
  · rw [hasSetAttribute, lacks, lacks, haround.surroundings]
    exact h.setAttribute
  · obtain ⟨e, he, hsteady⟩ := hplace.alike.like he'
    rw [hsteady.faults]
    exact h.field e he (hsteady.number.symm.trans hn)
  · obtain ⟨e, he, hsteady⟩ := hplace.alike.like he'
    rw [hsteady.faults]
    exact h.icon e he (hsteady.number.symm.trans hn)

/-- What passes an icon passes other elements before and behind it, and may reach the document. -/
theorem exists_passing (hd : b.document.WellNumbered) {place : Place}
    (h : .element icon ∈ route b.document type place) :
    ∃ inner outer : List Nat, ∃ last : List Place, icon ∉ inner ∧ icon ∉ outer ∧
      (last = [] ∨ last = [.document]) ∧
      route b.document type place
        = inner.map .element ++ ([.element icon] ++ (outer.map .element ++ last)) := by
  have hnodup := nodup_route hd type place
  obtain ⟨ns, hroute⟩ := exists_route_eq b.document type place
  obtain ⟨last, hlast, hroute⟩ : ∃ last : List Place, (last = [] ∨ last = [.document]) ∧
      route b.document type place = ns.map .element ++ last := by
    rcases hroute with hroute | hroute
    · exact ⟨[], .inl rfl, hroute.trans (List.append_nil _).symm⟩
    · exact ⟨_, .inr rfl, hroute⟩
  rw [hroute] at h hnodup ⊢
  have hmem : icon ∈ ns := by
    rcases List.mem_append.mp h with h | h
    · obtain ⟨n, hn, hicon⟩ := List.mem_map.mp h
      injection hicon with hicon
      exact hicon ▸ hn
    · rcases hlast with rfl | rfl
      · cases h
      · cases List.mem_singleton.mp h
  obtain ⟨inner, outer, rfl⟩ := List.append_of_mem hmem
  have hns : (inner ++ icon :: outer).Nodup :=
    List.Nodup.of_map _ (List.nodup_append.mp hnodup).1
  obtain ⟨-, houter, hdisjoint⟩ := List.nodup_append.mp hns
  refine ⟨inner, outer, last, fun hinner => ?_, (List.nodup_cons.mp houter).1, hlast, ?_⟩
  · exact hdisjoint icon hinner icon List.mem_cons_self rfl
  · rw [List.map_append, List.map_cons, List.append_assoc]
    rfl

/-- An icon beside a field is an element. -/
theorem exists_of_fieldBeside? {d : Document} {f : Element} (h : d.fieldBeside? icon = some f) :
    ∃ e ∈ d.elements, e.number = icon := by
  obtain ⟨parent, hparent, -⟩ := Option.bind_eq_some_iff.mp h
  refine (path_eq_or_exists d icon).resolve_left fun hpath => ?_
  rw [Document.parent?, hpath] at hparent
  cases hparent

/-- What an activation leaves behind. -/
structure Flipped (calm : Prop) (icon field : Nat) (b b' : Browser) : Prop where
  bound : b'.BoundToggle icon
  type : b'.document.inputType field = otherType (b.document.inputType field)
  dressed : calm → b'.document.Dressed icon field

theorem Ready.along (h : b.Ready icon field) (hb : b.BoundToggle icon)
    (halong : Along (Document.InPlace Element.Steady) b b') : b'.Ready icon field := by
  obtain ⟨hplace, -, haround⟩ := halong hb.sound.numbered
  refine ⟨?_, ?_, h.works.along hb.sound.numbered halong⟩
  · rw [fieldBeside?_of_inPlace hplace]
    exact h.beside
  · rw [haround.listeners]
    exact fun l hl hne => spares_of_inPlace hplace (h.alone l hl hne)

theorem orderly_of_ready (h : b.BoundToggle icon) (hready : b.Ready icon field) :
    b.Orderly icon field :=
  ⟨h.sound, h.placed, hready.alone⟩

theorem Rests.toSteady {e e' : Element} (h : Rests icon field calm e e') : e.Steady e' :=
  h.steady

/-- **The icon's place on the way** flips the field and dresses the icon. -/
theorem flipped_icon (h : b.BoundToggle icon) (hready : b.Ready icon field) {ev : Event}
    (hev : Activates type ev.key) :
    Flipped True icon field b ((bubble type [.element icon] ev).run b).2 ∧
      Along (Document.InPlace Element.Steady) b ((bubble type [.element icon] ev).run b).2 := by
  obtain ⟨f, hf, rfl⟩ := Option.map_eq_some_iff.mp hready.beside
  obtain ⟨e, he, hn⟩ := exists_of_fieldBeside? hf
  obtain ⟨halong, htype, hdressed⟩ :=
    togglePassword_flips h.sound.numbered hf he hn hready.works
  have halike : Along (Document.Alike Element.Steady) b ((togglePassword icon).run b).2 :=
    halong.alike
  rw [run_bubble_icon h hev]
  exact ⟨⟨h.along isLikeness_steady (fun _ _ hsteady => hsteady) halike, htype, fun _ => hdressed⟩,
    halong⟩

/-- What leaves field and icon at rest. -/
theorem Flipped.rests (h : Flipped True icon field b b')
    {b'' : Browser} (hrests : Along (Document.Alike (Rests icon field calm)) b' b'') :
    Flipped calm icon field b b'' := by
  have hb := h.bound.sound.numbered
  obtain ⟨halike, -, -⟩ := hrests hb
  exact ⟨h.bound.along (isLikeness_rests icon field calm) (fun _ _ => Rests.toSteady) hrests,
    (inputType_of_rests halike hb).trans h.type,
    fun hc => dressed_of_rests halike hb hc (h.dressed trivial)⟩

theorem run_bubble_append (type : String) (places places' : List Place) (ev : Event)
    (b : Browser) :
    (bubble type (places ++ places') ev >>= fun _ => settle).run b
      = (bubble type places' ((bubble type places ev).run b).1 >>= fun _ => settle).run
          ((bubble type places ev).run b).2 := by
  rw [bubble_append, bind_assoc, StateT.run_bind]
  rfl

/-- **An activation flips the field once**, and the icon is dressed behind it. -/
theorem flipped_activation (h : b.BoundToggle icon) (hready : b.Ready icon field)
    (hcalm : calm → b.AllCalm) {key : Option String} (hev : Activates type key) {place : Place}
    (hroute : .element icon ∈ route b.document type place) (detail : ScriptValue) :
    Flipped calm icon field b ((dispatch place type key detail >>= fun _ => settle).run b).2 := by
  have hK := isLikeness_rests icon field calm
  have hframe := isFrame_alike hK
  have htype := not_isLoading hev
  have horderly := orderly_of_ready h hready
  obtain ⟨inner, outer, last, hinner, houter, hlast, hpassing⟩ :=
    exists_passing h.sound.numbered hroute
  have hrun : (dispatch place type key detail >>= fun _ => settle).run b
      = (bubble type (route b.document type place) ⟨place, key, detail, false⟩ >>=
          fun _ => settle).run b := rfl
  rw [hrun, hpassing, run_bubble_append]
  -- before the icon
  have hkey := key_bubble type (inner.map .element) ⟨place, key, detail, false⟩ b
  have hbefore := bubble_rests calm horderly htype hinner ⟨place, key, detail, false⟩
  generalize (bubble type (inner.map .element) ⟨place, key, detail, false⟩).run b = passed
    at hkey hbefore ⊢
  obtain ⟨ev, b₁⟩ := passed
  have hbound₁ := h.along hK (fun _ _ => Rests.toSteady) hbefore.alike
  have hready₁ := hready.along h hbefore.steady
  have hcalm₁ := allCalm_of_along hcalm h.sound.numbered hbefore
  have hev₁ : Activates type ev.key := hkey ▸ hev
  -- at the icon
  obtain ⟨hflipped, hicon⟩ := flipped_icon hbound₁ hready₁ hev₁
  have horderly₂ := (orderly_of_ready hbound₁ hready₁).along hicon
  have hcalm₂ := allCalm_of_along hcalm₁ hbound₁.sound.numbered hicon
  rw [run_bubble_append]
  generalize (bubble type [.element icon] ev).run b₁ = passed at hflipped hicon horderly₂ hcalm₂ ⊢
  obtain ⟨ev, b₂⟩ := passed
  -- behind the icon
  have hbehind := bubble_rests calm horderly₂ htype houter ev
  have horderly₃ := horderly₂.along hbehind.steady
  have hcalm₃ := allCalm_of_along hcalm₂ horderly₂.sound.numbered hbehind
  rw [run_bubble_append]
  generalize (bubble type (outer.map .element) ev).run b₂ = passed
    at hbehind horderly₃ hcalm₃ ⊢
  obtain ⟨ev, b₃⟩ := passed
  -- at the document
  have hend : Along (Document.Alike (Rests icon field calm)) b₃
      ((bubble type last ev).run b₃).2 := by
    rcases hlast with rfl | rfl
    · exact hframe.refl b₃
    · exact bubble_rests_document horderly₃.sound horderly₃.placed hcalm₃ htype ev
  have hb₃ := horderly₃.sound.numbered
  have hcalm₄ := allCalm_of_along hcalm₃ hb₃ hend
  have hb₄ := (hend hb₃).2.1
  rw [StateT.run_bind]
  generalize (bubble type last ev).run b₃ = passed at hend hcalm₄ hb₄ ⊢
  obtain ⟨ev, b₄⟩ := passed
  -- and the tasks
  have htasks := settle_rests icon field hb₄ hcalm₄
  have hrests := hframe.trans (hframe.trans hbehind.alike hend) htasks
  have hall := hflipped.rests hrests
  refine ⟨hall.bound, ?_, hall.dressed⟩
  rw [← inputType_of_rests (hbefore h.sound.numbered).1.alike h.sound.numbered]
  exact hall.type

end Activation

end Passkey.Browser
