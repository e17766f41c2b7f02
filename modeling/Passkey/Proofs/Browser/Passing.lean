/-
Passkey/Proofs/Browser/Passing.lean

An event passes a toggle.

On its way an event is heard at the icon of a toggle, at other elements before
and behind it, and at the document in the end.  All but the toggle itself leave
the field and the icon at rest, as long as no other toggle acts on the field:

    other elements    nothing moves, so toggles find the fields that they found
    the document      an error may be shown, and its text may take things out
    tasks             runs begin, and may show an error as well

So whoever looks for what an event does to the field has to look at the icon
only.
-/
import Passkey.Proofs.Browser.Aside
import Passkey.Proofs.Browser.Binding
import Passkey.Proofs.Browser.Fields
import Passkey.Proofs.Browser.Keydown

namespace Passkey.Browser

/-! ### Where listeners are -/

/-- The icon that a handler toggles for, if it does. -/
def Handler.toggled? : Handler → Option Nat
  | .toggle icon => some icon
  | .press icon => some icon
  | _ => none

/-- Toggles listen at their icons, and watches of ceremonies at the document. -/
structure Listener.Placed (l : Listener) : Prop where
  toggle : ∀ icon, l.handler.toggled? = some icon → l.place = .element icon
  watch : ∀ c, l.handler = .watch c → l.place = .document

/-- A handler that does not toggle a field. -/
def Document.Spares (d : Document) (field : Nat) (k : Handler) : Prop :=
  ∀ other, k.toggled? = some other → (d.fieldBeside? other).map (·.number) ≠ some field

instance (d : Document) (field : Nat) (k : Handler) : Decidable (d.Spares field k) :=
  decidable_of_iff
    (∀ other ∈ k.toggled?, (d.fieldBeside? other).map (·.number) ≠ some field) Iff.rfl

/-- The listeners are where they belong, and no other toggle than that of an icon acts on a
field. -/
structure Orderly (icon field : Nat) (b : Browser) : Prop where
  sound : b.Sound
  placed : ∀ l ∈ b.listeners, l.Placed
  alone : ∀ l ∈ b.listeners, l.handler.toggled? ≠ some icon →
    b.document.Spares field l.handler

/-- The settings of all ceremonies leave the classes of icons alone. -/
def AllCalm (b : Browser) : Prop :=
  ∀ config ∈ b.offers.map (·.config), IsCalm config

instance (b : Browser) : Decidable b.AllCalm :=
  inferInstanceAs (Decidable (∀ config ∈ _, _))

section Passing

variable {icon field n : Nat} {calm : Prop} {b b' : Browser} {type : String}

theorem spares_of_inPlace {d d' : Document} {k : Handler} (h : d.InPlace Element.Steady d')
    (hk : d.Spares field k) : d'.Spares field k := by
  intro other hother
  rw [fieldBeside?_of_inPlace h]
  exact hk other hother

theorem Orderly.along (h : b.Orderly icon field)
    (halong : Along (Document.InPlace Element.Steady) b b') : b'.Orderly icon field := by
  obtain ⟨hplace, -, haround⟩ := halong h.sound.numbered
  refine ⟨h.sound.along halong, haround.listeners ▸ h.placed, ?_⟩
  rw [haround.listeners]
  exact fun l hl hne => spares_of_inPlace hplace (h.alone l hl hne)

theorem Along.steady (h : Along (Document.InPlace (Rests icon field calm)) b b') :
    Along (Document.InPlace Element.Steady) b b' :=
  h.mono fun hplace => hplace.mono fun _ _ hrests => hrests.steady

theorem Along.alike {K : Element → Element → Prop} (h : Along (Document.InPlace K) b b') :
    Along (Document.Alike K) b b' :=
  h.mono fun hplace => hplace.alike

theorem allCalm_of_along {D : Document → Document → Prop} (h : calm → b.AllCalm)
    (hb : b.document.WellNumbered) (halong : Along D b b') : calm → b'.AllCalm := by
  intro hc
  rw [AllCalm, (halong hb).2.2.offers]
  exact h hc

/-- A text that replaces others leaves elements as they are. -/
theorem allowsText_rests (icon field : Nat) (calm : Prop) :
    AllowsText (Along (Document.Alike (Rests icon field calm))) :=
  allowsText_alike (isLikeness_rests icon field calm) fun _ _ =>
    rests_of_attributes rfl rfl rfl id fun _ _ => rfl

/-! ### Handlers -/

theorem rests_withType {e : Element} (h : e.isField = true) (hn : e.number ≠ field)
    (v : Widget.Visibility) : Rests icon field calm e (e.withAttribute "type" v.inputType) := by
  refine ⟨steady_withType h v, fun hfield => absurd hfield hn, fun _ _ name _ => ?_⟩
  rw [Element.classes, Element.attribute?_withAttribute, if_neg (by decide), Element.classes]

/-- **A toggle** changes the type of the field that it finds and the classes of its icon, and moves
nothing. -/
theorem togglePassword_along {K : Element → Element → Prop} {icon : Nat} (hK : IsLikeness K)
    (hicon : ∀ name ∈ iconClasses,
      Likens K icon (·.addClass name) ∧ Likens K icon (·.removeClass name))
    (hfield : ∀ e, b.document.fieldBeside? icon = some e → e.isField = true →
      ∀ v : Widget.Visibility, K e (e.withAttribute "type" v.inputType)) :
    Along (Document.InPlace K) b ((togglePassword icon).run b).2 := by
  refine togglePassword_stays (isFrame_inPlace hK) hicon fun found hfound v => ?_
  have hfound := Option.mem_def.mp hfound
  obtain ⟨hmem, hisField⟩ := mem_of_fieldBeside? hfound
  rw [run_writeAttribute (by decide)]
  intro hb
  split
  · show _ ∧ _
    have hrun : (change found.number (·.setAttribute [.text "type", .text v.inputType])).run b
        = change found.number (·.setAttribute [.text "type", .text v.inputType]) b := rfl
    rw [hrun, change, Document.element?_number hb hmem]
    dsimp only
    cases he' : found.setAttribute [.text "type", .text v.inputType] with
    | error thrown => exact (isFrame_inPlace hK).refl b hb
    | ok e' =>
      rw [setAttribute_eq_ok (by decide +kernel) he']
      exact along_put hK hmem (hfield found hfound hisField v) hb
  · exact (isFrame_inPlace hK).refl b hb

/-- **Another toggle** leaves the field and the icon at rest. -/
theorem togglePassword_rests {other : Nat} (hother : other ≠ icon)
    (hfield : (b.document.fieldBeside? other).map (·.number) ≠ some field) :
    Along (Document.InPlace (Rests icon field calm)) b ((togglePassword other).run b).2 := by
  refine togglePassword_along (isLikeness_rests icon field calm)
    (fun name _ => likens_rests_class hother name) fun found hfound hisField v => ?_
  refine rests_withType hisField ?_ v
  rintro rfl
  rw [hfound] at hfield
  exact hfield rfl

/-- **At other elements** no handler moves anything. -/
theorem handle_rests {k : Handler} (hhook : k.hook? = none) (hwatch : ∀ c, k ≠ .watch c)
    (hicon : k.toggled? ≠ some icon) (hspares : b.document.Spares field k) (ev : Event) :
    Along (Document.InPlace (Rests icon field calm)) b ((handle ev k).run b).2 := by
  have hK := isLikeness_rests icon field calm
  have hruns := allowsRuns_along (Document.InPlace.refl hK)
  refine handle_stays (isFrame_inPlace hK) (mayPhoto_rests icon field calm)
    (fun n => likens_rests_write (by decide +kernel) (by decide) n) ?_ ev
  refine ⟨hhook, fun c hc => absurd hc (hwatch c), fun c hc ev => ?_, fun other hother => ?_,
    fun text b => hruns.tasks b _⟩
  · subst hc
    exact along_of_document_eq (.refl hK) rfl ⟨rfl, rfl, rfl, rfl⟩
  · have htoggled : k.toggled? = some other := by
      rcases hother with rfl | rfl <;> rfl
    refine togglePassword_rests (fun hsame => ?_) (hspares other htoggled)
    exact hicon (htoggled.trans (congrArg some hsame))

/-- **At the document** an error may be shown, which moves things but leaves them as they are. -/
theorem handle_rests_document {k : Handler} (hhook : k.hook? = none) (htoggle : k.toggled? = none)
    (hcalm : calm → b.AllCalm) (ev : Event) :
    Along (Document.Alike (Rests icon field calm)) b ((handle ev k).run b).2 := by
  have hK := isLikeness_rests icon field calm
  have hrefl (d : Document) : d.Alike (Rests icon field calm) d :=
    (Document.InPlace.refl hK d).alike
  have hruns := allowsRuns_along hrefl
  refine handle_stays (isFrame_alike hK) (mayPhoto_rests icon field calm)
    (fun n => likens_rests_write (by decide +kernel) (by decide) n) ?_ ev
  refine ⟨hhook, fun c _ => ⟨allowsText_rests icon field calm, hruns.ceremonies,
    fun o ho => mayClass_rests fun hc => ?_⟩, fun c hc ev => ?_, fun other hother => ?_,
    fun text b => hruns.tasks b _⟩
  · exact (hcalm hc o.config (List.mem_map_of_mem ho)).hidden
  · subst hc
    exact along_of_document_eq hrefl rfl ⟨rfl, rfl, rfl, rfl⟩
  · rcases hother with rfl | rfl <;> cases htoggle

/-! ### On the way -/

theorem bubble_append (type : String) (places places' : List Place) (ev : Event) :
    bubble type (places ++ places') ev = bubble type places ev >>= bubble type places' := by
  induction places generalizing ev with
  | nil => rfl
  | cons place places ih =>
    rw [List.cons_append, bubble, bubble]
    simp only [bind_assoc, ih]

/-- An event keeps its key. -/
theorem key_handle (ev : Event) (k : Handler) (b : Browser) :
    ((handle ev k).run b).1.key = ev.key := by
  cases k
  case watch c =>
    rw [handle, StateT.run_bind, StateT.run_get, pure_bind]
    split <;> rfl
  case press icon => exact key_press icon ev b
  all_goals rfl

theorem key_tell (ls : List Listener) (ev : Event) (b : Browser) :
    ((tell ls ev).run b).1.key = ev.key := by
  induction ls generalizing ev b with
  | nil => rfl
  | cons l ls ih => exact (ih _ _).trans (key_handle ev l.handler b)

theorem key_bubble (type : String) (places : List Place) (ev : Event) (b : Browser) :
    ((bubble type places ev).run b).1.key = ev.key := by
  induction places generalizing ev b with
  | nil => rfl
  | cons place places ih => exact (ih _ _).trans (key_tell _ ev _)

/-- No listener is taken off by an event that is not one of loading. -/
theorem run_takeOnce (h : b.Sound) (htype : ¬ IsLoading type) (place : Place) :
    (takeOnce place type).run b = ((), b) := by
  have hall : b.listeners.filter (fun l => !(l.handler.isOnce && l.hears place type))
      = b.listeners := by
    refine List.filter_eq_self.mpr fun l hl => ?_
    cases hhears : l.hears place type with
    | false => rw [Bool.and_false, Bool.not_false]
    | true =>
      have hhook := hook?_eq_none_of_mem_events
        (h.mem_events_of_hearing (List.mem_filter.mpr ⟨hl, hhears⟩)) htype
      cases hk : l.handler
      case firstLoad config =>
        rw [hk] at hhook
        cases hhook
      all_goals rfl
  show ((), { b with listeners := _ }) = ((), b)
  rw [hall]

/-- One place of the way, and the rest of it. -/
theorem run_bubble_cons (h : b.Sound) (htype : ¬ IsLoading type) (place : Place)
    (places : List Place) (ev : Event) :
    (bubble type (place :: places) ev).run b
      = (bubble type places ((tell (b.listeners.filter (·.hears place type)) ev).run b).1).run
          ((tell (b.listeners.filter (·.hears place type)) ev).run b).2 := by
  rw [bubble, StateT.run_bind, StateT.run_get, pure_bind, StateT.run_bind, run_takeOnce h htype]
  rfl

theorem run_bubble_place (h : b.Sound) (htype : ¬ IsLoading type) (place : Place) (ev : Event) :
    ((bubble type [place] ev).run b).2
      = ((tell (b.listeners.filter (·.hears place type)) ev).run b).2 := by
  rw [run_bubble_cons h htype]
  rfl

/-- Whoever hears an event at a place is a listener of that place. -/
theorem mem_hearing {l : Listener} {place : Place}
    (hl : l ∈ b.listeners.filter (·.hears place type)) : l ∈ b.listeners ∧ l.place = place := by
  obtain ⟨hmem, hhears⟩ := List.mem_filter.mp hl
  rw [Listener.hears, Bool.and_eq_true, beq_iff_eq] at hhears
  exact ⟨hmem, hhears.1⟩

theorem tell_rests {ls : List Listener} (hb : b.document.WellNumbered)
    (hls : ∀ l ∈ ls, l.handler.hook? = none ∧ (∀ c, l.handler ≠ .watch c) ∧
      l.handler.toggled? ≠ some icon ∧ b.document.Spares field l.handler) (ev : Event) :
    Along (Document.InPlace (Rests icon field calm)) b ((tell ls ev).run b).2 := by
  have hframe := isFrame_inPlace (isLikeness_rests icon field calm)
  induction ls generalizing ev b with
  | nil => exact hframe.refl b
  | cons l ls ih =>
    obtain ⟨hhook, hwatch, hicon, hspares⟩ := hls l List.mem_cons_self
    have hfirst : Along (Document.InPlace (Rests icon field calm)) b
        ((handle ev l.handler).run b).2 := handle_rests hhook hwatch hicon hspares ev
    obtain ⟨hplace, hnumbered, -⟩ := hfirst.steady hb
    refine hframe.trans hfirst (ih hnumbered (fun k hk => ?_) _)
    obtain ⟨hhook, hwatch, hicon, hspares⟩ := hls k (List.mem_cons_of_mem l hk)
    exact ⟨hhook, hwatch, hicon, spares_of_inPlace hplace hspares⟩

/-- **Other elements on the way** leave the field and the icon at rest. -/
theorem bubble_rests (calm : Prop) (h : b.Orderly icon field) (htype : ¬ IsLoading type)
    {ns : List Nat} (hns : icon ∉ ns) (ev : Event) :
    Along (Document.InPlace (Rests icon field calm)) b
      ((bubble type (ns.map .element) ev).run b).2 := by
  have hframe := isFrame_inPlace (isLikeness_rests icon field calm)
  induction ns generalizing ev b with
  | nil => exact hframe.refl b
  | cons n ns ih =>
    rw [List.mem_cons, not_or] at hns
    have hfirst : Along (Document.InPlace (Rests icon field calm)) b
        ((bubble type [.element n] ev).run b).2 := by
      rw [run_bubble_place h.sound htype]
      refine tell_rests h.sound.numbered (fun l hl => ?_) ev
      obtain ⟨hmem, hplace⟩ := mem_hearing hl
      have hplaced := h.placed l hmem
      have hicon : l.handler.toggled? ≠ some icon := fun htoggled => by
        have hsame := hplace.symm.trans (hplaced.toggle icon htoggled)
        injection hsame with hsame
        exact hns.1 hsame.symm
      refine ⟨hook?_eq_none_of_mem_events (h.sound.mem_events_of_hearing hl) htype, fun c hc => ?_,
        hicon, h.alone l hmem hicon⟩
      have hdocument := hplace.symm.trans (hplaced.watch c hc)
      cases hdocument
    have hsplit : bubble type ((n :: ns).map Place.element) ev
        = bubble type [.element n] ev >>= bubble type (ns.map .element) :=
      bubble_append type [.element n] (ns.map .element) ev
    rw [hsplit, StateT.run_bind]
    exact hframe.trans hfirst (ih (h.along hfirst.steady) hns.2 _)

/-- **At the end of the way** things may move, but are left as they are. -/
theorem bubble_rests_document (h : b.Sound) (hplaced : ∀ l ∈ b.listeners, l.Placed)
    (hcalm : calm → b.AllCalm) (htype : ¬ IsLoading type) (ev : Event) :
    Along (Document.Alike (Rests icon field calm)) b ((bubble type [.document] ev).run b).2 := by
  have hframe := isFrame_alike (isLikeness_rests icon field calm)
  have hls : ∀ l ∈ b.listeners.filter (·.hears .document type),
      l.handler.hook? = none ∧ l.handler.toggled? = none := by
    intro l hl
    refine ⟨hook?_eq_none_of_mem_events (h.mem_events_of_hearing hl) htype, ?_⟩
    obtain ⟨hmem, hplace⟩ := mem_hearing hl
    refine Option.eq_none_iff_forall_not_mem.mpr fun icon htoggled => ?_
    have hicon := hplace.symm.trans ((hplaced l hmem).toggle icon htoggled)
    cases hicon
  rw [run_bubble_place h htype]
  have hb := h.numbered
  clear hplaced h
  generalize b.listeners.filter _ = ls at hls ⊢
  induction ls generalizing ev b with
  | nil => exact hframe.refl b
  | cons l ls ih =>
    obtain ⟨hhook, htoggled⟩ := hls l List.mem_cons_self
    have hfirst : Along (Document.Alike (Rests icon field calm)) b
        ((handle ev l.handler).run b).2 := handle_rests_document hhook htoggled hcalm ev
    exact hframe.trans hfirst (ih (allCalm_of_along hcalm hb hfirst) _ (hfirst hb).2.1
      fun k hk => hls k (List.mem_cons_of_mem l hk))

/-- **Tasks** begin runs and copy texts, so they stay in what allows that. -/
theorem settle_along {D : Document → Document → Prop} {may : Nat → Operation → Prop}
    (hR : IsFrame (Along D) may) (hrefl : ∀ d, D d d) (htext : AllowsText (Along D))
    (hb : b.document.WellNumbered)
    (hmay : ∀ config ∈ b.offers.map (·.config), MayServe may config) :
    Along D b ((settle).run b).2 := by
  have hruns := allowsRuns_along hrefl
  have hperform (task : Task) {b : Browser}
      (hmay : ∀ config ∈ b.offers.map (·.config), MayServe may config) :
      Along D b ((perform task).run b).2 := by
    cases task with
    | run n =>
      exact beginRun_stays hR hruns htext (fun o ho => hmay o.config (List.mem_map_of_mem ho)) n
    | copy text => exact stays_copyText hR text b
  have hall (tasks : List Task) {b : Browser} (hb : b.document.WellNumbered)
      (hmay : ∀ config ∈ b.offers.map (·.config), MayServe may config) :
      Along D b ((tasks.forM perform).run b).2 := by
    induction tasks generalizing b with
    | nil => exact hR.refl b
    | cons task tasks ih =>
      have hfirst := hperform task hmay
      obtain ⟨-, hb', haround⟩ := hfirst hb
      exact hR.trans hfirst (ih hb' (haround.offers ▸ hmay))
  have hcleared : Along D b { b with tasks := [] } := hruns.tasks b []
  exact hR.trans hcleared (hall b.tasks hb hmay)

/-- **Tasks** leave fields and icons as they are. -/
theorem settle_rests (icon field : Nat) (hb : b.document.WellNumbered) (hcalm : calm → b.AllCalm) :
    Along (Document.Alike (Rests icon field calm)) b ((settle).run b).2 := by
  have hK := isLikeness_rests icon field calm
  exact settle_along (isFrame_alike hK) (fun d => (Document.InPlace.refl hK d).alike)
    (allowsText_rests icon field calm) hb
    fun config hconfig => mayServe_rests fun hc => hcalm hc config hconfig

end Passing

end Passkey.Browser
