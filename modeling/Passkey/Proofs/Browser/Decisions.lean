/-
Passkey/Proofs/Browser/Decisions.lean

Events that decide about a photo.

A visitor deletes the photo, or picks a file for a new one.  The event of such a
decision passes places of the page, and somewhere on its way a listener shows
the state that the decision is for.  Whoever else hears the event leaves the
photo alone or does the same.  So a page that is ready for the decision stays
so, and it shows that state from the listener on (`bubble_leads`):

    click     every page is ready, and whoever decides shows the deleted photo
    change    a page is ready if the field holds a file, and the file is shown

A pick that is cancelled leaves the field empty, and then nobody does anything
(`guides_cancel`).
-/
import Passkey.Proofs.Browser.Attendance
import Passkey.Proofs.Browser.Photo

namespace Passkey.Browser

open Widget

/-! ### Decisions on the way of an event -/

/-- The state of the photo that a handler decides for, if it does. -/
def Handler.decides? : Handler → Option PhotoState
  | .deletePhoto => some .removed
  | .previewPhoto => some .previewing
  | _ => none

/-- The file that the target of an event holds. -/
def Document.fileAt? (d : Document) (target : Place) : Option String :=
  (target.element? d).bind (·.firstFile?)

/-- What becomes of a page that is ready for a decision: it stays ready, it goes on showing the
state that the decision is for, and it shows that once the decision is made. -/
structure Document.Leads (s : PhotoState) (isReady : Document → Prop) (decided : Prop)
    (d d' : Document) : Prop where
  thins : d.Thins (PhotoKin False) d'
  ready : isReady d → isReady d'
  shows : isReady d → decided ∨ d.Shows s → d'.Shows s

section Leads

variable {s : PhotoState} {isReady : Document → Prop} {p q : Prop} {d d' d'' : Document}
  {b b' b'' : Browser} {type : String} {target : Place}

theorem Document.Leads.refl (d : Document) : d.Leads s isReady False d :=
  ⟨.refl (isLikeness_photoKin False) d, id, fun _ h => h.resolve_left id⟩

theorem Document.Leads.trans (h : d.Leads s isReady p d') (h' : d'.Leads s isReady q d'') :
    d.Leads s isReady (p ∨ q) d'' := by
  refine ⟨h.thins.trans (isLikeness_photoKin False) h'.thins, h'.ready ∘ h.ready,
    fun hready hshows => h'.shows (h.ready hready) ?_⟩
  rcases hshows with (hp | hq) | hshows
  · exact .inr (h.shows hready (.inl hp))
  · exact .inl hq
  · exact .inr (h.shows hready (.inr hshows))

theorem Document.Leads.mono (h : d.Leads s isReady p d') (hq : q → p) : d.Leads s isReady q d' :=
  ⟨h.thins, h.ready, fun hready hshows => h.shows hready (hshows.imp_left hq)⟩

theorem along_leads_refl (b : Browser) : Along (Document.Leads s isReady False) b b :=
  along_of_document_eq Document.Leads.refl rfl ⟨rfl, rfl, rfl, rfl⟩

theorem along_leads_trans (h : Along (Document.Leads s isReady p) b b')
    (h' : Along (Document.Leads s isReady q) b' b'') :
    Along (Document.Leads s isReady (p ∨ q)) b b'' := by
  intro hb
  obtain ⟨hleads, hb', haround⟩ := h hb
  obtain ⟨hleads', hb'', haround'⟩ := h' hb'
  exact ⟨hleads.trans hleads', hb'', haround.trans haround'⟩

/-- A handler does not change where the event arrived. -/
theorem target_handle (ev : Event) (k : Handler) (b : Browser) :
    ((handle ev k).run b).1.target = ev.target := by
  cases k
  case watch c =>
    rw [handle, StateT.run_bind, StateT.run_get, pure_bind]
    split <;> rfl
  case press icon =>
    rw [handle]
    split
    · rfl
    · split <;> rfl
  case activate c => rfl
  all_goals
    rw [handle, run_then]
    rfl

/-- Somebody at a place hears events of a type and decides for a state. -/
def DecidesAt (b : Browser) (place : Place) (s : PhotoState) : Prop :=
  ∃ l ∈ b.listeners, l.place = place ∧ l.handler.decides? = some s

instance (b : Browser) (place : Place) (s : PhotoState) : Decidable (b.DecidesAt place s) :=
  inferInstanceAs (Decidable (∃ l ∈ b.listeners, _))

/-- The handlers of events of a type do what leads to a state. -/
def Guides (type : String) (target : Place) (s : PhotoState) (isReady : Document → Prop) : Prop :=
  ∀ k : Handler, type ∈ k.events → ∀ (ev : Event) (b : Browser), ev.target = target →
    Along (Document.Leads s isReady (k.decides? = some s)) b ((handle ev k).run b).2

/-- **Listeners that hear an event** lead to the state that one of them decides for. -/
theorem tell_leads (hguides : Guides type target s isReady) {ls : List Listener}
    (hls : ∀ l ∈ ls, type ∈ l.handler.events) {ev : Event} (hev : ev.target = target)
    (b : Browser) :
    Along (Document.Leads s isReady (∃ l ∈ ls, l.handler.decides? = some s)) b
        ((tell ls ev).run b).2 ∧
      ((tell ls ev).run b).1.target = target := by
  induction ls generalizing b ev with
  | nil => exact ⟨(along_leads_refl b).mono fun h => h.mono (by simp), hev⟩
  | cons l ls ih =>
    have hfirst := hguides l.handler (hls l List.mem_cons_self) ev b hev
    obtain ⟨hrest, htarget⟩ := ih (fun k hk => hls k (List.mem_cons_of_mem l hk))
      ((target_handle ev l.handler b).trans hev) ((handle ev l.handler).run b).2
    refine ⟨(along_leads_trans hfirst hrest).mono fun h => h.mono ?_, htarget⟩
    simp only [List.mem_cons, exists_eq_or_imp]
    exact id

/-- **An event on its way** leads to the state that somebody on the way decides for. -/
theorem bubble_leads (hguides : Guides type target s isReady) (h : b.Sound)
    (htype : ¬ IsLoading type) {places : List Place} {ev : Event} (hev : ev.target = target) :
    Along (Document.Leads s isReady
        (∃ place ∈ places, ∃ l ∈ b.listeners.filter (·.hears place type),
          l.handler.decides? = some s)) b
      ((bubble type places ev).run b).2 := by
  induction places generalizing b ev with
  | nil => exact (along_leads_refl b).mono fun h => h.mono (by simp)
  | cons place places ih =>
    have hhearing : ∀ l ∈ b.listeners.filter (·.hears place type), type ∈ l.handler.events :=
      fun _ hl => h.mem_events_of_hearing hl
    obtain ⟨hheard, htarget⟩ := tell_leads hguides hhearing hev b
    rw [run_bubble_cons h htype]
    generalize (tell (b.listeners.filter (·.hears place type)) ev).run b = heard
      at hheard htarget ⊢
    obtain ⟨ev', b'⟩ := heard
    have hrest := ih (h.along hheard) htarget
    -- the listeners are the same all the way
    rw [(hheard h.numbered).2.2.listeners] at hrest
    refine (along_leads_trans hheard hrest).mono fun h => h.mono ?_
    simp only [List.mem_cons, exists_eq_or_imp]
    exact id

theorem dispatch_leads (hguides : Guides type target s isReady) (h : b.Sound)
    (htype : ¬ IsLoading type) (key : Option String) (detail : ScriptValue) :
    Along (Document.Leads s isReady
        (∃ place ∈ route b.document type target,
          ∃ l ∈ b.listeners.filter (·.hears place type), l.handler.decides? = some s)) b
      ((dispatch target type key detail).run b).2 :=
  bubble_leads hguides h htype rfl

/-! ### Clicks and changes -/

/-- What leaves the photo alone leads to any state, but decides for none. -/
theorem Document.Thins.leads (h : d.Thins (PhotoKin True) d') (hready : isReady d → isReady d') :
    d.Leads s isReady False d' :=
  ⟨h.mono fun _ _ hkin => hkin.mono False.elim, hready,
    fun _ hshows => (hshows.resolve_left id).thins h⟩

/-- What is shown when a photo is deleted or picked. -/
theorem leads_showPhoto (s : PhotoState) (b : Browser) :
    Along (Document.Leads s (fun _ => True) True) b ((showPhoto s).run b).2 := by
  intro hb
  have hR := isFrame_thins (isLikeness_photoKin False)
  obtain ⟨hthins, hrest⟩ := stays_showPhoto hR mayPhoto_photoKin s b hb
  exact ⟨⟨hthins, fun _ => trivial, fun _ _ => shows_showPhoto hb s⟩, hrest⟩

theorem thins_togglePassword (icon : Nat) (b : Browser) :
    Along (Document.Thins (PhotoKin True)) b ((togglePassword icon).run b).2 := by
  have hclass : ∀ name ∈ iconClasses, name ∉ photoClasses := by decide
  have htoggled : Along (Document.InPlace (PhotoKin True)) b ((togglePassword icon).run b).2 :=
    togglePassword_along (isLikeness_photoKin True)
      (fun name hname => mayClass_photoKin (hclass name hname) icon)
      fun _ _ hfield v => photoKin_withType hfield v
  exact htoggled.mono fun h => h.thins

/-- **Whoever hears a click** deletes the photo or leaves it alone. -/
theorem guides_click (target : Place) : Guides "click" target .removed fun _ => True := by
  have hR := isFrame_thins (isLikeness_photoKin True)
  have hrefl := Document.Thins.refl (isLikeness_photoKin True)
  have hstill {k : Handler} {b b' : Browser} (hk : k.decides? = none)
      (halong : Along (Document.Thins (PhotoKin True)) b b') :
      Along (Document.Leads .removed (fun _ => True) (k.decides? = some .removed)) b b' := by
    refine halong.mono fun h => (h.leads fun _ => trivial).mono fun hdecides => ?_
    rw [hk] at hdecides
    cases hdecides
  intro k hk ev b _
  cases k
  case activate c =>
    exact hstill rfl (along_of_document_eq hrefl rfl ⟨rfl, rfl, rfl, rfl⟩)
  case toggle icon =>
    rw [handle, run_then]
    exact hstill rfl (thins_togglePassword icon b)
  case copy =>
    have hspawn (text : String) : Stays (Along (Document.Thins (PhotoKin True)))
        (spawn (.copy text)) := fun b => (allowsRuns_along hrefl).tasks b _
    rw [handle, run_then]
    exact hstill rfl (stays_copyFrom hR hspawn ev.target b)
  case play button =>
    rw [handle, run_then]
    exact hstill rfl (stays_playCaptcha hR button b)
  case deletePhoto =>
    have hshown := leads_showPhoto .removed b
    rw [handle, run_then]
    generalize (showPhoto .removed).run b = shown at hshown ⊢
    exact hshown.mono fun h => h.mono fun _ => trivial
  all_goals simp [Handler.events] at hk

/-- A cancelled pick is heard, and nothing is done. -/
theorem run_previewPhoto_of_none (h : b.document.fileAt? target = none) :
    (previewPhoto target).run b = (log .widgets .debug "Photo field cleared" []).run b := by
  rw [Document.fileAt?] at h
  rw [previewPhoto, StateT.run_bind, StateT.run_get, pure_bind]
  simp only [h]

/-- The state that is shown last counts, whatever was done before. -/
theorem shows_after {m : StateM Browser Unit} (hb : b.document.WellNumbered)
    (hm : Stays (Along (Document.Thins (PhotoKin False))) m) (s : PhotoState) :
    ((m >>= fun _ => showPhoto s).run b).2.document.Shows s := by
  rw [run_seq]
  exact shows_showPhoto (hm b hb).2.1 s

/-- After a pick the page shows the state of a picked photo. -/
theorem shows_previewPhoto (hb : b.document.WellNumbered) {name : String}
    (h : b.document.fileAt? target = some name) :
    ((previewPhoto target).run b).2.document.Shows .previewing := by
  have hR := isFrame_thins (isLikeness_photoKin False)
  have hstate : PhotoState.afterChange (some name).isSome = some .previewing := rfl
  rw [Document.fileAt?] at h
  rw [previewPhoto, StateT.run_bind, StateT.run_get, pure_bind]
  simp only [h, hstate]
  rw [run_seq]
  have hrecorded := (stays_record hR (.createObjectUrl name) b hb).2.1
  generalize ((record (.createObjectUrl name)).run b).2 = b at hrecorded ⊢
  rw [StateT.run_bind, StateT.run_get, pure_bind]
  dsimp only
  -- whether the file gets an address or not, the state is shown behind it
  split
  · exact shows_after hrecorded (stays_log hR _ _ _ _) .previewing
  · exact shows_after hrecorded (stays_setPreviews hR maySource_photoKin _) .previewing

/-- **Whoever hears a change** shows the file that was picked, and does nothing if there is none. -/
theorem guides_change
    (hnone : ∀ {d : Document}, d.fileAt? target = none →
      d.Leads s isReady (s = .previewing) d)
    (hsome : ∀ {d d' : Document} {name : String}, d.fileAt? target = some name →
      d.Thins (PhotoKin False) d' → d'.Shows .previewing →
      d.Leads s isReady (s = .previewing) d') :
    Guides "change" target s isReady := by
  have hR := isFrame_thins (isLikeness_photoKin False)
  intro k hk ev b hev
  cases k
  case previewPhoto =>
    have hpreviewed : Along (Document.Leads s isReady (s = .previewing)) b
        ((previewPhoto target).run b).2 := by
      intro hb
      obtain ⟨hthins, hrest⟩ :=
        stays_previewPhoto hR mayPhoto_photoKin maySource_photoKin target b hb
      refine ⟨?_, hrest⟩
      cases hfile : b.document.fileAt? target with
      | none =>
        rw [run_previewPhoto_of_none hfile, document_log]
        exact hnone hfile
      | some name => exact hsome hfile hthins (shows_previewPhoto hb hfile)
    rw [handle, run_then, hev]
    generalize (previewPhoto target).run b = previewed at hpreviewed ⊢
    exact hpreviewed.mono fun h => h.mono fun hs => (Option.some.inj hs).symm
  all_goals simp [Handler.events] at hk

/-- A page is ready for a pick if the field holds the file, or if a pick was shown already. -/
theorem guides_pick (target : Place) :
    Guides "change" target .previewing fun d =>
      d.Shows .previewing ∨ (d.fileAt? target).isSome = true := by
  have hthins := Document.Thins.refl (isLikeness_photoKin False)
  refine guides_change (fun hnone => ⟨hthins _, id, fun hready _ => ?_⟩)
    fun _ hthins hshows => ⟨hthins, fun _ => .inl hshows, fun _ _ => hshows⟩
  rw [hnone] at hready
  exact hready.resolve_right Bool.false_ne_true

/-- Nothing becomes of a page on which the field holds no file. -/
theorem guides_cancel {d₀ : Document} (h : d₀.fileAt? target = none) :
    Guides "change" target .removed (· = d₀) := by
  have hthins := Document.Thins.refl (isLikeness_photoKin False)
  refine guides_change (fun _ => ⟨hthins _, id, fun _ hshows => hshows.resolve_left nofun⟩)
    fun hsome hthins _ => ⟨hthins, ?_, ?_⟩
  · rintro rfl
    rw [h] at hsome
    cases hsome
  · rintro rfl
    rw [h] at hsome
    cases hsome

end Leads

end Passkey.Browser
