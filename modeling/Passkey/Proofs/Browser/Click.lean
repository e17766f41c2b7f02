/-
Passkey/Proofs/Browser/Click.lean

What a click starts.

A click passes an element and everything that it lies in.  On its way it is
heard by widgets, which show something or leave a text for the clipboard, and
by the listener of a trigger, which starts a run.  Widgets come and go with
the page, so what matters of a click is counted: it starts one run for every
activation that hears it, in this order (`called_dispatch`).  A trigger lies
in the page once, so a click on the trigger of the session starts one run
(`started_click`).
-/
import Passkey.Proofs.Browser.Hearing

namespace Passkey.Browser

/-! ### What widgets do -/

namespace Element

variable {operation : Element → Element}

theorem keepsMark_of_attributes (hnumber : ∀ e, (operation e).number = e.number)
    (hattributes : ∀ e, (operation e).attributes = e.attributes) :
    KeepsMark fun e => .ok (operation e) := by
  intro e e' h
  cases h
  refine ⟨hnumber e, fun hc => ?_⟩
  rwa [isClaimed, data?, attribute?, hattributes]

theorem keepsMark_guarded {fault : ElementFault} {thrown : ScriptValue}
    (h : KeepsMark fun e => .ok (operation e)) :
    KeepsMark fun e => e.guarded fault thrown (operation e) := by
  intro e e' he
  dsimp only [guarded] at he
  split at he
  · cases he
  · exact h e e' he

theorem keepsMark_setStyle (property value : String) : KeepsMark (·.setStyle property value) :=
  keepsMark_guarded (keepsMark_of_attributes (fun _ => rfl) fun _ => rfl)

theorem keepsMark_removeStyle (property : String) : KeepsMark (·.removeStyle property) :=
  keepsMark_guarded (keepsMark_of_attributes (fun _ => rfl) fun _ => rfl)

/-- Setting another attribute leaves the mark alone. -/
theorem keepsMark_setAttribute {name : String}
    (h : Text.asciiLowerText name ≠ "data-initialized") (value : String) :
    KeepsMark (·.setAttribute [.text name, .text value]) := by
  intro e e' he
  dsimp only [setAttribute] at he
  split at he
  · cases he
  · split at he
    · cases he
      exact ⟨rfl, fun hc => (isClaimed_withAttribute h _).trans hc⟩
    · cases he

end Element

section Widgets

theorem quietly_changeAll {changes : List (Nat × (Element → Except ScriptValue Element))}
    (h : ∀ c ∈ changes, Element.KeepsMark c.2) : Quietly (changeAll changes) := by
  induction changes with
  | nil => exact quietly_pure _
  | cons c rest ih =>
    refine (quietly_change (h c List.mem_cons_self) c.1).bind fun thrown => ?_
    cases thrown with
    | none => exact ih fun c' hc' => h c' (List.mem_cons_of_mem c hc')
    | some v => exact quietly_pure _

theorem quietly_swapClasses (n : Nat) (removed added : List String) :
    Quietly (changeAll (swapClasses n removed added)) := by
  refine quietly_changeAll fun c hc => ?_
  rcases List.mem_append.mp hc with hc | hc
  · obtain ⟨name, -, rfl⟩ := List.mem_map.mp hc
    exact Element.keepsMark_removeClass name
  · obtain ⟨name, -, rfl⟩ := List.mem_map.mp hc
    exact Element.keepsMark_addClass name

/-- Writing an attribute that is neither the style nor the mark. -/
theorem quietly_writeAttribute {name : String} (hstyle : Widget.isStyleAttribute name = false)
    (hmark : Text.asciiLowerText name ≠ "data-initialized") (n : Nat) (value : String) :
    Quietly (writeAttribute n name value) := by
  have hdirect : Quietly (setAttributeDirectly (.element n) [.text name, .text value]) :=
    quietly_change (Element.keepsMark_setAttribute hmark value) n
  have hkept : divertedStyle? (.element n) [.text name, .text value] = none := by
    show (if Widget.isStyleAttribute name then _ else none) = none
    rw [hstyle]
    rfl
  refine quietly_get.bind fun b => ?_
  rw [hkept]
  split
  · exact quietly_pure _
  · split
    · exact hdirect
    · exact hdirect

theorem quietly_togglePassword (icon : Nat) : Quietly (togglePassword icon) := by
  refine quietly_get.bind fun b => ?_
  split
  · exact quietly_log _ _ _ _
  · refine (quietly_writeAttribute (by decide) (by decide) _ _).bind fun written => ?_
    cases written with
    | none =>
      refine (quietly_swapClasses _ _ _).bind fun thrown => ?_
      cases thrown with
      | none => exact quietly_pure _
      | some v => exact quietly_log _ _ _ _
    | some v => exact quietly_log _ _ _ _

theorem quietly_playCaptcha (button : Nat) : Quietly (playCaptcha button) := by
  refine quietly_get.bind fun b => ?_
  dsimp only
  split
  · exact quietly_pure _
  · split
    · exact quietly_pure _
    · refine (quietly_record _).bind fun _ => ?_
      split
      · exact quietly_log _ _ _ _
      · exact quietly_pure _

theorem quietly_setDisplayed (displayed : Bool) (e : Element) :
    Quietly (setDisplayed displayed e) := by
  have hkeeps : Element.KeepsMark fun e =>
      if displayed then e.removeStyle "display" else e.setStyle "display" "none" := by
    cases displayed
    · exact Element.keepsMark_setStyle _ _
    · exact Element.keepsMark_removeStyle _
  refine (quietly_change hkeeps e.number).bind fun thrown => ?_
  cases thrown with
  | none => exact quietly_pure _
  | some v => exact quietly_log _ _ _ _

theorem quietly_changeInputs (name : String) {operation : Element → Element}
    (h : Element.KeepsMark fun e => .ok (operation e)) : Quietly (changeInputs name operation) := by
  refine quietly_get.bind fun b => quietly_forM (fun e => ?_) _
  split
  · exact (quietly_change h _).bind fun _ => quietly_pure _
  · exact quietly_pure _

theorem quietly_setClassDisplayed (name : String) (displayed : Bool) :
    Quietly (setClassDisplayed name displayed) :=
  quietly_get.bind fun _ => quietly_forM (quietly_setDisplayed displayed) _

theorem quietly_showPhoto (state : Widget.PhotoState) : Quietly (showPhoto state) := by
  refine (quietly_setClassDisplayed _ _).bind fun _ => (quietly_setClassDisplayed _ _).bind
    fun _ => ?_
  have hchecked : Quietly
      (changeInputs "photo-delete-button" fun e => { e with checked := state.deleteChecked }) :=
    quietly_changeInputs _ (Element.keepsMark_of_attributes (fun _ => rfl) fun _ => rfl)
  split
  · refine (quietly_changeInputs _ ?_).bind fun _ => hchecked
    exact Element.keepsMark_of_attributes (fun _ => rfl) fun _ => rfl
  · exact hchecked

end Widgets

/-! ### Runs that are started -/

/-- The ceremony of which a handler starts runs. -/
def Handler.ceremony? : Handler → Option Nat
  | .activate c => some c
  | _ => none

/-- The ceremonies of which a click starts runs at a place. -/
def clicked (b : Browser) (place : Place) : List Nat :=
  (b.listeners.filter (·.hears place "click")).filterMap (·.handler.ceremony?)

/-- Runs of ceremonies are started, one after the other; nothing else becomes of the session. -/
structure Started (b : Browser) (cs : List Nat) (b' : Browser) : Prop where
  sound : b'.Sound
  session : b'.session = b.session
  offers : b'.offers = b.offers
  activations : b'.activations = b.activations
  runs : b'.runs = b.runs ++ cs.map fun c => ⟨c, false, .spawned⟩
  tasks : b.tasks ⊆ b'.tasks
  spawned : ∀ i < cs.length, .run (b.runs.length + i) ∈ b'.tasks

/-- The run that a task begins, if it begins one. -/
def Task.run? : Task → Option Nat
  | .run n => some n
  | .copy _ => none

/-- The runs that will begin when the current action is over. -/
def waiting (b : Browser) : List Nat :=
  b.tasks.filterMap (·.run?)

/-- Runs of ceremonies are started, and no other runs will begin. -/
structure Called (b : Browser) (cs : List Nat) (b' : Browser) : Prop extends Started b cs b' where
  waiting : b'.waiting = b.waiting ++ List.range' b.runs.length cs.length

section Started

variable {b b' b'' : Browser} {cs cs' : List Nat}

theorem Quiet.called (h : b.Quiet b') : b.Called [] b' where
  sound := h.sound
  session := h.session
  offers := h.offers
  activations := h.activations
  runs := h.runs.trans (List.append_nil _).symm
  tasks := fun _ ht => h.tasks ▸ ht
  spawned := nofun
  waiting := by
    rw [Browser.waiting, Browser.waiting, h.tasks]
    exact (List.append_nil _).symm

theorem Started.trans (h : b.Started cs b') (h' : b'.Started cs' b'') :
    b.Started (cs ++ cs') b'' where
  sound := h'.sound
  session := h'.session.trans h.session
  offers := h'.offers.trans h.offers
  activations := h'.activations.trans h.activations
  runs := by rw [h'.runs, h.runs, List.append_assoc, List.map_append]
  tasks := List.Subset.trans h.tasks h'.tasks
  spawned i hi := by
    rcases Nat.lt_or_ge i cs.length with hlt | hge
    · exact h'.tasks (h.spawned i hlt)
    · rw [List.length_append] at hi
      have hspawned := h'.spawned (i - cs.length) (by omega)
      rw [h.runs, List.length_append, List.length_map] at hspawned
      rwa [Nat.add_assoc, Nat.add_sub_cancel' hge] at hspawned

theorem Called.trans (h : b.Called cs b') (h' : b'.Called cs' b'') :
    b.Called (cs ++ cs') b'' where
  toStarted := h.toStarted.trans h'.toStarted
  waiting := by
    rw [h'.waiting, h.waiting, h.runs, List.length_append, List.length_map, List.length_append,
      List.append_assoc, List.range'_append_1]

/-- What a click starts is known from the activations. -/
theorem clicked_eq (b : Browser) (place : Place) :
    b.clicked place
      = (b.activations.filter (·.hears place "click")).filterMap (·.handler.ceremony?) := by
  refine heard_eq Handler.isActivation (fun k hk => ?_) b "click" place
  cases k
  case activate c => cases hk
  all_goals rfl

theorem clicked_congr (h : b'.activations = b.activations) : b'.clicked = b.clicked := by
  funext place
  rw [clicked_eq, clicked_eq, h]

theorem called_spawn_copy (h : b.Sound) (text : String) :
    b.Called [] ((spawn (.copy text)).run b).2 where
  sound := ⟨h.numbered, h.made⟩
  session := rfl
  offers := rfl
  activations := rfl
  runs := (List.append_nil _).symm
  tasks := List.subset_append_left _ _
  spawned := nofun
  waiting := List.filterMap_append

theorem called_copyFrom (h : b.Sound) (target : Place) :
    b.Called [] ((copyFrom target).run b).2 := by
  rw [copyFrom, StateT.run_bind, StateT.run_get, pure_bind]
  dsimp only
  split
  · exact (Quiet.refl h).called
  · split
    · exact (quietly_log _ _ _ _ b h).called
    · split
      · exact (quietly_log _ _ _ _ b h).called
      · next input _ =>
        have hrecorded := quietly_record (.select input.number) b h
        exact hrecorded.called.trans (called_spawn_copy hrecorded.sound input.value)

/-- A run is started. -/
theorem called_activate (h : b.Sound) (ev : Event) (c : Nat) :
    b.Called [c] ((handle ev (.activate c)).run b).2 where
  sound := ⟨h.numbered, h.made⟩
  session := rfl
  offers := rfl
  activations := rfl
  runs := rfl
  tasks := List.subset_append_left _ _
  spawned i hi := by
    rw [List.length_singleton, Nat.lt_one_iff] at hi
    rw [hi]
    exact List.mem_append_right _ List.mem_cons_self
  waiting := List.filterMap_append

/-- **A handler of clicks starts a run if it is an activation**, and prevents nothing less than
was prevented before. -/
theorem called_handle (h : b.Sound) {k : Handler} (hk : "click" ∈ k.events) (ev : Event) :
    b.Called k.ceremony?.toList ((handle ev k).run b).2 ∧
      (ev.prevented = true ∨ k.ceremony?.toList ≠ [] →
        ((handle ev k).run b).1.prevented = true) := by
  have hsame (hno : k.ceremony? = none) :
      ev.prevented = true ∨ k.ceremony?.toList ≠ [] → ev.prevented = true := by
    rw [hno]
    exact fun h => h.resolve_right fun h => h rfl
  cases k
  case activate c => exact ⟨called_activate h ev c, fun _ => rfl⟩
  case toggle icon => exact ⟨(quietly_togglePassword icon b h).called, hsame rfl⟩
  case copy => exact ⟨called_copyFrom h ev.target, hsame rfl⟩
  case play button => exact ⟨(quietly_playCaptcha button b h).called, hsame rfl⟩
  case deletePhoto =>
    have hshown := (quietly_showPhoto .removed b h).called
    rw [handle, StateT.run_bind]
    generalize (showPhoto .removed).run b = shown at hshown ⊢
    exact ⟨hshown, fun _ => rfl⟩
  all_goals simp [Handler.events] at hk

/-- **Clicks add up**: a run is started for every activation that hears them, and the first one
prevents for good. -/
theorem addsUp_click : AddsUp Handler.ceremony? "click" fun cs x y =>
    x.2.Called cs y.2 ∧ (x.1.prevented = true ∨ cs ≠ [] → y.1.prevented = true) where
  sound h := h.1.sound
  heard h := clicked_congr h.1.activations
  quiet ev _ _ h := ⟨h.called, fun hany => hany.resolve_right fun h => h rfl⟩
  trans := by
    rintro cs cs' x y z ⟨hfirst, hprevented⟩ ⟨hrest, hlast⟩
    refine ⟨hfirst.trans hrest, fun hany => hlast ?_⟩
    cases cs with
    | nil => exact hany.imp_left fun hev => hprevented (.inl hev)
    | cons c cs => exact .inl (hprevented (.inr (List.cons_ne_nil c cs)))
  handle ev _ _ h hk := called_handle h hk ev

theorem called_dispatch (h : b.Sound) (place : Place) (key : Option String)
    (detail : ScriptValue) :
    b.Called ((route b.document "click" place).flatMap b.clicked)
        ((dispatch place "click" key detail).run b).2 ∧
      ((route b.document "click" place).flatMap b.clicked ≠ [] →
        ((dispatch place "click" key detail).run b).1.prevented = true) := by
  obtain ⟨hcalled, hprevented⟩ := addsUp_click.dispatch place key detail h
  exact ⟨hcalled, fun hany => hprevented (.inr hany)⟩

end Started

/-! ### Clicks on the trigger -/

section Session

variable {b : Browser} {n c : Nat}

theorem clicked_of_activations (ha : b.activations = [⟨.element n, "click", .activate c⟩])
    (place : Place) : b.clicked place = if place = .element n then [c] else [] := by
  rw [clicked_eq, ha]
  by_cases hp : place = .element n
  · simp [hp, Listener.hears, Handler.ceremony?]
  · simp [hp, Listener.hears, Ne.symm hp]

/-- **A click that passes the trigger of the session starts one run of its ceremony**, and any
other click starts none. -/
theorem called_passing (h : b.Sound)
    (ha : b.activations = [⟨.element n, "click", .activate c⟩]) (place : Place)
    (key : Option String) (detail : ScriptValue) :
    b.Called (if .element n ∈ route b.document "click" place then [c] else [])
        ((dispatch place "click" key detail).run b).2 ∧
      (.element n ∈ route b.document "click" place →
        ((dispatch place "click" key detail).run b).1.prevented = true) := by
  obtain ⟨hcalled, hprevented⟩ := called_dispatch h place key detail
  rw [funext (clicked_of_activations ha), flatMap_route h.numbered] at hcalled hprevented
  refine ⟨hcalled, fun hpassed => hprevented ?_⟩
  rw [if_pos hpassed]
  exact List.cons_ne_nil c []

/-- **A click on the trigger of the session starts a run of its ceremony**, and is kept from
what the browser would do by itself. -/
theorem started_click (h : b.Sound) (hn : n ∈ b.document.tree.numbers)
    (ha : b.activations = [⟨.element n, "click", .activate c⟩]) (key : Option String)
    (detail : ScriptValue) :
    b.Started [c] ((dispatch (.element n) "click" key detail).run b).2 ∧
      ((dispatch (.element n) "click" key detail).run b).1.prevented = true := by
  obtain ⟨e, he, rfl⟩ := List.mem_map.mp hn
  obtain ⟨hcalled, hprevented⟩ := called_passing h ha (.element e.number) key detail
  have hpassed : .element e.number ∈ route b.document "click" (.element e.number) :=
    mem_route (List.mem_append_left _ he)
  rw [if_pos hpassed] at hcalled
  exact ⟨hcalled.toStarted, hprevented hpassed⟩

end Session

end Passkey.Browser
