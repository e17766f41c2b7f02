/-
Passkey/Proofs/Browser/Aside.lean

Whatever happens beside the load hook.

Runs begin, ask, post and end; widgets are used, timers ring, and scripts
change the page.  Ceremonies, runs and tasks change with it, but the session
does not: it belongs to the same ceremony, no ceremony is made, and the
listeners of ceremonies are the same ones.  An action with this property is an
aside.  Quiet actions are asides, asides compose, and every action of the
program that runs no load hook is one (`asidely_dispatch`, `asidely_settle`).
-/
import Passkey.Browser.Visit
import Passkey.Proofs.Browser.Click

namespace Passkey.Browser

/-! ### Asides -/

/-- A change that leaves the session and the listeners of ceremonies as they are. -/
structure Aside (b b' : Browser) : Prop where
  sound : b'.Sound
  session : b'.session = b.session
  offers : b'.offers.length = b.offers.length
  attendants : b'.attendants = b.attendants

section Aside

variable {b b' b'' : Browser}

theorem Aside.trans (h : b.Aside b') (h' : b'.Aside b'') : b.Aside b'' where
  sound := h'.sound
  session := h'.session.trans h.session
  offers := h'.offers.trans h.offers
  attendants := h'.attendants.trans h.attendants

theorem Quiet.aside (h : b.Quiet b') : b.Aside b' where
  sound := h.sound
  session := h.session
  offers := h.offers ▸ rfl
  attendants := h.attendants

end Aside

/-- An action all of whose changes are asides. -/
def Asidely {α : Type} (m : StateM Browser α) : Prop :=
  ∀ b : Browser, b.Sound → b.Aside (m.run b).2

section Asidely

variable {α β : Type} {m : StateM Browser α}

theorem Quietly.asidely (h : Quietly m) : Asidely m :=
  fun b hb => (h b hb).aside

theorem asidely_pure (a : α) : Asidely (pure a) :=
  (quietly_pure a).asidely

theorem asidely_get : Asidely get :=
  quietly_get.asidely

theorem Asidely.bind {f : α → StateM Browser β} (hm : Asidely m) (hf : ∀ a, Asidely (f a)) :
    Asidely (m >>= f) := by
  intro b h
  have ha := hm b h
  exact ha.trans (hf _ _ ha.sound)

theorem asidely_forM {f : α → StateM Browser PUnit} (hf : ∀ a, Asidely (f a)) (as : List α) :
    Asidely (as.forM f) := by
  induction as with
  | nil => exact asidely_pure _
  | cons a as ih => exact (hf a).bind fun _ => ih

theorem asidely_log (source : Source) (level : Level) (message : String)
    (details : List (String × String)) : Asidely (log source level message details) :=
  (quietly_log source level message details).asidely

theorem asidely_record (call : Call) : Asidely (record call) :=
  (quietly_record call).asidely

/-- A change of nothing but ceremonies, runs, tasks and the like. -/
theorem asidely_modify {change : Browser → Browser}
    (hdocument : ∀ b, (change b).document = b.document)
    (hlisteners : ∀ b, (change b).listeners = b.listeners)
    (hsession : ∀ b, (change b).session = b.session)
    (hoffers : ∀ b, (change b).offers.length = b.offers.length) : Asidely (modify change) := by
  intro b h
  have hattendants : (change b).attendants = b.attendants := by
    rw [attendants, attendants, hlisteners]
  exact ⟨⟨(hdocument b).symm ▸ h.numbered, (hlisteners b).symm ▸ h.made⟩, hsession b, hoffers b,
    hattendants⟩

/-- Changing an element is an aside whatever it does to marks. -/
theorem asidely_change (n : Nat) (operation : Element → Except ScriptValue Element) :
    Asidely (change n operation) := by
  intro b h
  show b.Aside (change n operation b).2
  rw [change]
  split
  · exact (Quiet.refl h).aside
  · split
    · exact (Quiet.refl h).aside
    · next e _ =>
      -- what takes the place of an element is known by the number of that place
      have hnumbered : (b.document.put e).WellNumbered :=
        Document.wellNumbered_update h.numbered fun _ _ _ => rfl
      exact ⟨⟨hnumbered, h.made⟩, rfl, rfl, rfl⟩

theorem asidely_changeAll (changes : List (Nat × (Element → Except ScriptValue Element))) :
    Asidely (changeAll changes) := by
  induction changes with
  | nil => exact asidely_pure _
  | cons c rest ih =>
    refine (asidely_change c.1 c.2).bind fun thrown => ?_
    cases thrown with
    | none => exact ih
    | some v => exact asidely_pure _

end Asidely

/-! ### Scripts and widgets -/

section Scripts

theorem asidely_applyStyle (n : Nat) (style : String) : Asidely (applyStyle n style) := by
  rw [applyStyle]
  -- a property that cannot be assigned is told to the console, and the next one follows
  induction Widget.declarations style with
  | nil => exact asidely_pure _
  | cons d rest ih =>
    refine (asidely_change n _).bind fun thrown => ?_
    cases thrown with
    | none => exact ih
    | some v => exact (asidely_log _ _ _ _).bind fun _ => ih

/-- **A script may write any attribute**, diverted or not. -/
theorem asidely_callSetAttribute (place : Place) (args : List ScriptValue) :
    Asidely (callSetAttribute place args) := by
  have hdirect : Asidely (setAttributeDirectly place args) := by
    cases place with
    | document => exact asidely_pure _
    | element n => exact asidely_change n _
  refine asidely_get.bind fun b => ?_
  split
  · exact asidely_pure _
  · split
    · split
      · exact (asidely_applyStyle _ _).bind fun _ => asidely_pure _
      · exact hdirect
    · exact hdirect

theorem asidely_setPreviews (address : String) : Asidely (setPreviews address) := by
  refine asidely_get.bind fun b => asidely_forM (fun e => ?_) _
  refine (asidely_callSetAttribute _ _).bind fun thrown => ?_
  cases thrown with
  | none => exact asidely_pure _
  | some v => exact asidely_log _ _ _ _

theorem asidely_previewPhoto (target : Place) : Asidely (previewPhoto target) := by
  refine asidely_get.bind fun b => ?_
  dsimp only
  split
  · refine (asidely_record _).bind fun _ => asidely_get.bind fun b => ?_
    split
    · exact (asidely_log _ _ _ _).bind fun _ => (quietly_showPhoto _).asidely
    · exact (asidely_setPreviews _).bind fun _ => (quietly_showPhoto _).asidely
  · exact asidely_log _ _ _ _

theorem asidely_swapErrors (detail : ScriptValue) : Asidely (swapErrors detail) := by
  rw [swapErrors]
  split
  · exact asidely_pure _
  · split
    · exact (asidely_log _ _ _ _).bind fun _ => asidely_pure _
    · split
      · exact (asidely_log _ _ _ _).bind fun _ => asidely_pure _
      · exact asidely_pure _

theorem asidely_spawn (task : Task) : Asidely (spawn task) :=
  asidely_modify (fun _ => rfl) (fun _ => rfl) (fun _ => rfl) fun _ => rfl

theorem asidely_copyFrom (target : Place) : Asidely (copyFrom target) := by
  refine asidely_get.bind fun b => ?_
  dsimp only
  split
  · exact asidely_pure _
  · split
    · exact asidely_log _ _ _ _
    · split
      · exact asidely_log _ _ _ _
      · exact (asidely_record _).bind fun _ => asidely_spawn _

theorem asidely_copyText (text : String) : Asidely (copyText text) := by
  have hcommand : Asidely commandCopy := by
    refine asidely_get.bind fun b => ?_
    dsimp only
    split
    · refine (asidely_record _).bind fun _ => ?_
      split
      · exact asidely_log _ _ _ _
      · exact asidely_pure _
    · split
      · exact asidely_log _ _ _ _
      · exact asidely_pure _
  have hwrite : Asidely (writeClipboard text) := by
    refine asidely_get.bind fun b => ?_
    dsimp only
    split
    all_goals first
      | exact asidely_pure _
      | exact (asidely_record _).bind fun _ => asidely_pure _
  refine hwrite.bind fun thrown => ?_
  cases thrown with
  | none => exact asidely_pure _
  | some v => exact (asidely_log _ _ _ _).bind fun _ => hcommand

theorem asidely_enableResend (button : Nat) (icon : Option Nat) :
    Asidely (enableResend button icon) := by
  refine (asidely_changeAll _).bind fun thrown => ?_
  cases thrown with
  | none => exact asidely_pure _
  | some v => exact asidely_log _ _ _ _

end Scripts

/-! ### Runs -/

section Runs

theorem asidely_setStage (n : Nat) (stage : Stage) : Asidely (setStage n stage) :=
  asidely_modify (fun _ => rfl) (fun _ => rfl) (fun _ => rfl) fun _ => rfl

theorem asidely_setCeremony (n : Nat) (c : Ceremony) : Asidely (setCeremony n c) :=
  asidely_modify (fun _ => rfl) (fun _ => rfl) (fun _ => rfl) fun _ => List.length_modify _ _ _

theorem asidely_disarm (number : Nat) : Asidely (disarm number) :=
  asidely_modify (fun _ => rfl) (fun _ => rfl) (fun _ => rfl) fun _ => rfl

theorem asidely_within {α : Type} {action : StateM Browser α} (h : Asidely action) (named : Bool)
    (mode : Mode) : Asidely (within named mode action) := by
  have hspan (f : Browser → Option Mode) : Asidely (modify fun b => { b with span := f b }) :=
    asidely_modify (fun _ => rfl) (fun _ => rfl) (fun _ => rfl) fun _ => rfl
  exact (hspan _).bind fun _ => h.bind fun _ => (hspan _).bind fun _ => asidely_pure _

theorem asidely_setBusy (config : Config) (busy : Bool) : Asidely (setBusy config busy) := by
  refine asidely_get.bind fun b => ?_
  split
  · exact asidely_pure _
  · dsimp only
    split
    on_goal 1 => refine (asidely_callSetAttribute _ _).bind fun disabling => ?_
    on_goal 2 => refine (asidely_change _ _).bind fun disabling => ?_
    -- the class follows in any case
    all_goals
      refine (asidely_change _ _).bind fun marking => ?_
      split
      · exact asidely_log _ _ _ _
      · exact asidely_pure _

theorem asidely_navigate (target : String) : Asidely (navigate target) := by
  refine (asidely_record _).bind fun _ => asidely_get.bind fun b => ?_
  split
  · exact asidely_log _ _ _ _
  · exact asidely_pure _

/-- A page of which everything that a ceremony asks once it is set up is an aside. -/
structure IsAsidePage (p : Page Browser) : Prop where
  clearErrors : Asidely p.clearErrors
  displayError : ∀ key, Asidely (p.displayError key)
  setBusy : ∀ busy, Asidely (p.setBusy busy)
  location : Asidely p.location
  navigate : ∀ target, Asidely (p.navigate target)
  note : ∀ notice, Asidely (p.note notice)

theorem isAsidePage_page (config : Config) : IsAsidePage (page config) where
  clearErrors := ((quietly_hideErrors config).bind fun _ =>
    quietly_setMessageHidden config false).asidely
  displayError key := (quietly_displayError config key).asidely
  setBusy := asidely_setBusy config
  location := asidely_get.bind fun _ => asidely_pure _
  navigate := asidely_navigate
  note notice := (quietly_note notice).asidely

section Ceremony

variable {p : Page Browser} (c : Ceremony)

theorem asidely_keydown (hp : IsAsidePage p) (key : String) (now : Float) :
    Asidely (c.keydown p key now) := by
  rw [Ceremony.keydown]
  dsimp only
  split
  · exact (hp.note _).bind fun _ => (hp.displayError _).bind fun _ => asidely_pure _
  · exact asidely_pure _

theorem asidely_start (hp : IsAsidePage p) : Asidely (c.start p) := by
  rw [Ceremony.start]
  split
  · exact (hp.note _).bind fun _ => asidely_pure _
  · exact hp.clearErrors.bind fun _ => (hp.setBusy true).bind fun _ => asidely_pure _

theorem asidely_submission (hp : IsAsidePage p) : Asidely (Ceremony.submission p) :=
  hp.location.bind fun _ => (hp.note _).bind fun _ => asidely_pure _

theorem asidely_fail (hp : IsAsidePage p) (failure : Failure) : Asidely (c.fail p failure) :=
  (hp.note _).bind fun _ => (hp.displayError _).bind fun _ => (hp.setBusy false).bind fun _ =>
    asidely_pure _

theorem asidely_conclude (hp : IsAsidePage p) (location : String) (answer : Except Failure Reply) :
    Asidely (c.conclude p location answer) := by
  rw [Ceremony.conclude]
  split
  · exact (hp.note _).bind fun _ => (hp.navigate _).bind fun _ => asidely_pure _
  · exact asidely_fail c hp _

end Ceremony

theorem asidely_endRun (n : Nat) (r : Run) {ending : StateM Browser (Ceremony.Outcome × Ceremony)}
    (h : Asidely ending) : Asidely (endRun n r ending) :=
  h.bind fun _ => (asidely_setCeremony _ _).bind fun _ => asidely_setStage _ _

theorem asidely_failRun (n : Nat) (r : Run) (o : Offer) (failure : Failure) :
    Asidely (failRun n r o failure) :=
  asidely_endRun n r (asidely_fail o.ceremony (isAsidePage_page o.config) failure)

theorem asidely_askPlatform (n : Nat) (r : Run) (o : Offer) : Asidely (askPlatform n r o) := by
  rw [askPlatform]
  split
  · exact asidely_failRun _ _ _ _
  · refine (asidely_log _ _ _ _).bind fun _ => (asidely_record _).bind fun _ =>
      asidely_get.bind fun b => ?_
    split
    · exact asidely_failRun _ _ _ _
    · exact asidely_setStage _ _

/-- **A run begins**, and asks the platform if its ceremony is free. -/
theorem asidely_beginRun (n : Nat) : Asidely (beginRun n) := by
  refine asidely_get.bind fun b => ?_
  split
  · exact asidely_pure _
  · next r o _ =>
    -- the run is told to the console by name or not; then its ceremony starts it
    have hnamed (named : Bool) :
        Asidely (modify fun b => { b with runs := b.runs.modify n fun r => { r with named } }) :=
      asidely_modify (fun _ => rfl) (fun _ => rfl) (fun _ => rfl) fun _ => rfl
    refine (hnamed _).bind fun _ => asidely_within ?_ _ _
    refine (asidely_start o.ceremony (isAsidePage_page o.config)).bind fun answer =>
      (asidely_setCeremony _ _).bind fun _ => ?_
    split
    · exact asidely_askPlatform _ _ _
    · exact asidely_setStage _ _

theorem asidely_post (run timeout : Nat) (url body : String) :
    Asidely (post run timeout url body) := by
  refine asidely_get.bind fun b => ?_
  split
  · exact asidely_pure _
  · refine (quietly_arm timeout (.abort run)).asidely.bind fun timer => asidely_get.bind fun b => ?_
    split
    · exact (asidely_disarm _).bind fun _ => asidely_pure _
    · exact (asidely_record _).bind fun _ => asidely_pure _

theorem asidely_submit (n : Nat) (r : Run) (o : Offer) (credential : Credential) :
    Asidely (submit n r o credential) := by
  refine (asidely_submission (isAsidePage_page o.config)).bind fun location =>
    (asidely_post _ _ _ _).bind fun posted => ?_
  cases posted with
  | error failure => exact asidely_failRun _ _ _ _
  | ok timer => exact asidely_setStage _ _

/-- **The platform answers the oldest run that asked.** -/
theorem asidely_answerPlatform (answer : Except ScriptValue PlatformAnswer) :
    Asidely (answerPlatform answer) := by
  refine asidely_get.bind fun b => ?_
  split
  · exact asidely_pure _
  · refine (asidely_within ?_ _ _).bind fun _ => asidely_pure _
    split
    · exact asidely_failRun _ _ _ _
    · exact asidely_submit _ _ _ _

theorem asidely_failRequest (n : Nat) (r : Run) (o : Offer) (timer : Nat) (fault : FetchFault) :
    Asidely (failRequest n r o timer fault) :=
  (asidely_disarm _).bind fun _ => asidely_within (asidely_failRun _ _ _ _) _ _

/-- **The server answers the oldest run that waits.** -/
theorem asidely_answerRequest (response : Response) : Asidely (answerRequest response) := by
  have hreceive : Asidely (receive response) := by
    refine asidely_get.bind fun b => ?_
    split
    · exact asidely_pure _
    · exact (asidely_disarm _).bind fun _ => (asidely_setStage _ _).bind fun _ => asidely_pure _
  have hread (response : Response) : Asidely (readReply response) := by
    rw [readReply]
    split
    · exact (asidely_log _ _ _ _).bind fun _ => asidely_pure _
    · exact asidely_pure _
  have hfinish : Asidely finishReading := by
    refine asidely_get.bind fun b => ?_
    split
    · exact asidely_pure _
    · next n r o location response _ =>
      exact asidely_within ((hread response).bind fun answer =>
        asidely_endRun n r (asidely_conclude o.ceremony (isAsidePage_page o.config) location answer)) _ _
  exact hreceive.bind fun _ => hfinish.bind fun _ => asidely_pure _

theorem asidely_breakRequest (fault : FetchFault) : Asidely (breakRequest fault) := by
  refine asidely_get.bind fun b => ?_
  split
  · exact asidely_pure _
  · exact (asidely_failRequest _ _ _ _ _).bind fun _ => asidely_pure _

theorem asidely_abortRequest (n : Nat) : Asidely (abortRequest n) := by
  refine (asidely_record _).bind fun _ => asidely_get.bind fun b => ?_
  split
  · split
    · exact asidely_failRequest _ _ _ _ _
    · exact asidely_pure _
  · exact asidely_pure _

end Runs

/-! ### Tasks and timers -/

theorem asidely_settle : Asidely settle := by
  have htasks : Asidely (modify fun b => { b with tasks := [] }) :=
    asidely_modify (fun _ => rfl) (fun _ => rfl) (fun _ => rfl) fun _ => rfl
  refine asidely_get.bind fun b => htasks.bind fun _ => asidely_forM (fun task => ?_) _
  cases task with
  | run n => exact asidely_beginRun n
  | copy text => exact asidely_copyText text

theorem asidely_ringDue (time : Float) (count : Nat) : Asidely (ringDue time count) := by
  -- on the number of timers that may still ring
  induction count with
  | zero => exact asidely_pure _
  | succ count ih =>
    refine asidely_get.bind fun b => ?_
    split
    · exact asidely_pure _
    · next t _ =>
      have hring : Asidely (ring t.alarm) := by
        cases t.alarm with
        | abort run => exact asidely_abortRequest run
        | enableResend button icon => exact asidely_enableResend button icon
      exact (asidely_disarm _).bind fun _ => hring.bind fun _ => asidely_settle.bind fun _ => ih

theorem asidely_setClock (f : Browser → Float) :
    Asidely (modify fun b => { b with clock := f b }) :=
  asidely_modify (fun _ => rfl) (fun _ => rfl) (fun _ => rfl) fun _ => rfl

theorem asidely_advance (milliseconds : Float) : Asidely (advance milliseconds) :=
  asidely_get.bind fun _ => (asidely_ringDue _ _).bind fun _ => asidely_setClock _

/-! ### Events -/

section Events

/-- The events that load hooks are run for. -/
def IsLoading (type : String) : Prop :=
  type = "htmx:load" ∨ type = "DOMContentLoaded"

/-- Whoever hears anything else runs no load hook. -/
theorem hook?_eq_none_of_mem_events {k : Handler} {type : String} (hk : type ∈ k.events)
    (htype : ¬ IsLoading type) : k.hook? = none := by
  cases k
  case load => exact absurd (.inl (List.mem_singleton.mp hk)) htype
  case firstLoad => exact absurd (.inr (List.mem_singleton.mp hk)) htype
  all_goals rfl

/-- **A handler that runs no load hook** leaves the session alone. -/
theorem asidely_handle {k : Handler} (hk : k.hook? = none) (ev : Event) :
    Asidely (handle ev k) := by
  cases k
  case load => cases hk
  case firstLoad => cases hk
  case swapErrors => exact (asidely_swapErrors _).bind fun _ => asidely_pure _
  case watch c =>
    refine asidely_get.bind fun b => ?_
    split
    · exact (asidely_keydown _ (isAsidePage_page _) _ _).bind fun _ => (asidely_setCeremony _ _).bind fun _ =>
        asidely_pure _
    · exact asidely_pure _
  case activate c =>
    have hrun : Asidely (modify fun b => { b with runs := b.runs ++ [⟨c, false, .spawned⟩] }) :=
      asidely_modify (fun _ => rfl) (fun _ => rfl) (fun _ => rfl) fun _ => rfl
    exact asidely_get.bind fun _ => hrun.bind fun _ => (asidely_spawn _).bind fun _ =>
      asidely_pure _
  case toggle icon => exact (quietly_togglePassword icon).asidely.bind fun _ => asidely_pure _
  case press icon =>
    rw [handle]
    split
    · exact asidely_pure _
    · split
      · exact (quietly_togglePassword icon).asidely.bind fun _ => asidely_pure _
      · exact asidely_pure _
  case copy => exact (asidely_copyFrom _).bind fun _ => asidely_pure _
  case play button => exact (quietly_playCaptcha button).asidely.bind fun _ => asidely_pure _
  case deletePhoto => exact (quietly_showPhoto _).asidely.bind fun _ => asidely_pure _
  case previewPhoto => exact (asidely_previewPhoto _).bind fun _ => asidely_pure _

theorem asidely_tell {ls : List Listener} (hl : ∀ l ∈ ls, l.handler.hook? = none) (ev : Event) :
    Asidely (tell ls ev) := by
  induction ls generalizing ev with
  | nil => exact asidely_pure _
  | cons l ls ih =>
    exact (asidely_handle (hl l List.mem_cons_self) ev).bind fun ev =>
      ih (fun k hk => hl k (List.mem_cons_of_mem l hk)) ev

/-- **Events other than those of loading** leave the session alone. -/
theorem asidely_bubble {type : String} (htype : ¬ IsLoading type) (places : List Place)
    (ev : Event) : Asidely (bubble type places ev) := by
  induction places generalizing ev with
  | nil => exact asidely_pure _
  | cons place places ih =>
    intro b h
    -- listeners hear what they are made for, so no load hook is among them
    have hhearing : ∀ l ∈ b.listeners.filter (·.hears place type), l.handler.hook? = none :=
      fun _ hl => hook?_eq_none_of_mem_events (h.mem_events_of_hearing hl) htype
    have htold : Asidely (takeOnce place type >>= fun _ =>
        tell (b.listeners.filter (·.hears place type)) ev >>= bubble type places) :=
      (quietly_takeOnce place type).asidely.bind fun _ => (asidely_tell hhearing ev).bind ih
    exact htold b h

theorem asidely_dispatch {type : String} (htype : ¬ IsLoading type) (target : Place)
    (key : Option String) (detail : ScriptValue) : Asidely (dispatch target type key detail) :=
  asidely_get.bind fun _ => asidely_bubble htype _ _

theorem asidely_press (strokes : List Keystrokes.Keystroke) : Asidely (press strokes) := by
  induction strokes with
  | nil => exact asidely_pure _
  | cons k rest ih =>
    have hkeydown : ¬ IsLoading "keydown" := by
      rw [IsLoading]
      decide
    exact (asidely_setClock _).bind fun _ => (asidely_dispatch hkeydown _ _ _).bind fun _ => ih

end Events

end Passkey.Browser
