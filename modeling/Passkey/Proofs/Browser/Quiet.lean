/-
Passkey/Proofs/Browser/Quiet.lean

Actions that leave the session alone.

Most of what the page does shows or hides something, writes a line, claims an
element or attaches listeners of widgets.  None of this touches the session of
a ceremony: its number, the listeners that start runs, the runs and the tasks
stay as they are, and the document is edited at most.  An action with this
property is quiet.  Quiet actions compose, so each one is shown to be quiet
from the pieces that it is made of.
-/
import Passkey.Browser.Loading
import Passkey.Proofs.Browser.Numbering

namespace Passkey.Browser

/-! ### Marks -/

namespace Element

variable {e e' : Element} {name value : String}

theorem attribute?_withAttribute (e : Element) (name value other : String) :
    (e.withAttribute name value).attribute? other
      = if other = name then some value else e.attribute? other :=
  lookup_putEntry name value other e.attributes

theorem isClaimed_eq (e : Element) :
    e.isClaimed = (e.attribute? "data-initialized" == some "true") := rfl

theorem isClaimed_withAttribute (h : name ≠ "data-initialized") (value : String) :
    (e.withAttribute name value).isClaimed = e.isClaimed := by
  rw [isClaimed_eq, isClaimed_eq, attribute?_withAttribute, if_neg (Ne.symm h)]

/-- The operation takes no mark away. -/
def KeepsMark (operation : Element → Except ScriptValue Element) : Prop :=
  ∀ e e', operation e = .ok e' →
    e'.number = e.number ∧ (e.isClaimed = true → e'.isClaimed = true)

theorem keepsMark_changeClass (name : String) (classes : Element → List String) :
    KeepsMark fun e => e.changeClass name (classes e) := by
  intro e e' h
  dsimp only [changeClass] at h
  split at h
  · cases h
  · split at h
    · cases h
    · split at h
      · cases h
      · cases h
        rw [withClasses]
        split
        · exact ⟨rfl, fun he => he⟩
        · exact ⟨rfl, fun he => (isClaimed_withAttribute (by decide) _).trans he⟩

theorem keepsMark_addClass (name : String) : KeepsMark (·.addClass name) :=
  keepsMark_changeClass name _

theorem keepsMark_removeClass (name : String) : KeepsMark (·.removeClass name) :=
  keepsMark_changeClass name _

/-- What claiming makes of an element that can be marked. -/
theorem setData_claim_eq_ok (h : e.setData claimEntry claimMark = .ok e') :
    e' = e.withAttribute "data-initialized" "true" := by
  rw [setData, guarded] at h
  split at h
  · cases h
  · next e₁ hg =>
    split at hg
    · cases hg
    · cases hg
      rw [guarded] at h
      split at h
      · cases h
      · exact (Except.ok.inj h).symm

theorem isClaimed_of_setData (h : e.setData claimEntry claimMark = .ok e') :
    e'.isClaimed = true := by
  rw [setData_claim_eq_ok h, isClaimed_eq, attribute?_withAttribute, if_pos rfl]
  rfl

theorem keepsMark_claim : KeepsMark (·.setData claimEntry claimMark) := by
  intro e e' h
  refine ⟨?_, fun _ => isClaimed_of_setData h⟩
  rw [setData_claim_eq_ok h]
  rfl

end Element

/-! ### Listeners -/

/-- The events that a handler is attached for. -/
def Handler.events : Handler → List String
  | .load _ => ["htmx:load"]
  | .firstLoad _ => ["DOMContentLoaded"]
  | .swapErrors => ["htmx:beforeOnLoad"]
  | .watch _ => ["keydown"]
  | .activate _ => ["click"]
  | .toggle _ => ["click"]
  | .press _ => ["keydown"]
  | .copy => ["click", "focus"]
  | .play _ => ["click"]
  | .deletePhoto => ["click"]
  | .previewPhoto => ["change"]

/-- The load hook that a handler runs, if it does, with its settings. -/
def Handler.hook? : Handler → Option Config
  | .load config => some config
  | .firstLoad config => some config
  | _ => none

/-- Whether a handler starts runs. -/
def Handler.isActivation : Handler → Bool
  | .activate _ => true
  | _ => false

/-- The ceremony that a handler belongs to, if it belongs to one. -/
def Handler.attends? : Handler → Option Nat
  | .watch c => some c
  | .activate c => some c
  | _ => none

/-- A listener that hears what its handler is for; load hooks are run from the
document. -/
structure Listener.Made (l : Listener) : Prop where
  event : l.event ∈ l.handler.events
  hook : l.handler.hook?.isSome = true → l.place = .document

/-- The listeners that start runs. -/
def activations (b : Browser) : List Listener :=
  b.listeners.filter (·.handler.isActivation)

/-- The listeners of ceremonies. -/
def attendants (b : Browser) : List Listener :=
  b.listeners.filter (·.handler.attends?.isSome)

/-- What starts runs is some of the listeners of ceremonies. -/
theorem activations_eq (b : Browser) :
    b.activations = b.attendants.filter (·.handler.isActivation) := by
  rw [activations, attendants, List.filter_filter]
  refine List.filter_congr fun l _ => ?_
  cases l.handler <;> rfl

/-! ### Quiet changes -/

/-- Numbers are given once, and every listener hears what it is for. -/
structure Sound (b : Browser) : Prop where
  numbered : b.document.WellNumbered
  made : ∀ l ∈ b.listeners, l.Made

/-- A change that leaves the session alone. -/
structure Quiet (b b' : Browser) : Prop where
  sound : b'.Sound
  edit : b.document.Edit b'.document
  surroundings : b'.surroundings = b.surroundings
  session : b'.session = b.session
  offers : b'.offers = b.offers
  runs : b'.runs = b.runs
  tasks : b'.tasks = b.tasks
  attendants : b'.attendants = b.attendants

section Quiet

variable {b b' b'' : Browser}

/-- Whoever hears an event is made for events of that type. -/
theorem Sound.mem_events_of_hearing (h : b.Sound) {place : Place} {type : String} {l : Listener}
    (hl : l ∈ b.listeners.filter (·.hears place type)) : type ∈ l.handler.events := by
  obtain ⟨hmem, hhears⟩ := List.mem_filter.mp hl
  rw [Listener.hears, Bool.and_eq_true, beq_iff_eq, beq_iff_eq] at hhears
  exact hhears.2 ▸ (h.made l hmem).event

theorem Quiet.activations (h : b.Quiet b') : b'.activations = b.activations := by
  rw [activations_eq, activations_eq, h.attendants]

theorem Quiet.trans (h : b.Quiet b') (h' : b'.Quiet b'') : b.Quiet b'' where
  sound := h'.sound
  edit := h.edit.trans h'.edit
  surroundings := h'.surroundings.trans h.surroundings
  session := h'.session.trans h.session
  offers := h'.offers.trans h.offers
  runs := h'.runs.trans h.runs
  tasks := h'.tasks.trans h.tasks
  attendants := h'.attendants.trans h.attendants

/-- A change of nothing that matters to sessions. -/
theorem Sound.quiet_of_same (h : b.Sound) (hdocument : b'.document = b.document)
    (hlisteners : b'.listeners = b.listeners) (hsurroundings : b'.surroundings = b.surroundings)
    (hsession : b'.session = b.session) (hoffers : b'.offers = b.offers)
    (hruns : b'.runs = b.runs) (htasks : b'.tasks = b.tasks) : b.Quiet b' where
  sound := ⟨hdocument ▸ h.numbered, hlisteners ▸ h.made⟩
  edit := by
    rw [hdocument]
    exact .refl h.numbered
  surroundings := hsurroundings
  session := hsession
  offers := hoffers
  runs := hruns
  tasks := htasks
  attendants := by rw [Browser.attendants, Browser.attendants, hlisteners]

theorem Quiet.refl (h : b.Sound) : b.Quiet b :=
  h.quiet_of_same rfl rfl rfl rfl rfl rfl rfl

/-- An edit of the document. -/
theorem Sound.quiet_edit (h : b.Sound) {d : Document} (hd : b.document.Edit d) :
    b.Quiet { b with document := d } where
  sound := ⟨hd.wellNumbered, h.made⟩
  edit := hd
  surroundings := rfl
  session := rfl
  offers := rfl
  runs := rfl
  tasks := rfl
  attendants := rfl

end Quiet

/-- An action all of whose changes are quiet. -/
def Quietly {α : Type} (m : StateM Browser α) : Prop :=
  ∀ b : Browser, b.Sound → b.Quiet (m.run b).2

section Quietly

variable {α β : Type} {m : StateM Browser α}

theorem quietly_pure (a : α) : Quietly (pure a) :=
  fun _ h => .refl h

theorem quietly_get : Quietly get :=
  fun _ h => .refl h

theorem Quietly.bind {f : α → StateM Browser β} (hm : Quietly m) (hf : ∀ a, Quietly (f a)) :
    Quietly (m >>= f) := by
  intro b h
  have hq := hm b h
  exact hq.trans (hf _ _ hq.sound)

theorem quietly_forM {f : α → StateM Browser PUnit} (hf : ∀ a, Quietly (f a)) (as : List α) :
    Quietly (as.forM f) := by
  induction as with
  | nil => exact quietly_pure _
  | cons a as ih => exact (hf a).bind fun _ => ih

theorem quietly_record (call : Call) : Quietly (record call) :=
  fun _ h => h.quiet_of_same rfl rfl rfl rfl rfl rfl rfl

theorem quietly_log (source : Source) (level : Level) (message : String)
    (details : List (String × String)) : Quietly (log source level message details) := by
  intro b h
  show b.Quiet (if _ then _ else _)
  split
  · exact h.quiet_of_same rfl rfl rfl rfl rfl rfl rfl
  · exact .refl h

/-- Changing an element is quiet if it takes no mark away. -/
theorem quietly_change {operation : Element → Except ScriptValue Element}
    (ho : Element.KeepsMark operation) (n : Nat) : Quietly (change n operation) := by
  intro b h
  show b.Quiet (change n operation b).2
  rw [change]
  split
  · exact .refl h
  · next e he =>
    split
    · exact .refl h
    · next e' he' =>
      obtain ⟨hnumber, hmark⟩ := ho e e' he'
      obtain ⟨hmem, rfl⟩ := Document.mem_of_element? he
      refine h.quiet_edit (Document.edit_update h.numbered ?_)
      intro e₁ he₁ hn
      -- the number belongs to one element only
      have hsame : e₁ = e := by
        have hfound := Document.element?_number h.numbered he₁
        rw [hn, hnumber, he] at hfound
        exact (Option.some.inj hfound).symm
      exact ⟨rfl, fun hc => hmark (hsame ▸ hc)⟩

theorem quietly_listen {place : Place} {event : String} {handler : Handler}
    (hmade : Listener.Made ⟨place, event, handler⟩) (hno : handler.attends? = none) :
    Quietly (listen place event handler) := by
  intro b h
  refine ⟨⟨h.numbered, ?_⟩, .refl h.numbered, rfl, rfl, rfl, rfl, rfl, ?_⟩
  · intro l hl
    rcases List.mem_append.mp hl with hl | hl
    · exact h.made l hl
    · rw [List.mem_singleton.mp hl]
      exact hmade
  · show (b.listeners ++ [_]).filter _ = _
    rw [List.filter_append, List.filter_singleton]
    dsimp only
    rw [hno]
    exact List.append_nil _

theorem quietly_arm (milliseconds : Nat) (alarm : Alarm) : Quietly (arm milliseconds alarm) :=
  (quietly_record _).bind fun _ _ h => h.quiet_of_same rfl rfl rfl rfl rfl rfl rfl

/-! ### What a page is asked -/

section Page

variable (config : Config)

theorem quietly_note (notice : Notice) : Quietly (note notice) := by
  cases notice <;> exact quietly_log _ _ _ _

theorem quietly_named? (setting : TextSetting) : Quietly (named? config setting) := by
  refine quietly_get.bind fun b => ?_
  dsimp only
  split
  · exact (quietly_log _ _ _ _).bind fun _ => quietly_pure _
  · exact quietly_pure _

theorem quietly_setHidden (hidden : Bool) (n : Nat) : Quietly (setHidden config hidden n) := by
  have hkeeps : Element.KeepsMark fun e =>
      if hidden then e.addClass (config.text .hiddenClass)
      else e.removeClass (config.text .hiddenClass) := by
    cases hidden
    · exact Element.keepsMark_removeClass _
    · exact Element.keepsMark_addClass _
  refine (quietly_change hkeeps n).bind fun thrown => ?_
  cases thrown with
  | none => exact quietly_pure _
  | some v => exact quietly_log _ _ _ _

theorem quietly_hideErrors : Quietly (hideErrors config) := by
  rw [hideErrors]
  split
  · exact quietly_log _ _ _ _
  · exact quietly_get.bind fun b => quietly_forM (fun _ => quietly_setHidden config true _) _

theorem quietly_setMessageHidden (hidden : Bool) : Quietly (setMessageHidden config hidden) := by
  refine (quietly_named? config .message).bind fun element => ?_
  cases element with
  | none => exact quietly_pure _
  | some e => exact quietly_setHidden config hidden e.number

theorem quietly_hideMessages : Quietly (page config).hideMessages :=
  (quietly_hideErrors config).bind fun _ => quietly_setMessageHidden config true

theorem quietly_revealError (key : String) : Quietly (revealError config key) := by
  refine quietly_get.bind fun b => ?_
  split
  · exact quietly_pure _
  · exact (quietly_setHidden config false _).bind fun _ => quietly_pure _

theorem quietly_setText (n : Nat) (text : String) :
    Quietly (modify fun b => { b with document := b.document.setText n text }) :=
  fun _ h => h.quiet_edit (Document.edit_setText h.numbered n text)

theorem quietly_showGenericError (text : String) : Quietly (showGenericError config text) := by
  refine (quietly_named? config .errorMessage).bind fun message => ?_
  rcases message with - | e
  on_goal 2 => refine (quietly_setText e.number text).bind fun _ => ?_
  -- with or without a message, the area is shown
  all_goals
    refine (quietly_named? config .errorArea).bind fun area => ?_
    cases area with
    | none => exact quietly_log _ _ _ _
    | some e => exact quietly_setHidden config false e.number

/-- **Showing an error is quiet.** -/
theorem quietly_displayError (key : String) : Quietly ((page config).displayError key) := by
  refine (quietly_hideMessages config).bind fun _ => ?_
  refine (quietly_revealError config key).bind fun revealed => ?_
  cases revealed
  · exact quietly_showGenericError config key
  · exact quietly_pure _

theorem quietly_optionsText : Quietly (optionsText config) :=
  (quietly_named? config .optionsInput).bind fun _ => quietly_get.bind fun _ => quietly_pure _

theorem quietly_claim (e : Element) : Quietly (claim e) := by
  rw [claim]
  split
  · exact quietly_pure _
  · exact (quietly_change Element.keepsMark_claim _).bind fun _ => quietly_pure _

end Page

/-! ### Widgets and the start -/

theorem quietly_claimAll (es : List Element) : Quietly (claimAll es) := by
  induction es with
  | nil => exact quietly_pure _
  | cons e es ih =>
    refine (quietly_claim e).bind fun fresh => ih.bind fun others => ?_
    cases fresh <;> exact quietly_pure _

theorem quietly_bindElement (role : Role) (n : Nat) : Quietly (bindElement role n) := by
  have hlisten {event : String} {handler : Handler} (hevent : event ∈ handler.events)
      (hhook : handler.hook? = none) (hno : handler.attends? = none) :
      Quietly (listen (.element n) event handler) := by
    refine quietly_listen ⟨hevent, ?_⟩ hno
    intro h
    rw [hhook] at h
    cases h
  cases role with
  | passwordToggle =>
    refine (hlisten List.mem_cons_self rfl rfl).bind fun _ => ?_
    exact (hlisten List.mem_cons_self rfl rfl).bind fun _ => quietly_pure _
  | copyButton => exact (hlisten List.mem_cons_self rfl rfl).bind fun _ => quietly_pure _
  | copyText => exact (hlisten (by decide) rfl rfl).bind fun _ => quietly_pure _
  | captchaAudio => exact (hlisten List.mem_cons_self rfl rfl).bind fun _ => quietly_pure _
  | photoDelete => exact (hlisten List.mem_cons_self rfl rfl).bind fun _ => quietly_pure _
  | photoField => exact (hlisten List.mem_cons_self rfl rfl).bind fun _ => quietly_pure _

theorem quietly_bindRole (role : Role) : Quietly (bindRole role) := by
  refine quietly_get.bind fun b => (quietly_claimAll _).bind fun fresh => ?_
  exact quietly_forM (quietly_bindElement role) fresh

theorem quietly_bindResend : Quietly bindResend := by
  refine quietly_get.bind fun b => ?_
  split
  · exact quietly_pure _
  · refine (quietly_claim _).bind fun claimed => ?_
    cases claimed
    · exact quietly_pure _
    · rw [if_pos rfl]
      split
      · exact quietly_pure _
      · refine quietly_get.bind fun b => (quietly_log _ _ _ _).bind fun _ => ?_
        exact (quietly_arm _ _).bind fun _ => quietly_pure _

/-- **Binding the widgets is quiet.** -/
theorem quietly_bindAll : Quietly bindAll :=
  (quietly_forM quietly_bindRole _).bind fun _ => quietly_bindResend

theorem quietly_installConsole (config : Config) : Quietly (installConsole config) := by
  refine quietly_get.bind fun b => ?_
  split
  · exact quietly_record _
  · exact fun _ h => h.quiet_of_same rfl rfl rfl rfl rfl rfl rfl

theorem quietly_divertStyle : Quietly divertStyle := by
  intro b h
  simp only [divertStyle, StateT.run_bind, StateT.run_get, pure_bind]
  split
  · exact quietly_log _ _ _ _ b h
  · have hset : b.Quiet { b with diverted := true } :=
      h.quiet_of_same rfl rfl rfl rfl rfl rfl rfl
    exact hset.trans (quietly_log _ _ _ _ _ hset.sound)

theorem quietly_takeOnce (place : Place) (type : String) : Quietly (takeOnce place type) := by
  intro b h
  refine ⟨⟨h.numbered, fun l hl => h.made l (List.mem_of_mem_filter hl)⟩, .refl h.numbered,
    rfl, rfl, rfl, rfl, rfl, ?_⟩
  show (b.listeners.filter _).filter _ = b.listeners.filter _
  rw [List.filter_filter]
  refine List.filter_congr fun l _ => ?_
  -- a listener of a ceremony is none that hears one event only
  cases l.handler <;> simp [Handler.attends?, Handler.isOnce]

end Quietly

end Passkey.Browser
