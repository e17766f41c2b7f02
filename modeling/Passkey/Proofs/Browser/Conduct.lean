/-
Passkey/Proofs/Browser/Conduct.lean

What actions do to a page, piece by piece.

Much that is true of an action is true because of the few things that it does
to elements: it hides them, writes an attribute, marks them.  Let `R` compare
browsers before and after.  If `R` is a preorder that does not look at the
console and in which every change stays that an action may make, then every
action of the page and of its widgets stays in `R` (`IsFrame`), given that it
may make the changes that it is made of:

    setHidden       add or remove the class of hidden elements
    setBusy         write and remove one attribute, add or remove one class
    claim           write the mark
    togglePassword  write the type of a field, swap the classes of an icon

Which changes those are is a parameter, so one walk through the actions serves
every such relation.
-/
import Passkey.Browser.Loading
import Passkey.Proofs.Browser.Hook

namespace Passkey.Browser

/-! ### Relations that actions stay in -/

/-- Something that is done to an element. -/
abbrev Operation := Element → Except ScriptValue Element

/-- A relation between browsers before and after.  It looks at no calls, and every change stays in
it that may be made. -/
structure IsFrame (R : Browser → Browser → Prop) (may : Nat → Operation → Prop) : Prop where
  refl : ∀ b, R b b
  trans : ∀ {b b' b''}, R b b' → R b' b'' → R b b''
  calls : ∀ b calls span, R b { b with calls, span }
  change : ∀ {n operation}, may n operation → ∀ b, R b ((change n operation).run b).2

/-- An action all of whose runs stay in a relation. -/
def Stays {α : Type} (R : Browser → Browser → Prop) (m : StateM Browser α) : Prop :=
  ∀ b, R b (m.run b).2

/-- A class may be added and removed everywhere. -/
def MayClass (may : Nat → Operation → Prop) (name : String) : Prop :=
  ∀ n, may n (·.addClass name) ∧ may n (·.removeClass name)

/-- An attribute may be written on an element. -/
def MayWrite (may : Nat → Operation → Prop) (name : String) (n : Nat) : Prop :=
  ∀ value, may n (·.setAttribute [.text name, .text value])

/-- A relation that does not look at the texts of elements. -/
def AllowsText (R : Browser → Browser → Prop) : Prop :=
  ∀ b n text, R b { b with document := b.document.setText n text }

/-- A relation that does not look at ceremonies. -/
def AllowsCeremonies (R : Browser → Browser → Prop) : Prop :=
  ∀ n c, Stays R (setCeremony n c)

section Frame

variable {R : Browser → Browser → Prop} {may : Nat → Operation → Prop} {α β : Type}

theorem run_seq {b : Browser} {m : StateM Browser Unit} {m' : StateM Browser α} :
    (m >>= fun _ => m').run b = m'.run (m.run b).2 := rfl

theorem run_then {b : Browser} {m : StateM Browser α} {f : α → StateM Browser β} :
    (m >>= f).run b = (f (m.run b).1).run (m.run b).2 := rfl

/-- An attribute other than the one for styles is written as it is, by the shared function. -/
theorem run_writeAttribute {name : String} (hname : Widget.isStyleAttribute name = false)
    (n : Nat) (value : String) (b : Browser) :
    (writeAttribute n name value).run b
      = if b.hasSetAttribute then (change n (·.setAttribute [.text name, .text value])).run b
        else (some (.typeError "not a function"), b) := by
  have hplain : divertedStyle? (.element n) [.text name, .text value] = none := by
    show (if Widget.isStyleAttribute name then _ else _) = _
    rw [hname]
    rfl
  rw [writeAttribute, callSetAttribute, StateT.run_bind, StateT.run_get, pure_bind, hplain]
  dsimp only
  cases b.hasSetAttribute with
  | false => rfl
  | true =>
    cases b.diverted
    · rfl
    · rfl

section Basics

variable (hR : IsFrame R may)
include hR

theorem stays_pure (a : α) : Stays R (pure a) :=
  fun b => hR.refl b

theorem stays_get : Stays R get :=
  fun b => hR.refl b

theorem stays_bind {m : StateM Browser α} {f : α → StateM Browser β} (hm : Stays R m)
    (hf : ∀ a, Stays R (f a)) : Stays R (m >>= f) :=
  fun b => hR.trans (hm b) (hf _ _)

theorem stays_forM {f : α → StateM Browser PUnit} (hf : ∀ a, Stays R (f a)) (as : List α) :
    Stays R (as.forM f) := by
  induction as with
  | nil => exact stays_pure hR _
  | cons a as ih => exact stays_bind hR (hf a) fun _ => ih

theorem stays_record (call : Call) : Stays R (record call) :=
  fun b => hR.calls b _ _

theorem stays_log (source : Source) (level : Level) (message : String)
    (details : List (String × String)) : Stays R (log source level message details) := by
  intro b
  show R b (if _ then _ else _)
  split
  · exact hR.calls b _ _
  · exact hR.refl b

/-- What is done on behalf of a run. -/
theorem stays_within {action : StateM Browser α} (h : Stays R action) (named : Bool)
    (mode : Mode) : Stays R (within named mode action) := by
  have hspan (f : Browser → Option Mode) :
      Stays R (modify fun b => { b with span := f b }) :=
    fun b => hR.calls b b.calls (f b)
  refine stays_bind hR (hspan _) fun _ => stays_bind hR h fun _ => ?_
  exact stays_bind hR (hspan _) fun _ => stays_pure hR _

/-- Several changes, until one throws. -/
theorem stays_changeAll {changes : List (Nat × Operation)} (h : ∀ c ∈ changes, may c.1 c.2) :
    Stays R (changeAll changes) := by
  induction changes with
  | nil => exact stays_pure hR _
  | cons c rest ih =>
    refine stays_bind hR (hR.change (h c List.mem_cons_self)) fun thrown => ?_
    cases thrown with
    | none => exact ih fun c hc => h c (List.mem_cons_of_mem _ hc)
    | some v => exact stays_pure hR _

/-- An attribute other than the one for styles is written as it is. -/
theorem stays_writeAttribute {n : Nat} {name value : String}
    (hname : Widget.isStyleAttribute name = false)
    (h : may n (·.setAttribute [.text name, .text value])) :
    Stays R (writeAttribute n name value) := by
  refine stays_bind hR (stays_get hR) fun b => ?_
  have hplain : divertedStyle? (.element n) [.text name, .text value] = none := by
    show (if Widget.isStyleAttribute name then _ else _) = _
    rw [hname]
    rfl
  rw [hplain]
  split
  · exact stays_pure hR _
  · split
    · exact hR.change h
    · exact hR.change h

end Basics

/-! ### What a page is asked -/

section Page

variable (hR : IsFrame R may) (config : Config)
include hR

theorem stays_note (notice : Notice) : Stays R (note notice) := by
  cases notice <;> exact stays_log hR _ _ _ _

theorem stays_named? (setting : TextSetting) : Stays R (named? config setting) := by
  refine stays_bind hR (stays_get hR) fun b => ?_
  dsimp only
  split
  · exact stays_bind hR (stays_log hR _ _ _ _) fun _ => stays_pure hR _
  · exact stays_pure hR _

theorem stays_optionsText : Stays R (optionsText config) :=
  stays_bind hR (stays_named? hR config .optionsInput) fun _ =>
    stays_bind hR (stays_get hR) fun _ => stays_pure hR _

theorem stays_location : Stays R location :=
  stays_bind hR (stays_get hR) fun _ => stays_pure hR _

theorem stays_navigate (target : String) : Stays R (navigate target) := by
  refine stays_bind hR (stays_record hR _) fun _ => stays_bind hR (stays_get hR) fun b => ?_
  split
  · exact stays_log hR _ _ _ _
  · exact stays_pure hR _

variable {config}

theorem stays_setHidden (hhide : MayClass may (config.text .hiddenClass)) (hidden : Bool)
    (n : Nat) : Stays R (setHidden config hidden n) := by
  have hmay : may n fun e =>
      if hidden then e.addClass (config.text .hiddenClass)
      else e.removeClass (config.text .hiddenClass) := by
    cases hidden
    · exact (hhide n).2
    · exact (hhide n).1
  refine stays_bind hR (hR.change hmay) fun thrown => ?_
  cases thrown with
  | none => exact stays_pure hR _
  | some v => exact stays_log hR _ _ _ _

theorem stays_hideErrors (hhide : MayClass may (config.text .hiddenClass)) :
    Stays R (hideErrors config) := by
  rw [hideErrors]
  split
  · exact stays_log hR _ _ _ _
  · exact stays_bind hR (stays_get hR) fun b =>
      stays_forM hR (fun _ => stays_setHidden hR hhide _ _) _

theorem stays_setMessageHidden (hhide : MayClass may (config.text .hiddenClass)) (hidden : Bool) :
    Stays R (setMessageHidden config hidden) := by
  refine stays_bind hR (stays_named? hR config .message) fun element => ?_
  cases element with
  | none => exact stays_pure hR _
  | some e => exact stays_setHidden hR hhide _ _

theorem stays_clearErrors (hhide : MayClass may (config.text .hiddenClass)) :
    Stays R (page config).clearErrors :=
  stays_bind hR (stays_hideErrors hR hhide) fun _ => stays_setMessageHidden hR hhide false

theorem stays_showGenericError (hhide : MayClass may (config.text .hiddenClass))
    (htext : AllowsText R) (text : String) : Stays R (showGenericError config text) := by
  refine stays_bind hR (stays_named? hR config .errorMessage) fun message => ?_
  rcases message with - | e
  on_goal 2 => refine stays_bind hR (fun b => htext b e.number text) fun _ => ?_
  -- with or without a message, the area is shown
  all_goals
    refine stays_bind hR (stays_named? hR config .errorArea) fun area => ?_
    cases area with
    | none => exact stays_log hR _ _ _ _
    | some e => exact stays_setHidden hR hhide _ _

/-- **Showing an error** hides and shows elements and may set a text. -/
theorem stays_displayError (hhide : MayClass may (config.text .hiddenClass))
    (htext : AllowsText R) (key : String) : Stays R ((page config).displayError key) := by
  have hmessages : Stays R (page config).hideMessages :=
    stays_bind hR (stays_hideErrors hR hhide) fun _ => stays_setMessageHidden hR hhide true
  have hreveal : Stays R ((page config).revealError key) := by
    refine stays_bind hR (stays_get hR) fun b => ?_
    split
    · exact stays_pure hR _
    · exact stays_bind hR (stays_setHidden hR hhide _ _) fun _ => stays_pure hR _
  refine stays_bind hR hmessages fun _ => stays_bind hR hreveal fun revealed => ?_
  cases revealed
  · exact stays_showGenericError hR hhide htext key
  · exact stays_pure hR _

/-- The trigger is disabled and marked, or the reverse. -/
theorem setBusy_stays {b : Browser} (busy : Bool)
    (hmay : ∀ mode e, b.document.trigger? config = some (mode, e) →
      may e.number (·.setAttribute [.text "disabled", .text ""]) ∧
      may e.number (·.removeAttribute "disabled") ∧
      may e.number (·.addClass (config.text .busyClass)) ∧
      may e.number (·.removeClass (config.text .busyClass))) :
    R b ((setBusy config busy).run b).2 := by
  rw [setBusy, StateT.run_bind, StateT.run_get, pure_bind]
  split
  · exact hR.refl b
  · next mode e ht =>
    obtain ⟨hwrite, hremove, hadd, htake⟩ := hmay mode e ht
    dsimp only
    split
    on_goal 1 =>
      refine stays_bind hR (stays_writeAttribute hR (by decide) hwrite) (fun disabling => ?_) b
    on_goal 2 => refine stays_bind hR (hR.change hremove) (fun disabling => ?_) b
    on_goal 1 => refine stays_bind hR (hR.change hadd) fun marking => ?_
    on_goal 2 => refine stays_bind hR (hR.change htake) fun marking => ?_
    -- what was thrown is told to the console
    all_goals
      split
      · exact stays_log hR _ _ _ _
      · exact stays_pure hR _

theorem stays_keydown (hhide : MayClass may (config.text .hiddenClass)) (htext : AllowsText R)
    (c : Ceremony) (key : String) (now : Float) : Stays R (c.keydown (page config) key now) := by
  rw [Ceremony.keydown]
  dsimp only
  split
  · exact stays_bind hR (stays_note hR _) fun _ =>
      stays_bind hR (stays_displayError hR hhide htext _) fun _ => stays_pure hR _
  · exact stays_pure hR _

theorem stays_submission : Stays R (Ceremony.submission (page config)) :=
  stays_bind hR (stays_location hR) fun _ =>
    stays_bind hR (stays_note hR _) fun _ => stays_pure hR _

end Page

/-! ### Widgets -/

section Widgets

variable (hR : IsFrame R may)
include hR

theorem stays_claim {e : Element} (h : may e.number (·.setData claimEntry claimMark)) :
    Stays R (claim e) := by
  rw [claim]
  split
  · exact stays_pure hR _
  · exact stays_bind hR (hR.change h) fun _ => stays_pure hR _

theorem stays_claimAll {es : List Element}
    (h : ∀ e ∈ es, may e.number (·.setData claimEntry claimMark)) : Stays R (claimAll es) := by
  induction es with
  | nil => exact stays_pure hR _
  | cons e es ih =>
    refine stays_bind hR (stays_claim hR (h e List.mem_cons_self)) fun fresh => ?_
    refine stays_bind hR (ih fun e he => h e (List.mem_cons_of_mem _ he)) fun others => ?_
    cases fresh <;> exact stays_pure hR _

/-- **A setup** claims the trigger if nobody did before, and may show an error. -/
theorem setUp_stays {b : Browser} {config : Config}
    (hhide : MayClass may (config.text .hiddenClass)) (htext : AllowsText R)
    (hclaim : ∀ mode e, b.document.trigger? config = some (mode, e) → e.isClaimed = false →
      may e.number (·.setData claimEntry claimMark)) :
    R b ((Ceremony.setUp (page config)).run b).2 := by
  have htrigger : (page config).trigger.run b = ((b.document.trigger? config).map (·.1), b) := rfl
  rw [Ceremony.setUp, StateT.run_bind, htrigger]
  cases ht : b.document.trigger? config with
  | none =>
    exact stays_bind hR (stays_note hR .noTrigger) (fun _ => stays_pure hR Setup.absent) b
  | some found =>
    obtain ⟨mode, e⟩ := found
    have hclaimed : R b ((page config).claimTrigger.run b).2 := by
      show R b ((claimTrigger config).run b).2
      rw [claimTrigger, StateT.run_bind, StateT.run_get, pure_bind, ht]
      show R b ((claim e).run b).2
      cases hc : e.isClaimed with
      | true =>
        rw [claim, hc]
        exact hR.refl b
      | false => exact stays_claim hR (hclaim mode e ht hc) b
    show R b (StateT.run ((page config).claimTrigger >>= _) b).2
    rw [StateT.run_bind]
    refine hR.trans hclaimed ?_
    generalize (page config).claimTrigger.run b = claimed
    obtain ⟨fresh, b'⟩ := claimed
    cases fresh with
    | false =>
      exact stays_bind hR (stays_note hR (.claimedBefore mode))
        (fun _ => stays_pure hR Setup.skipped) b'
    | true =>
      refine stays_bind hR (stays_optionsText hR config) (fun text => ?_) b'
      split
      · exact stays_bind hR (stays_note hR _) fun _ =>
          stays_bind hR (stays_displayError hR hhide htext _) fun _ => stays_pure hR _
      · exact stays_bind hR (stays_note hR _) fun _ => stays_pure hR _

/-- **Toggling** writes the type of the field beside an icon and swaps the classes of the icon. -/
theorem togglePassword_stays {b : Browser} {icon : Nat}
    (hicon : ∀ name ∈ ["eye", "slash"],
      may icon (·.addClass name) ∧ may icon (·.removeClass name))
    (hfield : ∀ field ∈ b.document.fieldBeside? icon, ∀ v : Widget.Visibility,
      R b ((writeAttribute field.number "type" v.inputType).run b).2) :
    R b ((togglePassword icon).run b).2 := by
  rw [togglePassword, StateT.run_bind, StateT.run_get, pure_bind]
  cases hfound : b.document.fieldBeside? icon with
  | none => exact stays_log hR _ _ _ _ b
  | some field =>
    have hswap (v : Widget.Visibility) :
        Stays R (changeAll (swapClasses icon v.removedClasses v.addedClasses)) := by
      refine stays_changeAll hR fun c hc => ?_
      rcases List.mem_append.mp hc with hc | hc
      · obtain ⟨name, hname, rfl⟩ := List.mem_map.mp hc
        exact (hicon name (by cases v <;> simp_all [Widget.Visibility.removedClasses])).2
      · obtain ⟨name, hname, rfl⟩ := List.mem_map.mp hc
        exact (hicon name (by cases v <;> simp_all [Widget.Visibility.addedClasses])).1
    dsimp only
    generalize (Widget.Visibility.ofInputType ((field.attribute? "type").getD "")).toggled = v
    have hwritten := hfield field hfound v
    rw [StateT.run_bind]
    rcases hrun : (writeAttribute field.number "type" v.inputType).run b with ⟨thrown, b'⟩
    rw [hrun] at hwritten
    refine hR.trans hwritten ?_
    cases thrown with
    | some w =>
      exact stays_log hR .widgets .warn
        ("Failed to toggle password visibility: " ++ w.display) [] b'
    | none =>
      refine stays_bind hR (hswap v) (fun thrown => ?_) b'
      cases thrown with
      | none => exact stays_pure hR _
      | some w => exact stays_log hR _ _ _ _

theorem stays_copyFrom (hspawn : ∀ text, Stays R (spawn (.copy text))) (target : Place) :
    Stays R (copyFrom target) := by
  refine stays_bind hR (stays_get hR) fun b => ?_
  dsimp only
  split
  · exact stays_pure hR _
  · split
    · exact stays_log hR _ _ _ _
    · split
      · exact stays_log hR _ _ _ _
      · exact stays_bind hR (stays_record hR _) fun _ => hspawn _

theorem stays_copyText (text : String) : Stays R (copyText text) := by
  have hcommand : Stays R commandCopy := by
    refine stays_bind hR (stays_get hR) fun b => ?_
    dsimp only
    split
    · refine stays_bind hR (stays_record hR _) fun _ => ?_
      split
      · exact stays_log hR _ _ _ _
      · exact stays_pure hR _
    · split
      · exact stays_log hR _ _ _ _
      · exact stays_pure hR _
  have hwrite : Stays R (writeClipboard text) := by
    refine stays_bind hR (stays_get hR) fun b => ?_
    dsimp only
    split
    all_goals first
      | exact stays_pure hR _
      | exact stays_bind hR (stays_record hR _) fun _ => stays_pure hR _
  refine stays_bind hR hwrite fun thrown => ?_
  cases thrown with
  | none => exact stays_pure hR _
  | some v => exact stays_bind hR (stays_log hR _ _ _ _) fun _ => hcommand

theorem stays_playCaptcha (button : Nat) : Stays R (playCaptcha button) := by
  refine stays_bind hR (stays_get hR) fun b => ?_
  dsimp only
  split
  · exact stays_pure hR _
  · split
    · exact stays_pure hR _
    · refine stays_bind hR (stays_record hR _) fun _ => ?_
      split
      · exact stays_log hR _ _ _ _
      · exact stays_pure hR _

/-- What the photo does: it is displayed or not, its field is emptied, and its box is ticked. -/
structure MayPhoto (may : Nat → Operation → Prop) : Prop where
  display : ∀ n, may n (·.removeStyle "display") ∧ may n (·.setStyle "display" "none")
  empty : ∀ n, may n fun e => .ok e.emptied
  tick : ∀ n checked, may n fun e => .ok { e with checked }

theorem stays_showPhoto (hmay : MayPhoto may) (state : Widget.PhotoState) :
    Stays R (showPhoto state) := by
  have hdisplayed (displayed : Bool) (e : Element) : Stays R (setDisplayed displayed e) := by
    have hoperation : may e.number fun e =>
        if displayed then e.removeStyle "display" else e.setStyle "display" "none" := by
      cases displayed
      · exact (hmay.display _).2
      · exact (hmay.display _).1
    refine stays_bind hR (hR.change hoperation) fun thrown => ?_
    cases thrown with
    | none => exact stays_pure hR _
    | some v => exact stays_log hR _ _ _ _
  have hclass (name : String) (displayed : Bool) : Stays R (setClassDisplayed name displayed) :=
    stays_bind hR (stays_get hR) fun _ => stays_forM hR (hdisplayed displayed) _
  have hinputs (name : String) {operation : Element → Element}
      (ho : ∀ n, may n fun e => .ok (operation e)) : Stays R (changeInputs name operation) := by
    refine stays_bind hR (stays_get hR) fun b => stays_forM hR (fun e => ?_) _
    split
    · exact stays_bind hR (hR.change (ho _)) fun _ => stays_pure hR _
    · exact stays_pure hR _
  refine stays_bind hR (hclass _ _) fun _ => stays_bind hR (hclass _ _) fun _ => ?_
  split
  · exact stays_bind hR (hinputs _ hmay.empty) fun _ => hinputs _ fun n => hmay.tick n _
  · exact hinputs _ fun n => hmay.tick n _

end Widgets

/-! ### Runs of ceremonies -/

/-- What a ceremony does to the page beside showing errors: it takes the trigger and hands it
back. -/
structure MayServe (may : Nat → Operation → Prop) (config : Config) : Prop where
  hide : MayClass may (config.text .hiddenClass)
  busy : MayClass may (config.text .busyClass)
  disable : ∀ n, MayWrite may "disabled" n
  enable : ∀ n, may n (·.removeAttribute "disabled")

/-- A relation that looks neither at runs nor at ceremonies nor at what waits for its turn. -/
structure AllowsRuns (R : Browser → Browser → Prop) : Prop where
  ceremonies : AllowsCeremonies R
  runs : ∀ b runs, R b { b with runs }
  tasks : ∀ b tasks, R b { b with tasks }

section Runs

variable (hR : IsFrame R may) {config : Config}
include hR

theorem stays_setBusy (hmay : MayServe may config) (busy : Bool) : Stays R (setBusy config busy) :=
  fun _ => setBusy_stays hR busy fun _ e _ =>
    ⟨hmay.disable e.number _, hmay.enable _, hmay.busy _⟩

theorem stays_start (hmay : MayServe may config) (c : Ceremony) :
    Stays R (c.start (page config)) := by
  rw [Ceremony.start]
  split
  · exact stays_bind hR (stays_note hR _) fun _ => stays_pure hR _
  · exact stays_bind hR (stays_clearErrors hR hmay.hide) fun _ =>
      stays_bind hR (stays_setBusy hR hmay true) fun _ => stays_pure hR _

theorem stays_fail (hmay : MayServe may config) (htext : AllowsText R) (c : Ceremony)
    (failure : Failure) : Stays R (c.fail (page config) failure) :=
  stays_bind hR (stays_note hR _) fun _ =>
    stays_bind hR (stays_displayError hR hmay.hide htext _) fun _ =>
      stays_bind hR (stays_setBusy hR hmay false) fun _ => stays_pure hR _

theorem stays_conclude (hmay : MayServe may config) (htext : AllowsText R) (c : Ceremony)
    (location : String) (answer : Except Failure Reply) :
    Stays R (c.conclude (page config) location answer) := by
  rw [Ceremony.conclude]
  split
  · exact stays_bind hR (stays_note hR _) fun _ =>
      stays_bind hR (stays_navigate hR _) fun _ => stays_pure hR _
  · exact stays_fail hR hmay htext c _

variable (hruns : AllowsRuns R)
include hruns

theorem stays_endRun (n : Nat) (r : Run) {ending : StateM Browser (Ceremony.Outcome × Ceremony)}
    (h : Stays R ending) : Stays R (endRun n r ending) :=
  stays_bind hR h fun _ => stays_bind hR (hruns.ceremonies _ _) fun _ => fun b => hruns.runs b _

variable {o : Offer} (hmay : MayServe may o.config) (htext : AllowsText R)
include hmay htext

theorem stays_failRun (n : Nat) (r : Run) (failure : Failure) : Stays R (failRun n r o failure) :=
  stays_endRun hR hruns n r (stays_fail hR hmay htext o.ceremony failure)

theorem stays_askPlatform (n : Nat) (r : Run) : Stays R (askPlatform n r o) := by
  rw [askPlatform]
  split
  · exact stays_failRun hR hruns hmay htext _ _ _
  · refine stays_bind hR (stays_log hR _ _ _ _) fun _ => stays_bind hR (stays_record hR _) fun _ =>
      stays_bind hR (stays_get hR) fun b => ?_
    split
    · exact stays_failRun hR hruns hmay htext _ _ _
    · exact fun b => hruns.runs b _

end Runs

theorem mem_offers_of_run? {b : Browser} {n : Nat} {r : Run} {o : Offer}
    (h : b.run? n = some (r, o)) : o ∈ b.offers := by
  obtain ⟨r', -, hr'⟩ := Option.bind_eq_some_iff.mp h
  obtain ⟨o', ho', heq⟩ := Option.map_eq_some_iff.mp hr'
  cases heq
  exact List.mem_of_getElem? ho'

/-- **A run begins** on behalf of one of the ceremonies. -/
theorem beginRun_stays (hR : IsFrame R may) (hruns : AllowsRuns R) (htext : AllowsText R)
    {b : Browser} (hmay : ∀ o ∈ b.offers, MayServe may o.config) (n : Nat) :
    R b ((beginRun n).run b).2 := by
  rw [beginRun, StateT.run_bind, StateT.run_get, pure_bind]
  split
  · exact hR.refl b
  · next r o hrun =>
    have hserve := hmay o (mem_offers_of_run? hrun)
    have hnamed (named : Bool) :
        Stays R (modify fun b => { b with runs := b.runs.modify n fun r => { r with named } }) :=
      fun b => hruns.runs b _
    refine stays_bind hR (hnamed _) (fun _ => stays_within hR ?_ _ _) b
    refine stays_bind hR (stays_start hR hserve o.ceremony) fun answer =>
      stays_bind hR (hruns.ceremonies _ _) fun _ => ?_
    split
    · exact stays_askPlatform (o := { o with ceremony := answer.2 }) hR hruns hserve htext _ _
    · exact fun b => hruns.runs b _

/-! ### The load hook -/

/-- A relation that stays when the listeners and timers of a load hook are attached. -/
structure AllowsLoading (R : Browser → Browser → Prop) (config : Config) : Prop where
  endSession : Stays R endSession
  beginSession : ∀ c trigger, Stays R (beginSession c config trigger)
  bindElement : ∀ role n, Stays R (bindElement role n)
  arm : ∀ delay button icon, Stays R (arm delay (.enableResend button icon))

section Load

variable (hR : IsFrame R may) {config : Config} (hloading : AllowsLoading R config)
  (hclaim : ∀ n, may n (·.setData claimEntry claimMark))
include hR hloading hclaim

theorem stays_bindAll : Stays R bindAll := by
  have hrole (role : Role) : Stays R (bindRole role) := by
    refine stays_bind hR (stays_get hR) fun b => ?_
    refine stays_bind hR (stays_claimAll hR fun e _ => hclaim e.number) fun fresh => ?_
    exact stays_forM hR (hloading.bindElement role) fresh
  refine stays_bind hR (stays_forM hR hrole _) fun _ => ?_
  refine stays_bind hR (stays_get hR) fun b => ?_
  split
  · exact stays_pure hR _
  · next e _ =>
    refine stays_bind hR (stays_claim hR (hclaim e.number)) fun fresh => ?_
    cases fresh
    · exact stays_pure hR _
    · rw [if_pos rfl]
      split
      · exact stays_pure hR _
      · refine stays_bind hR (stays_get hR) fun b =>
          stays_bind hR (stays_log hR _ _ _ _) fun _ => ?_
        exact stays_bind hR (hloading.arm _ _ _) fun _ => stays_pure hR _

/-- **A load hook** sets up the ceremony, follows it up and binds the widgets. -/
theorem stays_load (hhide : MayClass may (config.text .hiddenClass)) (htext : AllowsText R) :
    Stays R (load config) := by
  have hfollow (s : Setup) : Stays R (follow config s) := by
    cases s with
    | skipped => exact stays_pure hR _
    | absent => exact stays_bind hR hloading.endSession fun _ => stays_pure hR _
    | failed failure =>
      exact stays_bind hR (stays_log hR _ _ _ _) fun _ =>
        stays_bind hR hloading.endSession fun _ => stays_pure hR _
    | ready c =>
      refine stays_bind hR (stays_get hR) fun b => ?_
      split
      · exact stays_pure hR _
      · exact stays_bind hR (hloading.beginSession _ _) fun _ => stays_pure hR _
  have hoffer : Stays R (offerCeremony config) := by
    rw [offerCeremony_eq]
    exact stays_bind hR (fun b => setUp_stays hR hhide htext fun _ e _ _ => hclaim e.number) hfollow
  have hbind := stays_bindAll hR hloading hclaim
  intro b
  cases hm : b.missingPart? with
  | some failure =>
    have hlogs : Stays R (log .loading .error ("WebAuthn setup failed: " ++ failure.message) [] >>=
        fun _ => log .loading .error ("Widget setup failed: " ++ noDocument.message) []) :=
      stays_bind hR (stays_log hR _ _ _ _) fun _ => stays_log hR _ _ _ _
    rw [run_load_unavailable hm]
    exact hlogs b
  | none =>
    have hfinish (failure : Option Failure) : Stays R (finish failure) := by
      cases failure with
      | none => exact hbind
      | some failure => exact stays_bind hR (stays_log hR _ _ _ _) fun _ => hbind
    rw [run_load hm]
    exact stays_bind hR hoffer hfinish b

end Load

/-! ### Handlers -/

section Handle

theorem stays_setPreviews (hR : IsFrame R may) (hsource : ∀ n, MayWrite may "src" n)
    (address : String) : Stays R (setPreviews address) := by
  refine stays_bind hR (stays_get hR) fun b => stays_forM hR (fun e => ?_) _
  refine stays_bind hR (stays_writeAttribute hR (by decide) (hsource _ _)) fun thrown => ?_
  cases thrown with
  | none => exact stays_pure hR _
  | some v => exact stays_log hR _ _ _ _

theorem stays_previewPhoto (hR : IsFrame R may) (hphoto : MayPhoto may)
    (hsource : ∀ n, MayWrite may "src" n) (target : Place) : Stays R (previewPhoto target) := by
  refine stays_bind hR (stays_get hR) fun b => ?_
  dsimp only
  split
  · refine stays_bind hR (stays_record hR _) fun _ => stays_bind hR (stays_get hR) fun b => ?_
    split
    · exact stays_bind hR (stays_log hR _ _ _ _) fun _ => stays_showPhoto hR hphoto _
    · exact stays_bind hR (stays_setPreviews hR hsource _) fun _ => stays_showPhoto hR hphoto _
  · exact stays_log hR _ _ _ _

theorem stays_swapErrors (hR : IsFrame R may) (detail : ScriptValue) :
    Stays R (swapErrors detail) := by
  rw [swapErrors]
  split
  · exact stays_pure hR _
  · split
    · exact stays_bind hR (stays_log hR _ _ _ _) fun _ => stays_pure hR _
    · split
      · exact stays_bind hR (stays_log hR _ _ _ _) fun _ => stays_pure hR _
      · exact stays_pure hR _

/-- What a relation asks of the handlers that do more than change the page: those of toggles and
those of ceremonies. -/
structure AllowsHandler (R : Browser → Browser → Prop) (may : Nat → Operation → Prop) (b : Browser)
    (k : Handler) : Prop where
  hook : k.hook? = none
  watch : ∀ c, k = .watch c → AllowsText R ∧ AllowsCeremonies R ∧
    ∀ o ∈ b.offers, MayClass may (o.config.text .hiddenClass)
  activate : ∀ c, k = .activate c → ∀ ev, R b ((handle ev k).run b).2
  toggle : ∀ icon, k = .toggle icon ∨ k = .press icon → R b ((togglePassword icon).run b).2
  copy : ∀ text, Stays R (spawn (.copy text))

/-- **A handler** that runs no load hook. -/
theorem handle_stays (hR : IsFrame R may) (hphoto : MayPhoto may)
    (hsource : ∀ n, MayWrite may "src" n) {k : Handler} {b : Browser}
    (hk : AllowsHandler R may b k) (ev : Event) : R b ((handle ev k).run b).2 := by
  cases k
  case load => cases hk.hook
  case firstLoad => cases hk.hook
  case swapErrors => exact stays_bind hR (stays_swapErrors hR _) (fun _ => stays_pure hR _) b
  case watch c =>
    obtain ⟨htext, hceremonies, hhide⟩ := hk.watch c rfl
    rw [handle, StateT.run_bind, StateT.run_get, pure_bind]
    split
    · next key o _ ho =>
      exact stays_bind hR (stays_keydown hR (hhide o (List.mem_of_getElem? ho)) htext _ _ _)
        (fun _ => stays_bind hR (hceremonies _ _) fun _ => stays_pure hR _) b
    · exact hR.refl b
  case activate c => exact hk.activate c rfl ev
  case toggle icon =>
    have htoggle := hk.toggle icon (.inl rfl)
    rw [handle, StateT.run_bind]
    exact htoggle
  case press icon =>
    rw [handle]
    split
    · exact hR.refl b
    · split
      · have htoggle := hk.toggle icon (.inr rfl)
        rw [StateT.run_bind]
        exact htoggle
      · exact hR.refl b
  case copy => exact stays_bind hR (stays_copyFrom hR hk.copy _) (fun _ => stays_pure hR _) b
  case play button => exact stays_bind hR (stays_playCaptcha hR _) (fun _ => stays_pure hR _) b
  case deletePhoto =>
    exact stays_bind hR (stays_showPhoto hR hphoto _) (fun _ => stays_pure hR _) b
  case previewPhoto =>
    exact stays_bind hR (stays_previewPhoto hR hphoto hsource _) (fun _ => stays_pure hR _) b

end Handle

end Frame

end Passkey.Browser
