/-
Passkey/Proofs/Failure/Showing.lean

No failure is shown as a blank.

The key of a failure picks the error element to reveal, and is the text of the
generic area if there is no such element.  Names and keys come from outside as
any text, yet a key is never blank (`key_legible`): a name is trimmed and made
small, which leaves a text that is not blank as trimmed and as legible as it
was, and a blank one counts as none.

What a page shows of failures is what a witness sees that stands beside it
(`Page.witnessed`).  On every page, a setup or a run that fails ends with
exactly one sight, and that is the key of its failure (`no_failure_shown_blank`).
On a page that records its calls, these are the last calls of the event at
which the setup or the run fails.
-/
import Passkey.Proofs.Rehearsal.Turn
import Passkey.Proofs.Text.Case

namespace Passkey

open Text

/-! ### Keys -/

/-- A text that a visitor can see: more than blanks. -/
def Text.IsLegible (s : String) : Prop :=
  ¬ AllBlank s.toList

theorem nonBlank?_eq_none_iff {s : String} : nonBlank? s = none ↔ AllBlank s.toList := by
  rw [nonBlank?, ← trimBlank_eq_nil_iff]
  rcases trimBlank s.toList with - | ⟨c, cs⟩
  · simp
  · simp

theorem nonBlank?_of_legible {s : String} (h : IsLegible s) : nonBlank? s = some (trim s) :=
  nonBlank?_eq_some_iff.mpr ⟨rfl, fun heq => h (trim_eq_empty_iff.mp heq)⟩

namespace Failure

/-- The key that a name gives: the name, trimmed and small, or `unknown` if there is none or a
blank one. -/
inductive KeyOfName : Option String → String → Prop
  | named {name : String} (legible : IsLegible name) : KeyOfName (some name) (lowerText (trim name))
  | blank {name : String} (blank : AllBlank name.toList) : KeyOfName (some name) "unknown"
  | nameless : KeyOfName none "unknown"

theorem keyOfName_nameKey (name : Option String) : KeyOfName name (nameKey name) := by
  rcases name with - | name
  · exact .nameless
  by_cases h : AllBlank name.toList
  · rw [nameKey, Option.bind_some, nonBlank?_eq_none_iff.mpr h]
    exact .blank h
  · rw [nameKey, Option.bind_some, nonBlank?_of_legible h]
    exact .named h

variable {name : Option String} {key : String}

theorem KeyOfName.legible (h : KeyOfName name key) : IsLegible key := by
  cases h with
  | named legible => exact not_allBlank_lowerText legible
  | blank | nameless =>
    rw [IsLegible, ← trim_eq_empty_iff]
    decide

theorem KeyOfName.trim_eq (h : KeyOfName name key) : trim key = key := by
  cases h with
  | named => exact trim_lowerText _
  | blank | nameless => decide

theorem key_server_of_legible {payload : String} (h : IsLegible payload) :
    (server payload).key = payload := by
  rw [key, nonBlank?_of_legible h, Option.isSome_some, if_pos rfl]

theorem key_server_of_blank {payload : String} (h : AllBlank payload.toList) :
    (server payload).key = "unknown" := by
  rw [key, nonBlank?_eq_none_iff.mpr h, Option.isSome_none, if_neg Bool.false_ne_true]
  rfl

/-- **No key is blank.** -/
theorem key_legible (f : Failure) : IsLegible f.key := by
  have closed (key : String) (h : trim key ≠ "") : IsLegible key := fun hblank =>
    h (trim_eq_empty_iff.mpr hblank)
  cases f with
  | badOptions detail => exact closed "parse" (by decide)
  | typing => exact closed "otp" (by decide)
  | platform name message => exact (keyOfName_nameKey name).legible
  | server payload =>
    by_cases h : AllBlank payload.toList
    · rw [key_server_of_blank h]
      exact closed "unknown" (by decide)
    · rw [key_server_of_legible h]
      exact h
  | transport name message => exact (keyOfName_nameKey name).legible
  | page detail => exact closed "unknown" (by decide)

end Failure

/-! ### Sights -/

/-- What a visitor sees of a failure. -/
inductive Sight where
  /-- The error element with an id is revealed. -/
  | element (id : String)
  /-- The generic area shows a text. -/
  | area (text : String)

/-- The text that makes out a sight. -/
def Sight.text : Sight → String
  | element id => id
  | area text => text

section Witness

variable {σ α : Type}

/-- Does something while the witness looks away. -/
def unseen (action : StateM σ α) : StateM (σ × List Sight) α := fun (s, seen) =>
  let (a, s) := action.run s
  (a, s, seen)

/-- A page with a witness beside it, who keeps what it shows of failures. -/
def Page.witnessed (page : Page σ) : Page (σ × List Sight) where
  trigger := unseen page.trigger
  claimTrigger := unseen page.claimTrigger
  optionsText := unseen page.optionsText
  clearErrors := unseen page.clearErrors
  hideMessages := unseen page.hideMessages
  revealError key := do
    let found ← unseen (page.revealError key)
    modify fun (s, seen) => (s, if found then seen ++ [.element key] else seen)
    return found
  showGenericError text := do
    unseen (page.showGenericError text)
    modify fun (s, seen) => (s, seen ++ [.area text])
  setBusy busy := unseen (page.setBusy busy)
  location := unseen page.location
  navigate target := unseen (page.navigate target)
  note notice := unseen (page.note notice)

variable {page : Page σ} {s : σ} {m : StateM σ α} {w : StateM (σ × List Sight) α}

/-- Beside a witness something goes as without one, and the witness sees sights. -/
def Sees (w : StateM (σ × List Sight) α) (m : StateM σ α) (s : σ) (sights : List Sight) : Prop :=
  ∀ seen, w.run (s, seen) = ((m.run s).1, (m.run s).2, seen ++ sights)

/-- The witness sees exactly one sight, and that is a text. -/
def SeesOnly (w : StateM (σ × List Sight) α) (m : StateM σ α) (s : σ) (text : String) : Prop :=
  ∃ sight : Sight, sight.text = text ∧ Sees w m s [sight]

theorem run_bind_eq {β : Type} (m : StateM σ α) (f : α → StateM σ β) (s : σ) :
    (m >>= f).run s = (f (m.run s).1).run (m.run s).2 := rfl

theorem sees_unseen (m : StateM σ α) (s : σ) : Sees (unseen m) m s [] := by
  intro seen
  rw [List.append_nil]
  rfl

theorem sees_pure (a : α) (s : σ) : Sees (pure a) (pure a) s [] := by
  intro seen
  rw [List.append_nil]
  rfl

/-- One thing is seen after the other. -/
theorem Sees.bind {β : Type} {f : α → StateM σ β} {g : α → StateM (σ × List Sight) β}
    {xs ys : List Sight} (h : Sees w m s xs)
    (hf : Sees (g (m.run s).1) (f (m.run s).1) (m.run s).2 ys) :
    Sees (w >>= g) (m >>= f) s (xs ++ ys) := by
  intro seen
  have hfirst : (w >>= g).run (s, seen) = (g (w.run (s, seen)).1).run (w.run (s, seen)).2 := rfl
  rw [hfirst, h seen, hf, List.append_assoc]
  rfl

theorem Sees.bind_only {β : Type} {f : α → StateM σ β} {g : α → StateM (σ × List Sight) β}
    {text : String} (h : Sees w m s [])
    (hf : SeesOnly (g (m.run s).1) (f (m.run s).1) (m.run s).2 text) :
    SeesOnly (w >>= g) (m >>= f) s text := by
  obtain ⟨sight, htext, hf⟩ := hf
  exact ⟨sight, htext, h.bind hf⟩

theorem SeesOnly.bind {β : Type} {f : α → StateM σ β} {g : α → StateM (σ × List Sight) β}
    {text : String} (h : SeesOnly w m s text)
    (hf : Sees (g (m.run s).1) (f (m.run s).1) (m.run s).2 []) :
    SeesOnly (w >>= g) (m >>= f) s text := by
  obtain ⟨sight, htext, h⟩ := h
  exact ⟨sight, htext, h.bind hf⟩

/-! ### What a ceremony shows of a failure -/

variable (page s)

theorem sees_revealError (key : String) :
    Sees (page.witnessed.revealError key) (page.revealError key) s
      (if ((page.revealError key).run s).1 then [.element key] else []) := by
  intro seen
  have hrun : (page.witnessed.revealError key).run (s, seen)
      = (((page.revealError key).run s).1, ((page.revealError key).run s).2,
          if ((page.revealError key).run s).1 then seen ++ [.element key] else seen) := rfl
  rw [hrun]
  split
  · rfl
  · rw [List.append_nil]

theorem sees_showGenericError (text : String) :
    Sees (page.witnessed.showGenericError text) (page.showGenericError text) s [.area text] := by
  intro seen
  rfl

/-- **An error is seen by its key**, as an element or in the generic area. -/
theorem seesOnly_displayError (key : String) :
    SeesOnly (page.witnessed.displayError key) (page.displayError key) s key := by
  refine (sees_unseen page.hideMessages s).bind_only ?_
  have hreveal := sees_revealError page (page.hideMessages.run s).2 key
  rcases hfound : ((page.revealError key).run (page.hideMessages.run s).2).1 with - | -
  · rw [hfound] at hreveal
    refine hreveal.bind_only ?_
    rw [hfound]
    exact ⟨.area key, rfl, sees_showGenericError page _ key⟩
  · rw [hfound] at hreveal
    refine ⟨.element key, rfl, hreveal.bind ?_⟩
    rw [hfound]
    exact sees_pure () _

variable (c : Ceremony)

/-- **A run that fails is seen to fail by the key of its failure.** -/
theorem seesOnly_fail (f : Failure) :
    SeesOnly (c.fail page.witnessed f) (c.fail page f) s f.key := by
  refine (sees_unseen (page.note (.failed f)) s).bind_only ?_
  refine (seesOnly_displayError page _ f.key).bind ?_
  exact (sees_unseen (page.setBusy false) _).bind (sees_pure _ _)

variable {f : Failure}

theorem seesOnly_conclude {location : String} {answer : Except Failure Reply}
    (h : ((c.conclude page location answer).run s).1.1 = .failed f) :
    SeesOnly (c.conclude page.witnessed location answer) (c.conclude page location answer) s
      f.key := by
  rcases hverdict : answer.bind (Ceremony.verdict location) with f' | target
  · rw [Ceremony.conclude, hverdict] at h ⊢
    rw [Ceremony.conclude, hverdict]
    cases h
    exact seesOnly_fail page s c f
  · rw [Ceremony.conclude, hverdict] at h
    cases h

/-- **A setup that fails is seen to fail by the key of its failure.** -/
theorem seesOnly_setUp (h : ((Ceremony.setUp page).run s).1 = .failed f) :
    SeesOnly (Ceremony.setUp page.witnessed) (Ceremony.setUp page) s f.key := by
  rw [Ceremony.setUp, run_bind_eq] at h
  refine (sees_unseen page.trigger s).bind_only ?_
  rcases htrigger : (page.trigger.run s).1 with - | mode
  · rw [htrigger] at h
    cases h
  rw [htrigger] at h
  dsimp only at h ⊢
  rw [run_bind_eq] at h
  refine (sees_unseen page.claimTrigger _).bind_only ?_
  rcases hclaim : (page.claimTrigger.run (page.trigger.run s).2).1 with - | -
  · rw [hclaim] at h
    cases h
  rw [hclaim, if_pos rfl] at h
  rw [if_pos rfl, if_pos rfl]
  rw [run_bind_eq] at h
  refine (sees_unseen page.optionsText _).bind_only ?_
  rcases hdecoded : Ceremony.decodeOptions mode
      (page.optionsText.run (page.claimTrigger.run (page.trigger.run s).2).2).1 with f' | options
  · rw [hdecoded] at h
    cases h
    refine (sees_unseen (page.note (.undecodable mode f)) _).bind_only ?_
    exact (seesOnly_displayError page _ f.key).bind (sees_pure _ _)
  · rw [hdecoded] at h
    cases h

end Witness

/-! ### What a rehearsed page shows of a failure -/

namespace Rehearsal

/-- The calls that show a text: an element of that id is revealed, or there is none and the
generic area shows the text. -/
inductive Shows (text : String) : List Call → Prop
  | element : Shows text [.hideMessages, .revealError text true]
  | area : Shows text [.hideMessages, .revealError text false, .showGenericError text]

theorem shows_display (scene : Scene) (key : String) : Shows key (scene.display key) := by
  rw [Scene.display]
  rcases scene.declared.contains key with - | -
  · exact .area
  · exact .element

variable {n : Nat} {f : Failure}

theorem Moment.shows_of_failed (m : Moment) (h : m.answer.ended = some (n, .failed f)) :
    ∃ shown, Shows f.key shown ∧ m.answer.calls = shown ++ [.setBusy false] := by
  have fails {n' k : Nat} {f' : Failure} (hfails : m.Fails n' k f') :
      ∃ shown, Shows f.key shown ∧ m.answer.calls = shown ++ [.setBusy false] := by
    have heq := hfails.ended.symm.trans h
    cases heq
    exact ⟨_, shows_display _ _, hfails.calls⟩
  -- no other turn ends a run with a failure
  cases m.turn with
  | aside idle | ready idle =>
    rw [idle.ended] at h
    cases h
  | started _ _ _ _ _ _ _ ended | posted _ _ _ _ _ _ ended | ignored _ _ _ _ _ _ ended
  | redirected _ _ _ _ _ _ ended =>
    rw [ended] at h
    cases h
  | rejected _ _ hfails | refused _ _ _ hfails => exact fails hfails

theorem shows_of_setup_failed (s : State)
    (h : (s.occur .setup).1.result = .setup (.failed f)) :
    ∃ shown, Shows f.key shown ∧
      (s.occur .setup).1.calls = [.trigger, .claimTrigger, .optionsText] ++ shown := by
  have other {p : State.Progress} (hp : s.quiet.progress .setup = p)
      (hresult : p.result ≠ .setup (.failed f)) : False := by
    subst hp
    exact hresult h
  rcases ht : s.scene.trigger with - | mode
  · exact (other (State.progress_setup_absent ht) nofun).elim
  rcases hi : s.scene.initialized with - | -
  · rcases hd : Ceremony.decodeOptions mode s.scene.options with f' | o
    · have hp := State.progress_setup_failed ht hi hd
      have hresult : (s.occur .setup).1.result = .setup (.failed f') := congrArg (·.result) hp
      rw [hresult] at h
      cases h
      exact ⟨_, shows_display _ _, congrArg (·.state.scene.calls) hp⟩
    · exact (other (State.progress_setup_ready ht hi hd) nofun).elim
  · exact (other (State.progress_setup_skipped ht hi) nofun).elim

end Rehearsal

/-! ### No failure is shown as a blank -/

open Rehearsal in
/-- **No failure is shown as a blank.**  Every key is legible: that of a rejection or of a
transport failure is the name, trimmed and small, or `unknown`, whatever the message, and that
of a refusal is what the server says, as it is, unless that is blank.  On every page, in every
state, a run that ends with a failure and a setup that fails are seen to fail by the key.  And
at every moment of a rehearsal at which a run fails, or a setup does, the last calls reveal
the element whose id is the key, or show the key in the generic area. -/
theorem no_failure_shown_blank :
    (∀ f : Failure, IsLegible f.key) ∧
      (∀ name message,
        Failure.KeyOfName name (Failure.platform name message).key ∧
        Failure.KeyOfName name (Failure.transport name message).key ∧
        trim (Failure.platform name message).key = (Failure.platform name message).key ∧
        trim (Failure.transport name message).key = (Failure.transport name message).key) ∧
      (∀ payload,
        (IsLegible payload → (Failure.server payload).key = payload) ∧
        (¬ IsLegible payload → (Failure.server payload).key = "unknown")) ∧
      (∀ (σ : Type) (page : Page σ) (s : σ) (c : Ceremony) (f : Failure),
        SeesOnly (c.fail page.witnessed f) (c.fail page f) s f.key ∧
        (∀ location answer, ((c.conclude page location answer).run s).1.1 = .failed f →
          SeesOnly (c.conclude page.witnessed location answer) (c.conclude page location answer) s
            f.key) ∧
        (((Ceremony.setUp page).run s).1 = .failed f →
          SeesOnly (Ceremony.setUp page.witnessed) (Ceremony.setUp page) s f.key)) ∧
      (∀ (m : Moment) (n : Nat) (f : Failure), m.answer.ended = some (n, .failed f) →
        ∃ shown, Shows f.key shown ∧ m.answer.calls = shown ++ [.setBusy false]) ∧
      ∀ (s : State) (f : Failure), (s.occur .setup).1.result = .setup (.failed f) →
        ∃ shown, Shows f.key shown ∧
          (s.occur .setup).1.calls = [.trigger, .claimTrigger, .optionsText] ++ shown := by
  refine ⟨Failure.key_legible, ?_, ?_, ?_, ?_, ?_⟩
  · intro name message
    have hkey := Failure.keyOfName_nameKey name
    exact ⟨hkey, hkey, hkey.trim_eq, hkey.trim_eq⟩
  · intro payload
    refine ⟨Failure.key_server_of_legible, fun h => ?_⟩
    exact Failure.key_server_of_blank (not_not.mp h)
  · intro σ page s c f
    exact ⟨seesOnly_fail page s c f, fun location answer => seesOnly_conclude page s c,
      seesOnly_setUp page s⟩
  · intro m n f
    exact m.shows_of_failed
  · intro s f
    exact shows_of_setup_failed s

namespace Rehearsal

/-- A page whose run asks the platform. -/
def asked : State :=
  (State.initial bareScene).after [.setup, .run]

theorem run?_asked : asked.run? 0
    = some (⟨0, .asking⟩, ⟨bareOptions, Keystrokes.Monitor.fresh.disable, true⟩) := by
  rw [asked, State.after_cons, after_setup_initial]
  rfl

theorem ended_rejection (rejection : Rejection) :
    (Moment.mk asked (.platform 0 (.error rejection))).answer.ended
      = some (0, .failed (.ofRejection rejection)) :=
  (fails_of_rejection rejection run?_asked).ended

end Rehearsal

open Rehearsal in
/-- A rejection is shown by its name, even if there is no message, and a refusal as it is. -/
theorem no_failure_shown_blank_rejected :
    (Moment.mk asked (.platform 0 (.error ⟨some " NotAllowedError\n", ""⟩))).answer.ended
        = some (0, .failed (.platform (some " NotAllowedError\n") "")) ∧
      (∃ shown, Shows "notallowederror" shown ∧
        (Moment.mk asked (.platform 0 (.error ⟨some " NotAllowedError\n", ""⟩))).answer.calls
          = shown ++ [.setBusy false]) ∧
      IsLegible " no key " ∧ (Failure.server " no key ").key = " no key " := by
  obtain ⟨-, -, hserver, -, hfails, -⟩ := no_failure_shown_blank
  have hlegible : IsLegible " no key " := by
    rw [IsLegible, ← trim_eq_empty_iff]
    decide
  have hkey : (Failure.platform (some " NotAllowedError\n") "").key = "notallowederror" := by
    decide +kernel
  have hended := ended_rejection ⟨some " NotAllowedError\n", ""⟩
  refine ⟨hended, ?_, hlegible, (hserver _).1 hlegible⟩
  rw [← hkey]
  exact hfails _ _ _ hended

end Passkey
