/-
Passkey/Proofs/Rehearsal/Pieces.lean

What the pieces of a ceremony do to a recorded page.

Each piece is a computation over the page; here it becomes one equation that
names the calls it adds and the ceremony it leaves.  Everything later cites
these equations and never opens a piece again.
-/
import Passkey.Ceremony.Rehearsal

namespace Passkey.Rehearsal

/-! ### The recorded page -/

/-- The page after further calls. -/
def Scene.hear (s : Scene) (calls : List Call) : Scene :=
  { s with calls := s.calls ++ calls }

@[simp] theorem Scene.hear_nil (s : Scene) : s.hear [] = s := by
  simp [hear]

@[simp] theorem Scene.hear_hear (s : Scene) (cs ds : List Call) :
    (s.hear cs).hear ds = s.hear (cs ++ ds) := by
  simp [hear]

/-- The calls that show an error: its element wins if it is declared. -/
def Scene.display (s : Scene) (key : String) : List Call :=
  [.hideMessages, .revealError key (s.declared.contains key)] ++
    if s.declared.contains key then [] else [.showGenericError key]

theorem run_displayError (s : Scene) (key : String) :
    (scenePage.displayError key).run s = ((), s.hear (s.display key)) := by
  by_cases h : key ∈ s.declared
  · simp [Page.displayError, scenePage, Scene.record, Scene.hear, Scene.display, h]
    rfl
  · simp [Page.displayError, scenePage, Scene.record, Scene.hear, Scene.display, h]
    rfl

/-! ### Setting up -/

/-- The page whose trigger is claimed. -/
def Scene.claim (s : Scene) : Scene :=
  { s with initialized := true }

section Setup

variable {s : Scene} {mode : Mode}

theorem run_setUp_absent (h : s.trigger = none) :
    (Ceremony.setUp scenePage).run s = (.absent, s.hear [.trigger]) := by
  simp [Ceremony.setUp, scenePage, Scene.record, Scene.hear, h]
  rfl

/-- A setup of a page whose trigger is claimed leaves everything as it is. -/
theorem run_setUp_skipped (h : s.trigger = some mode) (hi : s.initialized = true) :
    (Ceremony.setUp scenePage).run s = (.skipped, s.hear [.trigger, .claimTrigger]) := by
  simp [Ceremony.setUp, scenePage, Scene.record, Scene.hear, h, hi]
  rfl

/-- A setup that claims the trigger and finds no usable options shows that. -/
theorem run_setUp_failed {f : Failure} (h : s.trigger = some mode)
    (hi : s.initialized = false) (hd : Ceremony.decodeOptions mode s.options = .error f) :
    (Ceremony.setUp scenePage).run s
      = (.failed f, s.claim.hear ([.trigger, .claimTrigger, .optionsText] ++ s.display f.key)) := by
  have hr : (Ceremony.setUp scenePage).run s
      = (Setup.failed f,
          ((scenePage.displayError f.key).run
            (s.claim.hear [.trigger, .claimTrigger, .optionsText])).2) := by
    simp [Ceremony.setUp, scenePage, Scene.record, Scene.hear, Scene.claim, h, hi, hd]
    rfl
  rw [hr, run_displayError, Scene.hear_hear]
  rfl

/-- A setup that claims the trigger and decodes the options is ready. -/
theorem run_setUp_ready {o : Options} (h : s.trigger = some mode)
    (hi : s.initialized = false) (hd : Ceremony.decodeOptions mode s.options = .ok o) :
    (Ceremony.setUp scenePage).run s
      = (.ready (.fresh o), s.claim.hear [.trigger, .claimTrigger, .optionsText]) := by
  simp [Ceremony.setUp, scenePage, Scene.record, Scene.hear, Scene.claim, h, hi, hd]
  rfl

end Setup

/-! ### Keys and runs -/

section Pieces

variable (s : Scene) (c : Ceremony)

/-- A keystroke touches nothing of a ceremony but its watch, and adds no call
but the display of a burst. -/
theorem run_keydown (key : String) (now : Float) :
    (c.keydown scenePage key now).run s
      = (((c.monitor.record key now).1, { c with monitor := (c.monitor.record key now).2 }),
          s.hear (if (c.monitor.record key now).1 then s.display Failure.typing.key else [])) := by
  rcases h : c.monitor.record key now with ⟨warned, monitor⟩
  rcases warned with - | -
  · simp [Ceremony.keydown, h]
    rfl
  · have hr : (c.keydown scenePage key now).run s
        = ((true, { c with monitor }), ((scenePage.displayError Failure.typing.key).run s).2) := by
      simp [Ceremony.keydown, h]
      rfl
    rw [hr, run_displayError]
    rfl

/-- So do several keystrokes: each that warns is shown, and the watch can pay for one. -/
theorem run_pressKeys (strokes : List Keystrokes.Keystroke) (i : Nat) :
    ∃ indices monitor,
      (State.pressKeys c i strokes).run s
        = ((indices, { c with monitor }),
            s.hear (indices.flatMap fun _ => s.display Failure.typing.key)) ∧
      indices.length + monitor.active.toNat ≤ c.monitor.active.toNat := by
  induction strokes generalizing s c i with
  | nil => exact ⟨[], c.monitor, by rw [List.flatMap_nil, Scene.hear_nil]; rfl, by simp⟩
  | cons k rest ih =>
    have hspent := c.monitor.record_spends k.key k.time
    have hkey := run_keydown s c k.key k.time
    rcases hk : c.monitor.record k.key k.time with ⟨warned, monitor⟩
    rw [hk] at hkey hspent
    obtain ⟨indices, monitor', hrest, hleft⟩ :=
      ih (s.hear (if warned then s.display Failure.typing.key else [])) { c with monitor } (i + 1)
    -- the displays of the first key change no error element, so the rest sees the same page
    refine ⟨if warned then i :: indices else indices, monitor', ?_, ?_⟩
    · rw [State.pressKeys, StateT.run_bind, hkey]
      show (StateT.run (State.pressKeys { c with monitor } (i + 1) rest >>= _) _) = _
      rw [StateT.run_bind, hrest, Scene.hear_hear]
      rcases warned with - | -
      · rfl
      · rfl
    · rcases warned with - | -
      · simp at hspent hleft ⊢
        omega
      · simp at hspent hleft ⊢
        omega

theorem run_start_busy (h : c.inFlight = true) :
    (c.start scenePage).run s = ((false, c), s) := by
  rw [Ceremony.start, if_pos h]
  rfl

theorem run_start_free (h : c.inFlight = false) :
    (c.start scenePage).run s
      = ((true, { c with monitor := c.monitor.disable, inFlight := true }),
          s.hear [.clearErrors, .setBusy true]) := by
  rw [Ceremony.start, if_neg (by simp [h]), ← List.singleton_append, ← Scene.hear_hear]
  rfl

theorem run_accept (target : String) :
    (c.accept scenePage target).run s = ((.redirected target, c), s.hear [.navigate target]) := rfl

theorem run_fail (f : Failure) :
    (c.fail scenePage f).run s
      = ((.failed f, { c with inFlight := false }), s.hear (s.display f.key ++ [.setBusy false])) := by
  have hr : (c.fail scenePage f).run s
      = ((.failed f, { c with inFlight := false }),
          ((scenePage.displayError f.key).run s).2.hear [.setBusy false]) := rfl
  rw [hr, run_displayError, Scene.hear_hear]

section Conclude

variable {l : String} {answer : Except Failure Reply}

theorem run_conclude_accepted {target : String}
    (h : answer.bind (Ceremony.verdict l) = .ok target) :
    (c.conclude scenePage l answer).run s = ((.redirected target, c), s.hear [.navigate target]) := by
  rw [Ceremony.conclude, h]
  exact run_accept s c target

theorem run_conclude_refused {f : Failure} (h : answer.bind (Ceremony.verdict l) = .error f) :
    (c.conclude scenePage l answer).run s
      = ((.failed f, { c with inFlight := false }), s.hear (s.display f.key ++ [.setBusy false])) := by
  rw [Ceremony.conclude, h]
  exact run_fail s c f

end Conclude

end Pieces

end Passkey.Rehearsal
