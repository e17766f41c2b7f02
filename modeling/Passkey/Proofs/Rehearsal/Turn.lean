/-
Passkey/Proofs/Rehearsal/Turn.lean

Every event has one of the turns.

The events are taken one by one.  For each the progress is written out as a
plain value, with the equations for the pieces of a ceremony; what the turn
says about the moment is then read off that value.
-/
import Passkey.Proofs.Options.Acceptance
import Passkey.Proofs.Rehearsal.Moment

namespace Passkey.Rehearsal

namespace State

variable {s : State} {k n : Nat} {c : Ceremony}

/-- The state after further calls. -/
def hear (s : State) (calls : List Call) : State :=
  { s with scene := s.scene.hear calls }

/-! ### Setting up -/

theorem progress_setup_absent (ht : s.scene.trigger = none) :
    s.quiet.progress .setup
      = { state := { s.quiet.hear [.trigger] with current := none }, result := .setup .absent } := by
  have hs := run_setUp_absent (s := s.quiet.scene) ht
  simp only [progress, setUp, act, hs]
  rfl

theorem progress_setup_skipped {mode : Mode} (ht : s.scene.trigger = some mode)
    (hi : s.scene.initialized = true) :
    s.quiet.progress .setup
      = { state := s.quiet.hear [.trigger, .claimTrigger], result := .setup .skipped } := by
  have hs := run_setUp_skipped (s := s.quiet.scene) ht hi
  simp only [progress, setUp, act, hs]
  rfl

theorem progress_setup_failed {mode : Mode} {f : Failure} (ht : s.scene.trigger = some mode)
    (hi : s.scene.initialized = false)
    (hd : Ceremony.decodeOptions mode s.scene.options = .error f) :
    s.quiet.progress .setup
      = { state :=
            { s.quiet with
              scene := s.quiet.scene.claim.hear
                ([.trigger, .claimTrigger, .optionsText] ++ s.scene.display f.key)
              current := none },
          result := .setup (.failed f) } := by
  have hs := run_setUp_failed (s := s.quiet.scene) ht hi hd
  simp only [progress, setUp, act, hs]
  rfl

theorem progress_setup_ready {mode : Mode} {o : Options} (ht : s.scene.trigger = some mode)
    (hi : s.scene.initialized = false)
    (hd : Ceremony.decodeOptions mode s.scene.options = .ok o) :
    s.quiet.progress .setup
      = { state :=
            { s.quiet with
              scene := s.quiet.scene.claim.hear [.trigger, .claimTrigger, .optionsText]
              ceremonies := s.ceremonies ++ [Ceremony.fresh o]
              current := some s.ceremonies.length },
          result := .setup (.ready o.mode) } := by
  have hs := run_setUp_ready (s := s.quiet.scene) ht hi hd
  simp only [progress, setUp, act, hs]
  rfl

/-! ### Keys and displays -/

theorem progress_keys_none (strokes : List Keystrokes.Keystroke) (h : s.current? = none) :
    s.quiet.progress (.keys strokes) = { state := s.quiet, result := .noCeremony } := by
  have hq : s.quiet.current? = none := h
  simp only [progress, hq]

theorem progress_keys (strokes : List Keystrokes.Keystroke) (h : s.current? = some (k, c)) :
    ∃ indices monitor,
      s.quiet.progress (.keys strokes)
        = { state :=
              (s.quiet.hear (indices.flatMap fun _ => s.scene.display Failure.typing.key)).withCeremony
                k { c with monitor },
            result := .warned indices } ∧
      indices.length + monitor.active.toNat ≤ c.monitor.active.toNat := by
  have hq : s.quiet.current? = some (k, c) := h
  obtain ⟨indices, monitor, hrun, hspent⟩ := run_pressKeys s.quiet.scene c strokes 0
  refine ⟨indices, monitor, ?_, hspent⟩
  simp only [progress, hq, act, hrun]
  rfl

theorem progress_displayError_none (key : String) (h : s.current? = none) :
    s.quiet.progress (.displayError key) = { state := s.quiet, result := .noCeremony } := by
  have hq : s.quiet.current? = none := h
  simp only [progress, hq]

theorem progress_displayError (key : String) (h : s.current? = some (k, c)) :
    s.quiet.progress (.displayError key)
      = { state := s.quiet.hear (s.scene.display key), result := .nothing } := by
  have hq : s.quiet.current? = some (k, c) := h
  simp only [progress, hq, act, run_displayError]
  rfl

/-! ### Starting a run -/

theorem progress_run_none (h : s.current? = none) :
    s.quiet.progress .run = { state := s.quiet, result := .noCeremony } := by
  have hq : s.quiet.current? = none := h
  simp only [progress, hq]

theorem progress_run_busy (h : s.current? = some (k, c)) (hb : c.inFlight = true) :
    s.quiet.progress .run
      = { state := { s.quiet with runs := s.runs ++ [⟨k, .done .ignored⟩] },
          result := .run s.runs.length, moved := some s.runs.length,
          ended := some (s.runs.length, .ignored) } := by
  have hq : s.quiet.current? = some (k, c) := h
  simp only [progress, hq, startRun, act, run_start_busy _ c hb]
  rfl

theorem progress_run_free (h : s.current? = some (k, c)) (hf : c.inFlight = false) :
    s.quiet.progress .run
      = { state :=
            { (s.quiet.hear [.clearErrors, .setBusy true, question c.options]).withCeremony k
                { c with monitor := c.monitor.disable, inFlight := true } with
              runs := s.runs ++ [⟨k, .asking⟩] },
          result := .run s.runs.length, moved := some s.runs.length } := by
  have hq : s.quiet.current? = some (k, c) := h
  simp only [progress, hq, startRun, act, run_start_free _ c hf]
  rfl

/-! ### Answers -/

theorem endRun_eq {r : Run} {ending : StateM Scene (Ceremony.Outcome × Ceremony)}
    {outcome : Ceremony.Outcome} {calls : List Call}
    (h : ending.run s.scene = ((outcome, c), s.scene.hear calls)) :
    s.endRun n r ending
      = { state := ((s.hear calls).withCeremony r.ceremony c).withStage n r (.done outcome),
          result := .delivered true, moved := some n, ended := some (n, outcome) } := by
  simp only [endRun, act, h]
  rfl

theorem progress_platform_rejected (rejection : Rejection)
    (h : s.run? n = some (⟨k, .asking⟩, c)) :
    s.quiet.progress (.platform n (.error rejection))
      = { state :=
            ((s.quiet.hear (s.scene.display (Failure.ofRejection rejection).key
              ++ [.setBusy false])).withCeremony k { c with inFlight := false }).withStage n
                ⟨k, .asking⟩ (.done (.failed (.ofRejection rejection))),
          result := .delivered true, moved := some n,
          ended := some (n, .failed (.ofRejection rejection)) } := by
  have hq : s.quiet.run? n = some (⟨k, .asking⟩, c) := h
  simp only [progress, answerPlatform, hq]
  exact endRun_eq (run_fail _ c _)

theorem progress_platform_supplied (supply : Supply) (h : s.run? n = some (⟨k, .asking⟩, c)) :
    s.quiet.progress (.platform n (.ok supply))
      = { state :=
            (s.quiet.hear [.location, .submit s.scene.location (supply.credential c.mode)]).withStage
              n ⟨k, .asking⟩ (.submitting s.scene.location),
          result := .delivered true, moved := some n } := by
  have hq : s.quiet.run? n = some (⟨k, .asking⟩, c) := h
  simp only [progress, answerPlatform, hq]
  rfl

/-- An answer to a run that does not ask the platform is not heard. -/
theorem progress_platform_unheard (answer : Except Rejection Supply)
    (h : ∀ k c, s.run? n ≠ some (⟨k, .asking⟩, c)) :
    s.quiet.progress (.platform n answer) = s.quiet.unheard := by
  rcases hr : s.run? n with - | ⟨⟨k, stage⟩, c⟩
  · have hq : s.quiet.run? n = none := hr
    simp only [progress, answerPlatform, hq]
  · have hq : s.quiet.run? n = some (⟨k, stage⟩, c) := hr
    rcases stage with - | l | o
    · exact absurd hr (h k c)
    · simp only [progress, answerPlatform, hq]
    · simp only [progress, answerPlatform, hq]

/-- An answer to a run that has posted nothing is not heard. -/
theorem progress_server_unheard (answer : Except Failure Reply)
    (h : ∀ k l c, s.run? n ≠ some (⟨k, .submitting l⟩, c)) :
    s.quiet.progress (.server n answer) = s.quiet.unheard := by
  rcases hr : s.run? n with - | ⟨⟨k, stage⟩, c⟩
  · have hq : s.quiet.run? n = none := hr
    simp only [progress, answerServer, hq]
  · have hq : s.quiet.run? n = some (⟨k, stage⟩, c) := hr
    rcases stage with - | l | o
    · simp only [progress, answerServer, hq]
    · exact absurd hr (h k l c)
    · simp only [progress, answerServer, hq]

theorem progress_server {l : String} {answer : Except Failure Reply} {outcome : Ceremony.Outcome}
    {c' : Ceremony} {calls : List Call} (h : s.run? n = some (⟨k, .submitting l⟩, c))
    (hc : (c.conclude scenePage l answer).run s.quiet.scene
      = ((outcome, c'), s.quiet.scene.hear calls)) :
    s.quiet.progress (.server n answer)
      = { state := ((s.quiet.hear calls).withCeremony k c').withStage n ⟨k, .submitting l⟩
            (.done outcome),
          result := .delivered true, moved := some n, ended := some (n, outcome) } := by
  have hq : s.quiet.run? n = some (⟨k, .submitting l⟩, c) := h
  simp only [progress, answerServer, hq]
  exact endRun_eq hc

end State

/-! ### Turns in which no run moves -/

variable {s : State}

/-- An event that moves no run is an aside, unless it makes a ceremony. -/
theorem turn_of_unmoved {e : Event} {p : State.Progress} (hp : s.quiet.progress e = p)
    (hm : p.moved = none) (he : p.ended = none) (hr : p.state.runs = s.runs)
    (hcur : p.state.current = s.current ∨ p.state.current = none)
    (ho : ∀ k, p.state.options? k = s.options? k) (hh : ∀ k, p.state.holds k = s.holds k)
    (hcalls : ∀ call ∈ p.state.scene.calls, call.ofRun = false) : (Moment.mk s e).Turn := by
  subst hp
  exact .aside ⟨hm, he, hr, hh, hcalls⟩ hcur ho

/-- So is one that leaves all but the page as it was. -/
theorem turn_of_scene {e : Event} (scene : Scene) (result : Result)
    (hp : s.quiet.progress e = { state := { s with scene }, result })
    (hcalls : ∀ call ∈ scene.calls, call.ofRun = false) : (Moment.mk s e).Turn :=
  turn_of_unmoved hp rfl rfl rfl (.inl rfl) (fun _ => rfl) (fun _ => rfl) hcalls

theorem mode_of_decodeOptions {mode : Mode} {text : Option String} {o : Options}
    (h : Ceremony.decodeOptions mode text = .ok o) : o.mode = mode := by
  rcases text with - | text
  · cases h
  · exact Options.mode_of_parse h

/-- The calls that look for the trigger and for the options are no run's. -/
theorem ofRun_of_mem_setup {calls : List Call} {call : Call}
    (h : call ∈ calls) (hc : calls ⊆ [.trigger, .claimTrigger, .optionsText]) :
    call.ofRun = false := by
  have hmem := hc h
  simp only [List.mem_cons, List.not_mem_nil, or_false] at hmem
  rcases hmem with rfl | rfl | rfl <;> rfl

theorem turn_setup : (Moment.mk s .setup).Turn := by
  rcases ht : s.scene.trigger with - | mode
  · -- there is no trigger
    refine turn_of_unmoved (State.progress_setup_absent ht) rfl rfl rfl (.inr rfl)
      (fun _ => rfl) (fun _ => rfl) ?_
    exact fun call hc => ofRun_of_mem_setup hc (by simp [State.hear, Scene.hear, State.quiet])
  rcases hi : s.scene.initialized with - | -
  · rcases hd : Ceremony.decodeOptions mode s.scene.options with f | o
    · -- the trigger is claimed, but the options cannot be used
      refine turn_of_unmoved (State.progress_setup_failed ht hi hd) rfl rfl rfl (.inr rfl)
        (fun _ => rfl) (fun _ => rfl) ?_
      intro call hc
      rcases List.mem_append.mp (show call ∈ [_, _, _] ++ s.scene.display f.key from hc) with hc | hc
      · exact ofRun_of_mem_setup hc (List.Subset.refl _)
      · exact Scene.ofRun_of_mem_display hc
    · -- a ceremony is made
      have hp := State.progress_setup_ready ht hi hd
      have hm := mode_of_decodeOptions hd
      have hc : (Moment.mk s .setup).after.ceremonies = s.ceremonies ++ [Ceremony.fresh o] :=
        congrArg (·.state.ceremonies) hp
      refine .ready (k := s.ceremonies.length) (o := o) ?_ ?_ ?_ ?_
      · refine ⟨congrArg (·.moved) hp, congrArg (·.ended) hp, congrArg (·.state.runs) hp,
          State.holds_of_append hc rfl, ?_⟩
        have hcalls : (Moment.mk s .setup).answer.calls = [.trigger, .claimTrigger, .optionsText] :=
          congrArg (·.state.scene.calls) hp
        exact fun call hcall => ofRun_of_mem_setup hcall (hcalls ▸ List.Subset.refl _)
      · exact ⟨rfl, by rw [hm]; exact ht, hi, by rw [hm]; exact hd, rfl⟩
      · exact congrArg (·.state.current) hp
      · exact State.options?_of_append hc
  · -- the trigger was claimed before
    refine turn_of_scene _ _ (State.progress_setup_skipped ht hi) ?_
    exact fun call hc => ofRun_of_mem_setup hc (by simp [Scene.hear, State.quiet])

/-- However often an error is shown, no run does it. -/
theorem ofRun_of_mem_displays {scene : Scene} {key : String} {indices : List Nat} {call : Call}
    (h : call ∈ indices.flatMap fun _ => scene.display key) : call.ofRun = false := by
  obtain ⟨_, -, h⟩ := List.mem_flatMap.mp h
  exact Scene.ofRun_of_mem_display h

theorem turn_keys (strokes : List Keystrokes.Keystroke) : (Moment.mk s (.keys strokes)).Turn := by
  rcases hc : s.current? with - | ⟨k, c⟩
  · exact turn_of_scene _ _ (State.progress_keys_none strokes hc) (by simp)
  · obtain ⟨indices, monitor, hp, -⟩ := State.progress_keys strokes hc
    obtain ⟨-, hk⟩ := State.current?_eq_some_iff.mp hc
    refine turn_of_unmoved hp rfl rfl rfl (.inl rfl) ?_ ?_ fun call h => ofRun_of_mem_displays h
    · intro j
      exact State.options?_withCeremony { c with monitor } hk rfl j
    · intro j
      exact State.holds_withCeremony_of_eq { c with monitor } hk rfl j

theorem turn_displayError (key : String) : (Moment.mk s (.displayError key)).Turn := by
  rcases hc : s.current? with - | ⟨k, c⟩
  · exact turn_of_scene _ _ (State.progress_displayError_none key hc) (by simp)
  · refine turn_of_scene _ _ (State.progress_displayError key hc) ?_
    exact fun call h => Scene.ofRun_of_mem_display h

/-! ### Turns of a run -/

theorem getElem?_append_run {runs : List Run} (r : Run) (j : Nat) :
    (runs ++ [r])[j]? = if j = runs.length then some r else runs[j]? := by
  rcases Nat.lt_trichotomy j runs.length with hj | hj | hj
  · rw [if_neg (by omega), List.getElem?_append_left hj]
  · rw [if_pos hj, hj, List.getElem?_concat_length]
  · rw [if_neg (by omega), List.getElem?_eq_none (by simp; omega),
      List.getElem?_eq_none (by omega)]

theorem getElem?_set_run {runs : List Run} {n : Nat} {r : Run} (h : runs[n]? = some r)
    (r' : Run) (j : Nat) : (runs.set n r')[j]? = if j = n then some r' else runs[j]? := by
  by_cases hj : n = j
  · rw [if_pos hj.symm, ← hj, List.getElem?_set_self', h]
    rfl
  · rw [if_neg (Ne.symm hj), List.getElem?_set_ne hj]

theorem moves_of_progress {e : Event} {p : State.Progress} {n k : Nat} {stage : Stage}
    (hp : s.quiet.progress e = p) (hm : p.moved = some n)
    (hr : ∀ j, p.state.runs[j]? = if j = n then some ⟨k, stage⟩ else s.runs[j]?)
    (hcur : p.state.current = s.current) (ho : ∀ j, p.state.options? j = s.options? j) :
    (Moment.mk s e).Moves n k stage := by
  subst hp
  exact ⟨hm, hr, hcur, ho⟩

theorem turn_run : (Moment.mk s .run).Turn := by
  rcases hc : s.current? with - | ⟨k, c⟩
  · exact turn_of_scene _ _ (State.progress_run_none hc) (by simp)
  obtain ⟨hcur, hk⟩ := State.current?_eq_some_iff.mp hc
  rcases hf : c.inFlight with - | -
  · have hp := State.progress_run_free hc hf
    refine .started (o := c.options) (moves_of_progress hp rfl ?_ rfl ?_) rfl hcur ?_
      (State.options?_eq hk) ?_ (congrArg (·.state.scene.calls) hp) (congrArg (·.ended) hp)
    · exact getElem?_append_run _
    · exact State.options?_withCeremony
        { c with monitor := c.monitor.disable, inFlight := true } hk rfl
    · exact (State.holds_eq hk).trans hf
    · intro j
      refine (congrArg (·.state.holds j) hp).trans ?_
      exact State.holds_withCeremony { c with monitor := c.monitor.disable, inFlight := true } hk j
  · have hp := State.progress_run_busy hc hf
    exact .ignored (moves_of_progress hp rfl (getElem?_append_run _) rfl fun _ => rfl) rfl hcur
      ((State.holds_eq hk).trans hf) (fun j => congrArg (·.state.holds j) hp)
      (congrArg (·.state.scene.calls) hp) (congrArg (·.ended) hp)

theorem fails_of_progress {e : Event} {p : State.Progress} {n k : Nat} {st : Stage} {f : Failure}
    {c : Ceremony} (hp : s.quiet.progress e = p) (hn : s.runs[n]? = some ⟨k, st⟩)
    (hk : s.ceremonies[k]? = some c)
    (hs : p.state
      = ((s.quiet.hear (s.scene.display f.key ++ [.setBusy false])).withCeremony k
          { c with inFlight := false }).withStage n ⟨k, st⟩ (.done (.failed f)))
    (hm : p.moved = some n) (he : p.ended = some (n, .failed f)) :
    (Moment.mk s e).Fails n k f := by
  refine ⟨moves_of_progress hp hm ?_ ?_ ?_, ?_, ?_, (congrArg (·.ended) hp).trans he⟩
  · intro j
    rw [hs]
    exact getElem?_set_run hn _ j
  · rw [hs]
    rfl
  · intro j
    rw [hs]
    exact State.options?_withCeremony { c with inFlight := false } hk rfl j
  · intro j
    refine (congrArg (·.state.holds j) hp).trans ?_
    rw [hs]
    exact State.holds_withCeremony { c with inFlight := false } hk j
  · refine (congrArg (·.state.scene.calls) hp).trans ?_
    rw [hs]
    rfl

theorem fails_of_rejection {n k : Nat} {c : Ceremony} (rejection : Rejection)
    (h : s.run? n = some (⟨k, .asking⟩, c)) :
    (Moment.mk s (.platform n (.error rejection))).Fails n k (.ofRejection rejection) := by
  obtain ⟨hn, hk⟩ := State.run?_eq_some_iff.mp h
  have hp := State.progress_platform_rejected rejection h
  exact fails_of_progress hp hn hk rfl rfl rfl

theorem turn_of_unheard {e : Event} (hp : s.quiet.progress e = s.quiet.unheard) :
    (Moment.mk s e).Turn :=
  turn_of_scene s.quiet.scene (.delivered false) hp fun _ h => nomatch h

theorem turn_platform (n : Nat) (answer : Except Rejection Supply) :
    (Moment.mk s (.platform n answer)).Turn := by
  by_cases h : ∃ k c, s.run? n = some (⟨k, .asking⟩, c)
  · obtain ⟨k, c, h⟩ := h
    obtain ⟨hn, hk⟩ := State.run?_eq_some_iff.mp h
    rcases answer with rejection | supply
    · exact .rejected rfl hn (fails_of_rejection rejection h)
    · have hp := State.progress_platform_supplied supply h
      refine .posted (o := c.options) (moves_of_progress hp rfl ?_ rfl ?_) rfl hn
        (State.options?_eq hk) ?_ (congrArg (·.state.scene.calls) hp) (congrArg (·.ended) hp)
      · exact getElem?_set_run hn _
      · exact fun _ => rfl
      · exact fun j => congrArg (·.state.holds j) hp
  · refine turn_of_unheard (State.progress_platform_unheard answer ?_)
    intro k c hr
    exact h ⟨k, c, hr⟩

theorem turn_server (n : Nat) (answer : Except Failure Reply) :
    (Moment.mk s (.server n answer)).Turn := by
  by_cases h : ∃ k l c, s.run? n = some (⟨k, .submitting l⟩, c)
  · obtain ⟨k, l, c, h⟩ := h
    obtain ⟨hn, hk⟩ := State.run?_eq_some_iff.mp h
    rcases hv : answer.bind (Ceremony.verdict l) with f | target
    · have hp := State.progress_server h (run_conclude_refused _ c hv)
      exact .refused rfl hn hv (fails_of_progress hp hn hk rfl rfl rfl)
    · have hp := State.progress_server h (run_conclude_accepted _ c hv)
      refine .redirected (moves_of_progress hp rfl ?_ rfl ?_) rfl hn hv ?_
        (congrArg (·.state.scene.calls) hp) (congrArg (·.ended) hp)
      · exact getElem?_set_run hn _
      · exact State.options?_withCeremony c hk rfl
      · intro j
        refine (congrArg (·.state.holds j) hp).trans ?_
        exact State.holds_withCeremony_of_eq c hk rfl j
  · refine turn_of_unheard (State.progress_server_unheard answer ?_)
    intro k l c hr
    exact h ⟨k, l, c, hr⟩

/-- **Every event has a turn**: nothing else can happen at a moment. -/
theorem Moment.turn (m : Moment) : m.Turn := by
  obtain ⟨s, e⟩ := m
  cases e with
  | setup => exact turn_setup
  | page change =>
    refine turn_of_scene (change.apply s.quiet.scene) .nothing rfl ?_
    intro call h
    cases h
  | keys strokes => exact turn_keys strokes
  | run => exact turn_run
  | platform n answer => exact turn_platform n answer
  | server n answer => exact turn_server n answer
  | displayError key => exact turn_displayError key

/-! ### What every turn says -/

/-- Either nobody moves, or one run does, whose ceremony or whose number was
there before. -/
theorem Moment.idle_or_moves (m : Moment) :
    m.Idle ∨ ∃ n k stage, m.Moves n k stage ∧
      ((∃ o, m.before.options? k = some o) ∨ ∃ st, m.before.runs[n]? = some ⟨k, st⟩) := by
  rcases m.turn with ⟨idle, -, -⟩ | ⟨idle, -, -, -⟩ | ⟨moves, -, -, busy, -, -, -⟩ |
    ⟨moves, -, -, -, options, -, -, -⟩ | ⟨moves, -, run, -, -, -, -⟩ |
    ⟨moves, -, run, -, -, -, -⟩ | ⟨-, run, fails⟩ | ⟨-, run, -, fails⟩
  · exact .inl idle
  · exact .inl idle
  · refine .inr ⟨_, _, _, moves, .inl ?_⟩
    exact State.options?_of_holds busy
  · exact .inr ⟨_, _, _, moves, .inl ⟨_, options⟩⟩
  · exact .inr ⟨_, _, _, moves, .inr ⟨_, run⟩⟩
  · exact .inr ⟨_, _, _, moves, .inr ⟨_, run⟩⟩
  · exact .inr ⟨_, _, _, fails.toMoves, .inr ⟨_, run⟩⟩
  · exact .inr ⟨_, _, _, fails.toMoves, .inr ⟨_, run⟩⟩

/-- Either the ceremonies keep their options, or one more is set up. -/
theorem Moment.keeps_or_setsUp (m : Moment) :
    (∀ j, m.after.options? j = m.before.options? j) ∨
      ∃ k o, m.SetsUp k o ∧
        ∀ j, m.after.options? j = if j = k then some o else m.before.options? j := by
  cases m.turn with
  | aside idle current options => exact .inl options
  | ready idle setsUp current options => exact .inr ⟨_, _, setsUp, options⟩
  | ignored moves => exact .inl moves.options
  | started moves => exact .inl moves.options
  | posted moves => exact .inl moves.options
  | redirected moves => exact .inl moves.options
  | rejected event run fails => exact .inl fails.options
  | refused event run verdict fails => exact .inl fails.options

theorem Moment.options?_mono (m : Moment) {k : Nat} {o : Options}
    (h : m.before.options? k = some o) : m.after.options? k = some o := by
  rcases m.keeps_or_setsUp with ho | ⟨k', o', hs, ho⟩
  · rw [ho, h]
  · have hne : k ≠ k' := by
      rintro rfl
      rw [State.options?, List.getElem?_eq_none (Nat.le_of_eq hs.number)] at h
      cases h
    rw [ho, if_neg hne, h]

/-- A run that has ended stays as it is. -/
theorem Moment.runs_of_done (m : Moment) {n k : Nat} {outcome : Ceremony.Outcome}
    (h : m.before.runs[n]? = some ⟨k, .done outcome⟩) :
    m.after.runs[n]? = some ⟨k, .done outcome⟩ := by
  have other {j k' : Nat} {stage : Stage} (hm : m.Moves j k' stage) (hj : n ≠ j) :
      m.after.runs[n]? = some ⟨k, .done outcome⟩ := by
    rw [hm.runs, if_neg hj, h]
  have waiting {j k' : Nat} {st : Stage} (hst : m.before.runs[j]? = some ⟨k', st⟩)
      (hd : ∀ o, st ≠ .done o) : n ≠ j := by
    rintro rfl
    rw [h] at hst
    cases hst
    exact hd outcome rfl
  have hlt : n ≠ m.before.runs.length := by
    rintro rfl
    rw [List.getElem?_eq_none (Nat.le_refl _)] at h
    cases h
  -- whoever moves is new or has waited, and so is not the run that has ended
  cases m.turn with
  | aside idle current options => rw [idle.runs, h]
  | ready idle setsUp current options => rw [idle.runs, h]
  | ignored moves => exact other moves hlt
  | started moves => exact other moves hlt
  | posted moves event run => exact other moves (waiting run fun _ => by simp)
  | redirected moves event run => exact other moves (waiting run fun _ => by simp)
  | rejected event run fails => exact other fails.toMoves (waiting run fun _ => by simp)
  | refused event run verdict fails => exact other fails.toMoves (waiting run fun _ => by simp)

/-- The current ceremony stays, goes, or is the one that is set up. -/
theorem Moment.current_cases (m : Moment) :
    (m.after.current = m.before.current ∧ ∀ j, m.after.options? j = m.before.options? j) ∨
      m.after.current = none ∨
      ∃ k o, m.SetsUp k o ∧ m.after.current = some k ∧
        ∀ j, m.after.options? j = if j = k then some o else m.before.options? j := by
  cases m.turn with
  | aside idle current options =>
    rcases current with hc | hc
    · exact .inl ⟨hc, options⟩
    · exact .inr (.inl hc)
  | ready idle setsUp current options => exact .inr (.inr ⟨_, _, setsUp, current, options⟩)
  | ignored moves => exact .inl ⟨moves.current, moves.options⟩
  | started moves => exact .inl ⟨moves.current, moves.options⟩
  | posted moves => exact .inl ⟨moves.current, moves.options⟩
  | redirected moves => exact .inl ⟨moves.current, moves.options⟩
  | rejected event run fails => exact .inl ⟨fails.current, fails.options⟩
  | refused event run verdict fails => exact .inl ⟨fails.current, fails.options⟩

/-- The runs are what has moved. -/
theorem History.exists_moved_iff {scene : Scene} {ms : List Moment} {s : State} {n : Nat}
    (h : History (.initial scene) ms s) :
    (∃ m ∈ ms, m.answer.moved = some n) ↔ ∃ r, s.runs[n]? = some r := by
  induction h with
  | start => simp [State.initial]
  | @next ms m _ ih =>
    have hsnoc : (∃ x ∈ ms ++ [m], x.answer.moved = some n) ↔
        (∃ r, m.before.runs[n]? = some r) ∨ m.answer.moved = some n := by
      rw [← ih]
      simp [or_and_right, exists_or]
    rw [hsnoc]
    rcases m.idle_or_moves with hi | ⟨n', k, stage, hm, -⟩
    · rw [hi.runs, hi.moved]
      exact or_iff_left nofun
    · rw [hm.runs, hm.moved]
      by_cases hn : n = n'
      · subst hn
        rw [if_pos rfl]
        exact ⟨fun _ => ⟨_, rfl⟩, fun _ => .inr rfl⟩
      · rw [if_neg hn]
        exact or_iff_left fun h => hn (Option.some.inj h).symm

/-- The current ceremony exists. -/
theorem History.options?_of_current {scene : Scene} {ms : List Moment} {s : State} {k : Nat}
    (h : History (.initial scene) ms s) (hk : s.current = some k) :
    ∃ o, s.options? k = some o := by
  induction h with
  | start => cases hk
  | next m _ ih =>
    rcases m.current_cases with ⟨hc, ho⟩ | hc | ⟨k', o, -, hc, ho⟩
    · rw [ho]
      exact ih (hc ▸ hk)
    · rw [hc] at hk
      cases hk
    · rw [hc] at hk
      cases hk
      exact ⟨o, (ho k).trans (if_pos rfl)⟩

/-- An answer is heard by the run that waits for it. -/
theorem moved_of_platform {n k : Nat} {c : Ceremony} (answer : Except Rejection Supply)
    (h : s.run? n = some (⟨k, .asking⟩, c)) :
    (Moment.mk s (.platform n answer)).answer.moved = some n := by
  rcases answer with rejection | supply
  · exact congrArg (·.moved) (State.progress_platform_rejected rejection h)
  · exact congrArg (·.moved) (State.progress_platform_supplied supply h)

theorem moved_of_server {n k : Nat} {l : String} {c : Ceremony} (answer : Except Failure Reply)
    (h : s.run? n = some (⟨k, .submitting l⟩, c)) :
    (Moment.mk s (.server n answer)).answer.moved = some n := by
  have hq : s.quiet.run? n = some (⟨k, .submitting l⟩, c) := h
  show (s.quiet.answerServer n answer).moved = some n
  simp only [State.answerServer, hq]
  rfl

/-- A run whose reply leads somewhere has been redirected. -/
theorem runs_after_redirect {n k : Nat} {c : Ceremony} {l target : String}
    {answer : Except Failure Reply} (h : s.run? n = some (⟨k, .submitting l⟩, c))
    (hv : answer.bind (Ceremony.verdict l) = .ok target) :
    (Moment.mk s (.server n answer)).after.runs[n]? = some ⟨k, .done (.redirected target)⟩ := by
  have hp := State.progress_server h (run_conclude_accepted _ c hv)
  refine (congrArg (·.state.runs[n]?) hp).trans ?_
  refine (getElem?_set_run (State.run?_eq_some_iff.mp h).1 _ n).trans ?_
  rw [if_pos rfl]

/-! ### The smallest page -/

/-- The options of an authentication with an empty challenge. -/
def bareOptions : Options :=
  .authentication ⟨[], [], []⟩

/-- A page that offers an authentication with an empty challenge. -/
def bareScene : Scene :=
  ⟨some .authentication, false, some "\x7b\"challenge\":\"\"\x7d", [], "https://a.example/", []⟩

/-- A platform's answer to it. -/
def bareSupply : Supply :=
  ⟨⟨"", [], "", ⟨[], [], []⟩⟩, ⟨"", [], "", ⟨[], [], [], none⟩⟩⟩

theorem decodeOptions_bare :
    Ceremony.decodeOptions .authentication bareScene.options = .ok bareOptions := by
  have htidy : (Json.Value.obj [("challenge", .str "")]).Tidy Json.maxDepth :=
    .obj (List.pairwise_singleton _ _) (List.forall_mem_singleton.mpr (.str ""))
  have hparse : Json.Value.parse "\x7b\"challenge\":\"\"\x7d" = .ok (.obj [("challenge", .str "")]) :=
    htidy.parse_text (.obj (List.forall_mem_singleton.mpr (.str "")))
  exact (Options.parse_eq_ok_iff_of_parse hparse).mpr rfl

/-- Loading a page that offers these options makes a ceremony. -/
theorem after_setup_bare (ht : s.scene.trigger = bareScene.trigger)
    (hi : s.scene.initialized = false) (ho : s.scene.options = bareScene.options) :
    (Moment.mk s .setup).after
      = { s.quiet with
          scene := s.quiet.scene.claim.hear [.trigger, .claimTrigger, .optionsText]
          ceremonies := s.ceremonies ++ [Ceremony.fresh bareOptions]
          current := some s.ceremonies.length } :=
  congrArg (·.state) (State.progress_setup_ready ht hi (ho ▸ decodeOptions_bare))

/-- The smallest page when it is loaded. -/
def State.bare : State :=
  ⟨bareScene.claim.hear [.trigger, .claimTrigger, .optionsText], [Ceremony.fresh bareOptions],
    some 0, []⟩

theorem after_setup_initial : (Moment.mk (.initial bareScene) .setup).after = State.bare :=
  after_setup_bare rfl rfl rfl

end Passkey.Rehearsal
