/-
Passkey/Proofs/Rehearsal/Claim.lean

Who claims the trigger.

A load of the page looks for the trigger and for its mark.  It claims a trigger
without mark, and only then it reads the options:

    no trigger      absent    no ceremony is current
    marked          skipped   everything stays as it is
    not marked      ready     a new ceremony is current
                    failed    the error is shown, no ceremony is current

Nothing but the page itself takes the mark away again.  So while the page does
not, one load claims the trigger at most, and every later one passes over it
(`trigger_claimed_once`).
-/
import Passkey.Proofs.Rehearsal.Turn

namespace Passkey.Rehearsal

/-! ### Loads -/

/-- The load claims a trigger without mark, and reads the options after that.  It is ready
exactly if there are options that can be used. -/
inductive Moment.Claims (m : Moment) : Prop
  /-- The options are those of a new ceremony, which nobody has touched. -/
  | ready {mode : Mode} {text : String} {o : Options} (event : m.event = .setup)
      (trigger : m.before.scene.trigger = some mode)
      (unmarked : m.before.scene.initialized = false)
      (options : m.before.scene.options = some text) (parsed : Options.parse mode text = .ok o)
      (result : m.answer.result = .setup (.ready mode))
      (calls : m.answer.calls = [.trigger, .claimTrigger, .optionsText])
      (offered : m.after.current? = some (m.before.ceremonies.length, .fresh o))
  /-- The error `parse` is shown, and nothing is offered. -/
  | failed {mode : Mode} {detail : String} (event : m.event = .setup)
      (trigger : m.before.scene.trigger = some mode)
      (unmarked : m.before.scene.initialized = false)
      (unusable : ∀ text o, m.before.scene.options = some text → Options.parse mode text ≠ .ok o)
      (result : m.answer.result = .setup (.failed (.badOptions detail)))
      (calls : m.answer.calls = [.trigger, .claimTrigger, .optionsText, .hideMessages,
        .revealError "parse" (m.before.scene.declared.contains "parse")]
        ++ if m.before.scene.declared.contains "parse" then [] else [.showGenericError "parse"])
      (offered : m.after.current? = none)
      (ceremonies : m.after.ceremonies = m.before.ceremonies)

/-- The load does not get as far as the options. -/
inductive Moment.PassesOver (m : Moment) : Prop
  /-- There is no trigger, and no ceremony any longer. -/
  | absent (trigger : m.before.scene.trigger = none)
      (result : m.answer.result = .setup .absent) (calls : m.answer.calls = [.trigger])
      (offered : m.after.current? = none)
      (ceremonies : m.after.ceremonies = m.before.ceremonies)
  /-- The trigger is marked.  The current ceremony keeps its flag, its options and its watch,
  and so does every other one. -/
  | skipped {mode : Mode} (trigger : m.before.scene.trigger = some mode)
      (marked : m.before.scene.initialized = true)
      (result : m.answer.result = .setup .skipped)
      (calls : m.answer.calls = [.trigger, .claimTrigger])
      (offered : m.after.current? = m.before.current?)
      (ceremonies : m.after.ceremonies = m.before.ceremonies)

/-- The page marks the trigger by itself. -/
def Event.Marks (e : Event) : Prop :=
  ∃ change, e = .page change ∧ change.initialized = some true

/-- The page takes the mark away. -/
def Event.Unmarks (e : Event) : Prop :=
  ∃ change, e = .page change ∧ change.initialized = some false

/-- Calls that only loads make. -/
def Call.ofLoad : Call → Bool
  | .trigger | .claimTrigger | .optionsText => true
  | _ => false

section Options

variable {mode : Mode} {text : Option String} {o : Options} {f : Failure}

theorem decodeOptions_eq_ok_iff :
    Ceremony.decodeOptions mode text = .ok o ↔
      ∃ t, text = some t ∧ Options.parse mode t = .ok o := by
  rcases text with - | t
  · exact ⟨nofun, nofun⟩
  · constructor
    · exact fun h => ⟨t, rfl, h⟩
    · rintro ⟨_, ht, h⟩
      cases ht
      exact h

/-- Options that cannot be decoded are a failure of the options. -/
theorem exists_badOptions (h : Ceremony.decodeOptions mode text = .error f) :
    ∃ detail, f = .badOptions detail := by
  rcases text with - | t
  · cases h
    exact ⟨_, rfl⟩
  · rw [Ceremony.decodeOptions, Options.parse] at h
    rcases hp : Options.parseFault mode t with fault | o
    · rw [hp] at h
      cases h
      exact ⟨_, rfl⟩
    · rw [hp] at h
      cases h

end Options

section Load

variable {s : State}

/-- **Every load claims the trigger or passes over it.** -/
theorem claims_or_passesOver (s : State) :
    (Moment.mk s .setup).Claims ∨ (Moment.mk s .setup).PassesOver := by
  rcases ht : s.scene.trigger with - | mode
  · have hp := State.progress_setup_absent ht
    refine .inr (.absent ht (congrArg (·.result) hp) (congrArg (·.state.scene.calls) hp) ?_ ?_)
    · exact congrArg (·.state.current?) hp
    · exact congrArg (·.state.ceremonies) hp
  rcases hi : s.scene.initialized with - | -
  · rcases hd : Ceremony.decodeOptions mode s.scene.options with f | o
    · obtain ⟨detail, rfl⟩ := exists_badOptions hd
      have hp := State.progress_setup_failed ht hi hd
      refine .inl (.failed rfl ht hi ?_ (congrArg (·.result) hp)
        (congrArg (·.state.scene.calls) hp) (congrArg (·.state.current?) hp)
        (congrArg (·.state.ceremonies) hp))
      intro text o htext ho
      rw [decodeOptions_eq_ok_iff.mpr ⟨text, htext, ho⟩] at hd
      cases hd
    · obtain ⟨text, htext, ho⟩ := decodeOptions_eq_ok_iff.mp hd
      have hp := State.progress_setup_ready ht hi hd
      have hresult := congrArg (·.result) hp
      rw [mode_of_decodeOptions hd] at hresult
      refine .inl (.ready rfl ht hi htext ho hresult (congrArg (·.state.scene.calls) hp) ?_)
      refine (congrArg (·.state.current?) hp).trans (State.current?_eq_some_iff.mpr ⟨rfl, ?_⟩)
      exact List.getElem?_concat_length
  · have hp := State.progress_setup_skipped ht hi
    exact .inr (.skipped ht hi (congrArg (·.result) hp) (congrArg (·.state.scene.calls) hp)
      (congrArg (·.state.current?) hp) (congrArg (·.state.ceremonies) hp))

/-- No load moves a run. -/
theorem ofRun_of_load (s : State) :
    ∀ call ∈ (Moment.mk s .setup).answer.calls, call.ofRun = false := by
  cases turn_setup (s := s) with
  | aside idle => exact idle.calls
  | ready idle => exact idle.calls
  | ignored moves event => cases event
  | started moves event => cases event
  | posted moves event => cases event
  | redirected moves event => cases event
  | rejected event => cases event
  | refused event => cases event

end Load

/-! ### Everything else -/

/-- What happens leaves the page as it is, and looks neither for the trigger nor for the options. -/
structure Moment.Apart (m : Moment) : Prop where
  scene : m.after.scene = { m.before.scene with calls := m.answer.calls }
  calls : ∀ call ∈ m.answer.calls, call.ofLoad = false

section Apart

variable {s : State}

theorem Scene.ofLoad_of_mem_display {s : Scene} {key : String} {call : Call}
    (h : call ∈ s.display key) : call.ofLoad = false := by
  rcases List.mem_append.mp h with h | h
  · rcases List.mem_pair.mp h with rfl | rfl <;> rfl
  · split at h
    · cases h
    · rw [List.mem_singleton.mp h]
      rfl

theorem ofLoad_question (o : Options) : (State.question o).ofLoad = false := by
  cases o <;> rfl

/-- An event is apart if the page hears of it what no load says. -/
theorem apart_of_hear {e : Event} {p : State.Progress} {calls : List Call}
    (hp : s.quiet.progress e = p) (hscene : p.state.scene = s.quiet.scene.hear calls)
    (hcalls : ∀ call ∈ calls, call.ofLoad = false) : (Moment.mk s e).Apart := by
  subst hp
  have hheard : (Moment.mk s e).answer.calls = calls := congrArg Scene.calls hscene
  refine ⟨?_, hheard ▸ hcalls⟩
  rw [hheard]
  exact hscene

theorem apart_of_still {e : Event} {p : State.Progress} (hp : s.quiet.progress e = p)
    (hscene : p.state.scene = s.quiet.scene) : (Moment.mk s e).Apart := by
  have hnothing : p.state.scene = s.quiet.scene.hear [] := by
    rw [hscene, Scene.hear_nil]
  exact apart_of_hear hp hnothing nofun

theorem apart_keys (strokes : List Keystrokes.Keystroke) : (Moment.mk s (.keys strokes)).Apart := by
  rcases hc : s.current? with - | ⟨k, c⟩
  · exact apart_of_still (State.progress_keys_none strokes hc) rfl
  · obtain ⟨indices, monitor, hp, -⟩ := State.progress_keys strokes hc
    refine apart_of_hear hp rfl fun call h => ?_
    obtain ⟨_, -, h⟩ := List.mem_flatMap.mp h
    exact Scene.ofLoad_of_mem_display h

theorem apart_displayError (key : String) : (Moment.mk s (.displayError key)).Apart := by
  rcases hc : s.current? with - | ⟨k, c⟩
  · exact apart_of_still (State.progress_displayError_none key hc) rfl
  · refine apart_of_hear (State.progress_displayError key hc) rfl ?_
    exact fun call h => Scene.ofLoad_of_mem_display h

theorem apart_run : (Moment.mk s .run).Apart := by
  rcases hc : s.current? with - | ⟨k, c⟩
  · exact apart_of_still (State.progress_run_none hc) rfl
  rcases hf : c.inFlight with - | -
  · refine apart_of_hear (State.progress_run_free hc hf) rfl ?_
    exact List.forall_mem_cons.mpr ⟨rfl, List.forall_mem_cons.mpr ⟨rfl,
      List.forall_mem_singleton.mpr (ofLoad_question c.options)⟩⟩
  · exact apart_of_still (State.progress_run_busy hc hf) rfl

/-- A run that fails shows its error and hands the trigger back. -/
theorem ofLoad_failing {scene : Scene} {key : String} :
    ∀ call ∈ scene.display key ++ [.setBusy false], call.ofLoad = false :=
  List.forall_mem_append.mpr ⟨fun _ h => Scene.ofLoad_of_mem_display h,
    List.forall_mem_singleton.mpr rfl⟩

theorem apart_platform (n : Nat) (answer : Except Rejection Supply) :
    (Moment.mk s (.platform n answer)).Apart := by
  by_cases h : ∃ k c, s.run? n = some (⟨k, .asking⟩, c)
  · obtain ⟨k, c, h⟩ := h
    rcases answer with rejection | supply
    · exact apart_of_hear (State.progress_platform_rejected rejection h) rfl ofLoad_failing
    · refine apart_of_hear (State.progress_platform_supplied supply h) rfl ?_
      exact List.forall_mem_cons.mpr ⟨rfl, List.forall_mem_singleton.mpr rfl⟩
  · refine apart_of_still (State.progress_platform_unheard answer ?_) rfl
    exact fun k c hr => h ⟨k, c, hr⟩

theorem apart_server (n : Nat) (answer : Except Failure Reply) :
    (Moment.mk s (.server n answer)).Apart := by
  by_cases h : ∃ k l c, s.run? n = some (⟨k, .submitting l⟩, c)
  · obtain ⟨k, l, c, h⟩ := h
    rcases hv : answer.bind (Ceremony.verdict l) with f | target
    · exact apart_of_hear (State.progress_server h (run_conclude_refused _ c hv)) rfl
        ofLoad_failing
    · exact apart_of_hear (State.progress_server h (run_conclude_accepted _ c hv)) rfl
        (List.forall_mem_singleton.mpr rfl)
  · refine apart_of_still (State.progress_server_unheard answer ?_) rfl
    exact fun k l c hr => h ⟨k, l, c, hr⟩

/-- **Whatever is no load and no change of the page is apart from both.** -/
theorem Moment.apart (m : Moment) (hload : m.event ≠ .setup)
    (hpage : ∀ change, m.event ≠ .page change) : m.Apart := by
  obtain ⟨s, e⟩ := m
  cases e with
  | setup => exact absurd rfl hload
  | page change => exact absurd rfl (hpage change)
  | keys strokes => exact apart_keys strokes
  | run => exact apart_run
  | platform n answer => exact apart_platform n answer
  | server n answer => exact apart_server n answer
  | displayError key => exact apart_displayError key

end Apart

/-! ### The mark -/

section Mark

variable {m : Moment}

theorem Moment.Claims.loads (h : m.Claims) : m.event = .setup := by
  cases h with
  | ready event => exact event
  | failed event => exact event

theorem Moment.Claims.trigger (h : m.Claims) : m.before.scene.trigger ≠ none := by
  cases h with
  | ready event trigger => exact trigger ▸ nofun
  | failed event trigger => exact trigger ▸ nofun

theorem Moment.Claims.unmarked (h : m.Claims) : m.before.scene.initialized = false := by
  cases h with
  | ready event trigger unmarked => exact unmarked
  | failed event trigger unmarked => exact unmarked

/-- Whoever claims the trigger marks it. -/
theorem Moment.Claims.marked (h : m.Claims) : m.after.scene.initialized = true := by
  obtain ⟨s, e⟩ := m
  cases h with
  | ready event trigger unmarked options parsed =>
    cases event
    have hd := decodeOptions_eq_ok_iff.mpr ⟨_, options, parsed⟩
    exact congrArg (·.state.scene.initialized) (State.progress_setup_ready trigger unmarked hd)
  | @failed mode detail event trigger unmarked unusable =>
    cases event
    rcases hd : Ceremony.decodeOptions mode s.scene.options with f | o
    · exact congrArg (·.state.scene.initialized) (State.progress_setup_failed trigger unmarked hd)
    · obtain ⟨text, htext, ho⟩ := decodeOptions_eq_ok_iff.mp hd
      exact absurd ho (unusable text o htext)

/-- A load that passes over the trigger found none, or found it marked. -/
theorem Moment.PassesOver.trigger (h : m.PassesOver) :
    m.before.scene.trigger = none ∨ m.before.scene.initialized = true := by
  cases h with
  | absent trigger => exact .inl trigger
  | skipped trigger marked => exact .inr marked

theorem Moment.PassesOver.ofLoad (h : m.PassesOver) :
    m.answer.calls = [.trigger] ∨ m.answer.calls = [.trigger, .claimTrigger] := by
  cases h with
  | absent trigger result calls => exact .inl calls
  | skipped trigger marked result calls => exact .inr calls

/-- A load that passes over the trigger leaves the mark alone. -/
theorem initialized_of_passesOver {s : State} (h : (Moment.mk s .setup).PassesOver) :
    (Moment.mk s .setup).after.scene.initialized = s.scene.initialized := by
  cases h with
  | absent trigger =>
    exact congrArg (·.state.scene.initialized) (State.progress_setup_absent trigger)
  | skipped trigger marked =>
    exact congrArg (·.state.scene.initialized) (State.progress_setup_skipped trigger marked)

/-- A load claims the trigger exactly if there is one and it carries no mark. -/
theorem Moment.claims_iff (hload : m.event = .setup) :
    m.Claims ↔ m.before.scene.trigger ≠ none ∧ m.before.scene.initialized = false := by
  refine ⟨fun h => ⟨h.trigger, h.unmarked⟩, ?_⟩
  rintro ⟨trigger, unmarked⟩
  obtain ⟨s, e⟩ := m
  cases hload
  rcases claims_or_passesOver s with h | h
  · exact h
  · rcases h.trigger with hnone | hmarked
    · exact absurd hnone trigger
    · rw [unmarked] at hmarked
      cases hmarked

/-- Something puts a mark on the trigger. -/
def Moment.Marks (m : Moment) : Prop :=
  m.Claims ∨ m.event.Marks

/-- **The mark is put on by a load that claims the trigger, or by the page itself.** -/
theorem Moment.initialized_iff (m : Moment) (kept : ¬ m.event.Unmarks) :
    m.after.scene.initialized = true ↔ m.before.scene.initialized = true ∨ m.Marks := by
  obtain ⟨s, e⟩ := m
  -- loads and changes of the page can move the mark, nothing else can
  by_cases hload : e = .setup
  · subst hload
    rcases claims_or_passesOver s with h | h
    · exact iff_of_true h.marked (.inr (.inl h))
    · rw [initialized_of_passesOver h]
      refine (or_iff_left_of_imp ?_).symm
      rintro (hclaims | ⟨change, hpage, -⟩)
      · rcases h.trigger with hnone | hmarked
        · exact absurd hnone hclaims.trigger
        · exact hmarked
      · cases hpage
  by_cases hpage : ∃ change, e = .page change
  · obtain ⟨change, rfl⟩ := hpage
    have hafter : (Moment.mk s (.page change)).after.scene.initialized
        = change.initialized.getD s.scene.initialized := rfl
    rw [hafter]
    rcases hi : change.initialized with - | - | -
    · -- the change says nothing about the mark
      refine (or_iff_left_of_imp ?_).symm
      rintro (hclaims | ⟨_, hevent, hmark⟩)
      · cases hclaims.loads
      · cases hevent
        rw [hi] at hmark
        cases hmark
    · exact absurd ⟨change, rfl, hi⟩ kept
    · exact iff_of_true rfl (.inr (.inr ⟨change, rfl, hi⟩))
  · have hapart := (Moment.mk s e).apart hload fun change h => hpage ⟨change, h⟩
    rw [hapart.scene]
    refine (or_iff_left_of_imp ?_).symm
    rintro (hclaims | ⟨change, hevent, -⟩)
    · exact absurd hclaims.loads hload
    · exact absurd ⟨change, hevent⟩ hpage

end Mark

/-! ### Histories -/

section Histories

variable {start s : State} {ms : List Moment}

/-- While the page takes no mark away, the trigger is marked exactly if somebody has marked it. -/
theorem History.initialized_iff (h : History start ms s)
    (unmarked : start.scene.initialized = false) (kept : ∀ x ∈ ms, ¬ x.event.Unmarks) :
    s.scene.initialized = true ↔ ∃ x ∈ ms, x.Marks := by
  -- on the history: each moment adds its own marking, if it is one
  induction h with
  | start =>
    rw [unmarked]
    exact iff_of_false nofun (by simp)
  | @next ms m _ ih =>
    have hbefore := ih fun x hx => kept x (List.mem_append_left _ hx)
    rw [m.initialized_iff (kept m (by simp)), hbefore]
    simp [or_and_right, exists_or]

end Histories

theorem State.event_of_mem_moments {s : State} {es : List Event} {m : Moment}
    (h : m ∈ s.moments es) : m.event ∈ es := by
  induction es generalizing s with
  | nil => cases h
  | cons e es ih =>
    rcases List.mem_cons.mp h with rfl | h
    · exact List.mem_cons_self
    · exact List.mem_cons_of_mem _ (ih h)

/-- What the loads among the moments do, if the trigger carries no mark at first and the page
takes none away. -/
structure ClaimedOnce (ms : List Moment) : Prop where
  /-- A load claims the trigger exactly if there is one that nobody has marked yet. -/
  claims_iff : ∀ before m later, ms = before ++ m :: later → m.event = .setup →
    (m.Claims ↔ m.before.scene.trigger ≠ none ∧ ∀ x ∈ before, ¬ x.Marks)
  /-- After that every load passes over it, and nobody reads the options again. -/
  last : ∀ before m later, ms = before ++ m :: later → m.Claims →
    ∀ x ∈ later, (x.event = .setup → x.PassesOver) ∧ .optionsText ∉ x.answer.calls

section Once

variable {start s : State} {ms : List Moment}

/-- Only a load reads the options, and only if it claims the trigger. -/
theorem Moment.claims_of_optionsText {m : Moment} (h : .optionsText ∈ m.answer.calls) :
    m.Claims := by
  obtain ⟨s, e⟩ := m
  by_cases hload : e = .setup
  · subst hload
    rcases claims_or_passesOver s with hclaims | hover
    · exact hclaims
    · rcases hover.ofLoad with hcalls | hcalls <;> simp [hcalls] at h
  by_cases hpage : ∃ change, e = .page change
  · obtain ⟨change, rfl⟩ := hpage
    cases h
  · have hapart := (Moment.mk s e).apart hload fun change h => hpage ⟨change, h⟩
    cases hapart.calls _ h

theorem History.claimedOnce (h : History start ms s)
    (unmarked : start.scene.initialized = false) (kept : ∀ x ∈ ms, ¬ x.event.Unmarks) :
    ClaimedOnce ms := by
  have initialized {before later : List Moment} {m : Moment} (hms : ms = before ++ m :: later) :
      m.before.scene.initialized = true ↔ ∃ x ∈ before, x.Marks := by
    refine (h.split hms).1.initialized_iff unmarked fun x hx => kept x ?_
    rw [hms]
    exact List.mem_append_left _ hx
  have claims_iff (before : List Moment) (m : Moment) (later : List Moment)
      (hms : ms = before ++ m :: later) (hload : m.event = .setup) :
      m.Claims ↔ m.before.scene.trigger ≠ none ∧ ∀ x ∈ before, ¬ x.Marks := by
    rw [Moment.claims_iff hload, ← Bool.not_eq_true, initialized hms]
    simp
  refine ⟨claims_iff, ?_⟩
  intro before m later hms hm x hx
  obtain ⟨between, rest, rfl⟩ := List.append_of_mem hx
  have hagain : ms = (before ++ m :: between) ++ x :: rest := by
    rw [hms, List.append_assoc, List.cons_append]
  -- the claim has marked the trigger, so nobody can claim it again
  have hno : ¬ x.Claims := by
    intro hx
    have hfresh := ((claims_iff _ _ _ hagain hx.loads).mp hx).2
    exact hfresh m (by simp) (.inl hm)
  refine ⟨?_, fun hread => hno (Moment.claims_of_optionsText hread)⟩
  intro hload
  obtain ⟨s, e⟩ := x
  cases hload
  exact (claims_or_passesOver s).resolve_left hno

end Once

/-- **The trigger is claimed once.**  Every load claims the trigger or passes over it, and no
load moves a run.  If the trigger carries no mark at first and the page never takes one away, a
load claims it exactly if it is there and nobody has marked it yet; every later load passes over
it. -/
theorem trigger_claimed_once (scene : Scene) (es : List Event) :
    (∀ m ∈ (State.initial scene).moments es, m.event = .setup →
      (m.Claims ∨ m.PassesOver) ∧ ∀ call ∈ m.answer.calls, call.ofRun = false) ∧
    (scene.initialized = false → (∀ e ∈ es, ¬ e.Unmarks) →
      ClaimedOnce ((State.initial scene).moments es)) := by
  refine ⟨?_, ?_⟩
  · rintro ⟨s, e⟩ - hload
    cases hload
    exact ⟨claims_or_passesOver s, ofRun_of_load s⟩
  · intro unmarked kept
    refine ((State.initial scene).history es).claimedOnce unmarked ?_
    exact fun x hx => kept _ (State.event_of_mem_moments hx)

/-- The smallest page is loaded, started and loaded again: the second load passes over the
trigger. -/
theorem trigger_claimed_once_reloaded :
    (Moment.mk ((State.initial bareScene).after [.setup, .run]) .setup).PassesOver := by
  have hkept : ∀ e ∈ [Event.setup, .run, .setup], ¬ e.Unmarks := by
    intro e he
    simp only [List.mem_cons, List.not_mem_nil, or_false] at he
    rcases he with rfl | rfl | rfl <;> exact fun ⟨_, h, _⟩ => nomatch h
  have honce := (trigger_claimed_once bareScene [.setup, .run, .setup]).2 rfl hkept
  have hclaims : (Moment.mk (.initial bareScene) .setup).Claims :=
    (Moment.claims_iff rfl).mpr ⟨nofun, rfl⟩
  have hms : (State.initial bareScene).moments ([.setup, .run] ++ [.setup])
      = [] ++ ⟨.initial bareScene, .setup⟩ ::
        ((Moment.mk (.initial bareScene) .setup).after.moments [.run] ++
          [⟨(State.initial bareScene).after [.setup, .run], .setup⟩]) :=
    State.moments_snoc _ _ _
  refine (honce.last _ _ _ hms hclaims _ ?_).1 rfl
  exact List.mem_append_right _ (List.mem_singleton_self _)

end Passkey.Rehearsal
