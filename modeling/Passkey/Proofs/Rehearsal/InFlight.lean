/-
Passkey/Proofs/Rehearsal/InFlight.lean

What the flag of a ceremony promises.

The lock of `Custody.lean` ties the flag of a ceremony to the stages of its
runs.  Two more views of the same ceremony follow it through a history: what
its runs said to the page, and what a new run meets.

    flag up:    a new run is ignored
    flag down:  a new run takes the trigger and asks the platform

Main result: the flag, the runs and the last word on the trigger agree in
every state, whatever ceremonies share the page (`ceremony_accords`).
-/
import Passkey.Proofs.Rehearsal.Custody

namespace Passkey.Rehearsal

/-! ### The word of a ceremony -/

/-- The calls that the runs of a ceremony make. -/
def callsOf (k : Nat) (ms : List Moment) : List Call :=
  (ms.filter fun m => m.ceremony? == some k).flatMap (·.answer.calls)

section Word

variable {ms : List Moment} {m : Moment} {k : Nat}

theorem callsOf_snoc_own (h : m.ceremony? = some k) :
    callsOf k (ms ++ [m]) = callsOf k ms ++ m.answer.calls := by
  simp [callsOf, h]

theorem callsOf_snoc_other (h : m.ceremony? ≠ some k) : callsOf k (ms ++ [m]) = callsOf k ms := by
  simp [callsOf, h]

theorem callsOf_snoc_silent (h : lastBusy? m.answer.calls = none) :
    lastBusy? (callsOf k (ms ++ [m])) = lastBusy? (callsOf k ms) := by
  by_cases hk : m.ceremony? = some k
  · rw [callsOf_snoc_own hk, lastBusy?_append, h]
    rfl
  · rw [callsOf_snoc_other hk]

theorem callsOf_snoc_moves {n k' : Nat} {stage : Stage} {busy : Bool}
    (hm : m.Moves n k' stage) (h : lastBusy? m.answer.calls = some busy) :
    lastBusy? (callsOf k (ms ++ [m]))
      = if k = k' then some busy else lastBusy? (callsOf k ms) := by
  split
  · next hk =>
    rw [callsOf_snoc_own (hk ▸ hm.ceremony?), lastBusy?_append, h]
    rfl
  · next hk =>
    rw [callsOf_snoc_other]
    rw [hm.ceremony?]
    exact fun h => hk (Option.some.inj h).symm

end Word

/-- The last word of a ceremony is its flag. -/
theorem History.lastWord {scene : Scene} {ms : List Moment} {s : State}
    (h : History (.initial scene) ms s) (k : Nat) :
    (lastBusy? (callsOf k ms)).getD false = s.holds k := by
  induction h with
  | start => rfl
  | next m _ ih =>
    cases m.custody with
    | left keeps holds silent ended => rw [callsOf_snoc_silent silent, holds, ih]
    | taken moves event current free holds busy ended =>
      rw [callsOf_snoc_moves moves busy, holds]
      split
      · rfl
      · exact ih
    | given kept fails busy =>
      rw [callsOf_snoc_moves fails.toMoves busy, fails.holds]
      split
      · rfl
      · exact ih

/-! ### What a new run meets -/

/-- A run of a ceremony is started. -/
def Moment.Starts (m : Moment) (k : Nat) : Prop :=
  m.event = .run ∧ m.before.current = some k

/-- The run that is started is ignored at once.  It makes no call, and nothing
but its own entry in the list of runs is new. -/
structure Moment.Ignores (m : Moment) (k : Nat) : Prop where
  calls : m.answer.calls = []
  ended : m.answer.ended = some (m.before.runs.length, .ignored)
  after : m.after = { m.before.quiet with runs := m.before.runs ++ [⟨k, .done .ignored⟩] }

/-- The run that is started takes the trigger, asks the platform and waits. -/
structure Moment.Proceeds (m : Moment) (k : Nat) : Prop where
  calls : ∃ o, m.before.options? k = some o ∧
    m.answer.calls = [.clearErrors, .setBusy true, State.question o]
  ended : m.answer.ended = none
  suspended : m.after.Suspended k m.before.runs.length

namespace State

variable {s : State} {k : Nat}

theorem ignores_of_holds (hcur : s.current = some k) (hh : s.holds k = true) :
    (Moment.mk s .run).Ignores k := by
  rcases hk : s.ceremonies[k]? with - | c
  · rw [holds, hk] at hh
    cases hh
  · have hp := progress_run_busy (current?_eq_some_iff.mpr ⟨hcur, hk⟩) (holds_eq hk ▸ hh)
    exact ⟨congrArg (·.state.scene.calls) hp, congrArg (·.ended) hp, congrArg (·.state) hp⟩

theorem proceeds_of_free {o : Options} (hcur : s.current = some k) (hh : s.holds k = false)
    (ho : s.options? k = some o) : (Moment.mk s .run).Proceeds k := by
  obtain ⟨c, hk, rfl⟩ := Option.map_eq_some_iff.mp ho
  have hp := progress_run_free (current?_eq_some_iff.mpr ⟨hcur, hk⟩) (holds_eq hk ▸ hh)
  refine ⟨⟨c.options, ho, congrArg (·.state.scene.calls) hp⟩, congrArg (·.ended) hp,
    .asking, ?_, rfl⟩
  refine (congrArg (·.state.runs[s.runs.length]?) hp).trans ?_
  exact (getElem?_append_run _ _).trans (if_pos rfl)

end State

/-- A ceremony takes the trigger only when a run of it is started. -/
theorem Moment.free_of_not_starts (m : Moment) {k : Nat} (h : ¬ m.Starts k)
    (hh : m.before.holds k = false) : m.after.holds k = false := by
  cases m.custody with
  | left keeps holds silent ended => rw [holds, hh]
  | taken moves event current free holds busy ended =>
    have hk : k ≠ _ := fun hk => h ⟨event, hk ▸ current⟩
    rw [holds, if_neg hk, hh]
  | given kept fails busy =>
    rw [fails.holds]
    split
    · rfl
    · exact hh

theorem Moment.silent_of_unmoved (m : Moment) (h : m.ceremony? = none) :
    lastBusy? m.answer.calls = none := by
  cases m.custody with
  | left keeps holds silent ended => exact silent
  | taken moves =>
    rw [moves.ceremony?] at h
    cases h
  | given kept fails =>
    rw [fails.toMoves.ceremony?] at h
    cases h

theorem Moment.fails_of_ended {m : Moment} {n k : Nat} {f : Failure}
    (h : m.answer.ended = some (n, .failed f)) (hk : m.ceremony? = some k) : m.Fails n k f := by
  cases m.custody with
  | left keeps holds silent ended => exact absurd h (ended n f)
  | taken moves event current free holds busy ended =>
    rw [ended] at h
    cases h
  | given kept fails busy =>
    rw [fails.toMoves.ceremony?] at hk
    rw [fails.ended] at h
    cases hk
    cases h
    exact fails

theorem Moment.redirected_of_ended {m : Moment} {n k : Nat} {target : String}
    (h : m.answer.ended = some (n, .redirected target)) (hk : m.ceremony? = some k) :
    m.after.runs[n]? = some ⟨k, .done (.redirected target)⟩ := by
  -- no other turn ends a run like this
  have other {e : Option (Nat × Ceremony.Outcome)} (he : m.answer.ended = e)
      (hne : e ≠ some (n, .redirected target)) :
      m.after.runs[n]? = some ⟨k, .done (.redirected target)⟩ :=
    absurd (he.symm.trans h) hne
  cases m.turn with
  | aside idle current options => exact other idle.ended (by simp)
  | ready idle setsUp current options => exact other idle.ended (by simp)
  | ignored moves event current busy holds calls ended => exact other ended (by simp)
  | started moves event current free options holds calls ended => exact other ended (by simp)
  | posted moves event run options holds calls ended => exact other ended (by simp)
  | redirected moves event run verdict holds calls ended =>
    rw [ended] at h
    rw [moves.ceremony?] at hk
    cases h
    cases hk
    rw [moves.runs, if_pos rfl]
  | rejected event run fails => exact other fails.ended (by simp)
  | refused event run verdict fails => exact other fails.ended (by simp)

/-! ### The accord -/

/-- What the flag of a ceremony says in a state, after the moments that led to it. -/
structure Accords (ms : List Moment) (s : State) (k : Nat) : Prop where
  /-- The flag is up exactly if one run is suspended or one has left. -/
  holds : s.holds k = true ↔
    (∃ n, s.Suspended k n ∧ ∀ j, s.Suspended k j → j = n) ∨ ∃ n, s.Redirected k n
  /-- When one has left, none is suspended. -/
  exclusive : ∀ n j, s.Suspended k n → ¬ s.Redirected k j
  /-- Never are two suspended. -/
  single : ∀ n j, s.Suspended k n → s.Suspended k j → n = j
  /-- The runs of the ceremony said last what the flag says. -/
  word : (lastBusy? (callsOf k ms)).getD false = s.holds k
  /-- Nobody but runs says anything about the trigger. -/
  silence : ∀ m ∈ ms, m.ceremony? = none → lastBusy? m.answer.calls = none
  /-- While the flag is up, a run is ignored. -/
  ignores : s.current = some k → s.holds k = true → (Moment.mk s .run).Ignores k
  /-- While it is not, a run really starts. -/
  proceeds : s.current = some k → s.holds k = false → (Moment.mk s .run).Proceeds k
  /-- After a run that failed, the next one really starts. -/
  recovers : ∀ before m between n f, ms = before ++ m :: between →
    m.answer.ended = some (n, .failed f) → m.ceremony? = some k →
    (∀ x ∈ between, ¬ x.Starts k) → s.current = some k → (Moment.mk s .run).Proceeds k
  /-- After a run that was redirected, every later one is ignored. -/
  leaves : ∀ before m between n target, ms = before ++ m :: between →
    m.answer.ended = some (n, .redirected target) → m.ceremony? = some k →
    s.current = some k → (Moment.mk s .run).Ignores k

namespace History

variable {scene : Scene} {ms : List Moment} {s : State} {k : Nat}

theorem holds_iff (h : History (.initial scene) ms s) :
    s.holds k = true ↔
      (∃ n, s.Suspended k n ∧ ∀ j, s.Suspended k j → j = n) ∨ ∃ n, s.Redirected k n := by
  have hl := h.locks k
  rw [hl.taken]
  constructor
  · rintro ⟨n, hn⟩
    rcases State.keeps_iff.mp hn with hs | hr
    · refine .inl ⟨n, hs, fun j hj => ?_⟩
      exact hl.unique (State.keeps_iff.mpr (.inl hj)) hn
    · exact .inr ⟨n, hr⟩
  · rintro (⟨n, hs, -⟩ | ⟨n, hr⟩)
    · exact ⟨n, State.keeps_iff.mpr (.inl hs)⟩
    · exact ⟨n, State.keeps_iff.mpr (.inr hr)⟩

/-- A ceremony whose run failed is free until it is started again. -/
theorem free_of_failed {before between : List Moment} {m : Moment} {n : Nat} {f : Failure}
    (h : History (.initial scene) ms s) (hms : ms = before ++ m :: between)
    (ended : m.answer.ended = some (n, .failed f)) (hk : m.ceremony? = some k)
    (hstarts : ∀ x ∈ between, ¬ x.Starts k) : s.holds k = false := by
  refine h.persists (·.holds k = false) hms ?_ ?_
  · rw [(Moment.fails_of_ended ended hk).holds, if_pos rfl]
  · intro x hx hb
    exact x.free_of_not_starts (hstarts x hx) hb

/-- A ceremony whose run was redirected holds the trigger for good. -/
theorem holds_of_redirected {before between : List Moment} {m : Moment} {n : Nat}
    {target : String} (h : History (.initial scene) ms s) (hms : ms = before ++ m :: between)
    (ended : m.answer.ended = some (n, .redirected target)) (hk : m.ceremony? = some k) :
    s.holds k = true := by
  have hr : s.runs[n]? = some ⟨k, .done (.redirected target)⟩ := by
    refine h.persists (·.runs[n]? = some ⟨k, .done (.redirected target)⟩) hms ?_ ?_
    · exact Moment.redirected_of_ended ended hk
    · intro x _ hb
      exact x.runs_of_done hb
  exact h.holds_iff.mpr (.inr ⟨n, _, hr, rfl⟩)

end History

/-- **The flag of every ceremony tells the truth**, in every state that any
order of events leads to: it agrees with the runs of the ceremony and with its
last word on the trigger, and decides alone what becomes of the next run. -/
theorem ceremony_accords (scene : Scene) (es : List Event) (k : Nat) :
    Accords ((State.initial scene).moments es) ((State.initial scene).after es) k := by
  have h := (State.initial scene).history es
  have hl := h.locks k
  -- a suspended and a redirected run both keep the trigger, and only one run does
  refine ⟨h.holds_iff, ?_, ?_, h.lastWord k, fun m _ => m.silent_of_unmoved,
    State.ignores_of_holds, ?_, ?_, ?_⟩
  · intro n j hs hr
    have hn := hl.unique (State.keeps_iff.mpr (.inl hs)) (State.keeps_iff.mpr (.inr hr))
    exact hs.not_redirected (hn ▸ hr)
  · intro n j hn hj
    exact hl.unique (State.keeps_iff.mpr (.inl hn)) (State.keeps_iff.mpr (.inl hj))
  · intro hcur hh
    obtain ⟨o, ho⟩ := h.options?_of_current hcur
    exact State.proceeds_of_free hcur hh ho
  · intro before m between n f hms ended hk hstarts hcur
    obtain ⟨o, ho⟩ := h.options?_of_current hcur
    exact State.proceeds_of_free hcur (h.free_of_failed hms ended hk hstarts) ho
  · intro before m between n target hms ended hk hcur
    exact State.ignores_of_holds hcur (h.holds_of_redirected hms ended hk)

/-- A second run, while the first one asks the platform. -/
theorem ceremony_accords_second_run :
    (Moment.mk ((State.initial bareScene).after [.setup, .run]) .run).Ignores 0 := by
  refine (ceremony_accords bareScene [.setup, .run] 0).ignores ?_ ?_
  · rw [State.after_cons, after_setup_initial]
    rfl
  · rw [State.after_cons, after_setup_initial]
    rfl

end Passkey.Rehearsal
