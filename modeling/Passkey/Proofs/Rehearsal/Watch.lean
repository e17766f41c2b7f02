/-
Passkey/Proofs/Rehearsal/Watch.lean

The watch for security keys that type.

A ceremony is made with its watch on.  The first warning ends the watch, and so
does the first run, and nobody begins it again.  So the watch is a budget:

    warnings of a ceremony  +  its watch afterwards  ≤  its watch before

(`History.warnings_le`).  A ceremony that is still to be made counts as watched,
which makes the budget of every ceremony one warning from the first moment on.
-/
import Passkey.Proofs.Rehearsal.InFlight

namespace Passkey.Rehearsal

/-! ### Warnings -/

/-- The keystrokes that warned, by index. -/
def Result.alarms : Result → List Nat
  | .warned indices => indices
  | _ => []

/-- The keystrokes that warn at a moment. -/
def Moment.warned (m : Moment) : List Nat :=
  m.answer.result.alarms

/-- The warnings of a ceremony: only the current one hears keys. -/
def warnings (k : Nat) (ms : List Moment) : List Nat :=
  (ms.filter fun m => m.before.current == some k).flatMap Moment.warned

theorem warnings_snoc_own {k : Nat} {ms : List Moment} {m : Moment}
    (h : m.before.current = some k) : warnings k (ms ++ [m]) = warnings k ms ++ m.warned := by
  simp [warnings, h]

theorem warnings_snoc_other {k : Nat} {ms : List Moment} {m : Moment}
    (h : m.before.current ≠ some k) : warnings k (ms ++ [m]) = warnings k ms := by
  simp [warnings, h]

/-! ### What becomes of the ceremonies -/

/-- **What becomes of the ceremonies** at a moment, and who hears keys. -/
inductive Moment.Tends (m : Moment) : Prop
  /-- They stay as they are. -/
  | left (ceremonies : m.after.ceremonies = m.before.ceremonies) (silent : m.warned = [])
  /-- One more is made. -/
  | made {o : Options}
      (ceremonies : m.after.ceremonies = m.before.ceremonies ++ [Ceremony.fresh o])
      (silent : m.warned = [])
  /-- The current one is started, which ends its watch. -/
  | started {k : Nat} {c : Ceremony} (current : m.before.current? = some (k, c))
      (ceremonies : m.after.ceremonies
        = m.before.ceremonies.set k { c with monitor := c.monitor.disable, inFlight := true })
      (silent : m.warned = [])
  /-- One hands the trigger back. -/
  | freed {k : Nat} {c : Ceremony} (ceremony : m.before.ceremonies[k]? = some c)
      (ceremonies : m.after.ceremonies = m.before.ceremonies.set k { c with inFlight := false })
      (silent : m.warned = [])
  /-- The current one hears keys. -/
  | typed {k : Nat} {c : Ceremony} {monitor : Keystrokes.Monitor}
      (current : m.before.current? = some (k, c))
      (ceremonies : m.after.ceremonies = m.before.ceremonies.set k { c with monitor })
      (spent : m.warned.length + monitor.active.toNat ≤ c.monitor.active.toNat)

section Tends

variable {s : State} {e : Event} {p : State.Progress}

theorem tends_left (hp : s.quiet.progress e = p) (hc : p.state.ceremonies = s.ceremonies)
    (hr : p.result.alarms = []) : (Moment.mk s e).Tends := by
  subst hp
  exact .left hc hr

theorem tends_freed {k : Nat} {c : Ceremony} (hp : s.quiet.progress e = p)
    (hk : s.ceremonies[k]? = some c)
    (hc : p.state.ceremonies = s.ceremonies.set k { c with inFlight := false })
    (hr : p.result.alarms = []) : (Moment.mk s e).Tends := by
  subst hp
  exact .freed hk hc hr

theorem tends_setup : (Moment.mk s .setup).Tends := by
  rcases ht : s.scene.trigger with - | mode
  · exact tends_left (State.progress_setup_absent ht) rfl rfl
  rcases hi : s.scene.initialized with - | -
  · rcases hd : Ceremony.decodeOptions mode s.scene.options with f | o
    · exact tends_left (State.progress_setup_failed ht hi hd) rfl rfl
    · have hp := State.progress_setup_ready ht hi hd
      exact .made (congrArg (·.state.ceremonies) hp) (congrArg (·.result.alarms) hp)
  · exact tends_left (State.progress_setup_skipped ht hi) rfl rfl

theorem tends_keys (strokes : List Keystrokes.Keystroke) :
    (Moment.mk s (.keys strokes)).Tends := by
  rcases hc : s.current? with - | ⟨k, c⟩
  · exact tends_left (State.progress_keys_none strokes hc) rfl rfl
  · obtain ⟨indices, monitor, hp, hspent⟩ := State.progress_keys strokes hc
    have hwarned : (Moment.mk s (.keys strokes)).warned = indices :=
      congrArg (·.result.alarms) hp
    exact .typed hc (congrArg (·.state.ceremonies) hp) (hwarned ▸ hspent)

theorem tends_run : (Moment.mk s .run).Tends := by
  rcases hc : s.current? with - | ⟨k, c⟩
  · exact tends_left (State.progress_run_none hc) rfl rfl
  rcases hf : c.inFlight with - | -
  · have hp := State.progress_run_free hc hf
    exact .started hc (congrArg (·.state.ceremonies) hp) (congrArg (·.result.alarms) hp)
  · exact tends_left (State.progress_run_busy hc hf) rfl rfl

theorem tends_platform (n : Nat) (answer : Except Rejection Supply) :
    (Moment.mk s (.platform n answer)).Tends := by
  by_cases h : ∃ k c, s.run? n = some (⟨k, .asking⟩, c)
  · obtain ⟨k, c, h⟩ := h
    obtain ⟨-, hk⟩ := State.run?_eq_some_iff.mp h
    rcases answer with rejection | supply
    · exact tends_freed (State.progress_platform_rejected rejection h) hk rfl rfl
    · exact tends_left (State.progress_platform_supplied supply h) rfl rfl
  · refine tends_left (State.progress_platform_unheard answer ?_) rfl rfl
    exact fun k c hr => h ⟨k, c, hr⟩

theorem tends_server (n : Nat) (answer : Except Failure Reply) :
    (Moment.mk s (.server n answer)).Tends := by
  by_cases h : ∃ k l c, s.run? n = some (⟨k, .submitting l⟩, c)
  · obtain ⟨k, l, c, h⟩ := h
    obtain ⟨-, hk⟩ := State.run?_eq_some_iff.mp h
    rcases hv : answer.bind (Ceremony.verdict l) with f | target
    · exact tends_freed (State.progress_server h (run_conclude_refused _ c hv)) hk rfl rfl
    · -- a ceremony that is put back unchanged
      refine tends_left (State.progress_server h (run_conclude_accepted _ c hv)) ?_ rfl
      obtain ⟨hlt, rfl⟩ := List.getElem?_eq_some_iff.mp hk
      exact List.set_getElem_self hlt
  · refine tends_left (State.progress_server_unheard answer ?_) rfl rfl
    exact fun k l c hr => h ⟨k, l, c, hr⟩

/-- Every moment tends to the ceremonies in one of these ways. -/
theorem Moment.tends (m : Moment) : m.Tends := by
  obtain ⟨s, e⟩ := m
  cases e with
  | setup => exact tends_setup
  | page change => exact .left rfl rfl
  | keys strokes => exact tends_keys strokes
  | run => exact tends_run
  | platform n answer => exact tends_platform n answer
  | server n answer => exact tends_server n answer
  | displayError key =>
    rcases hc : s.current? with - | ⟨k, c⟩
    · exact tends_left (State.progress_displayError_none key hc) rfl rfl
    · exact tends_left (State.progress_displayError key hc) rfl rfl

end Tends

/-! ### The budget -/

/-- Whether a ceremony may still warn.  One that is still to be made may. -/
def State.listens (s : State) (k : Nat) : Bool :=
  (s.ceremonies[k]?).all (·.monitor.active)

section Budget

variable {s t : State} {m : Moment} {k : Nat} {c : Ceremony}

theorem State.listens_eq (h : s.ceremonies[k]? = some c) : s.listens k = c.monitor.active := by
  rw [listens, h]
  rfl

theorem State.listens_congr (h : t.ceremonies = s.ceremonies) (j : Nat) :
    t.listens j = s.listens j := by
  rw [listens, listens, h]

theorem State.listens_of_append {o : Options}
    (h : t.ceremonies = s.ceremonies ++ [Ceremony.fresh o]) (j : Nat) :
    t.listens j = s.listens j := by
  rw [listens, listens, h]
  rcases Nat.lt_trichotomy j s.ceremonies.length with hj | hj | hj
  · rw [List.getElem?_append_left hj]
  · -- the watch of a new ceremony is on, as it was supposed to be
    rw [hj, List.getElem?_concat_length, List.getElem?_eq_none (Nat.le_refl _)]
    rfl
  · rw [List.getElem?_eq_none (by simp; omega), List.getElem?_eq_none (by omega)]

theorem State.listens_of_set {c' : Ceremony} (hk : s.ceremonies[k]? = some c)
    (h : t.ceremonies = s.ceremonies.set k c') (j : Nat) :
    t.listens j = if j = k then c'.monitor.active else s.listens j := by
  by_cases hj : k = j
  · subst hj
    simp [listens, h, List.getElem?_set_self', hk]
  · rw [if_neg (Ne.symm hj)]
    simp [listens, h, List.getElem?_set_ne hj]

/-- What a ceremony warns at a moment is paid by its watch. -/
theorem Moment.spends (m : Moment) (k : Nat) :
    (if m.before.current = some k then m.warned.length else 0) + (m.after.listens k).toNat
      ≤ (m.before.listens k).toNat := by
  have silently (silent : m.warned = []) (h : (m.after.listens k).toNat
      ≤ (m.before.listens k).toNat) :
      (if m.before.current = some k then m.warned.length else 0) + (m.after.listens k).toNat
        ≤ (m.before.listens k).toNat := by
    rw [silent, List.length_nil, ite_self, Nat.zero_add]
    exact h
  cases m.tends with
  | left ceremonies silent =>
    exact silently silent (by rw [State.listens_congr ceremonies])
  | made ceremonies silent =>
    exact silently silent (by rw [State.listens_of_append ceremonies])
  | started current ceremonies silent =>
    obtain ⟨-, hk⟩ := State.current?_eq_some_iff.mp current
    refine silently silent ?_
    rw [State.listens_of_set hk ceremonies]
    split
    · exact Nat.zero_le _
    · exact Nat.le_refl _
  | freed ceremony ceremonies silent =>
    refine silently silent ?_
    rw [State.listens_of_set ceremony ceremonies]
    split
    · next hj => rw [hj, State.listens_eq ceremony]
    · exact Nat.le_refl _
  | @typed k' c monitor current ceremonies spent =>
    obtain ⟨hcur, hk⟩ := State.current?_eq_some_iff.mp current
    rw [State.listens_of_set hk ceremonies, hcur]
    by_cases hj : k = k'
    · -- it hears the keys, and pays for its warnings
      rw [hj, if_pos rfl, if_pos rfl, State.listens_eq hk]
      exact spent
    · rw [if_neg fun h => hj (Option.some.inj h).symm, if_neg hj, Nat.zero_add]

/-- **A watch pays for all warnings of its ceremony.** -/
theorem History.warnings_le {start : State} {ms : List Moment} (h : History start ms s) (k : Nat) :
    (warnings k ms).length + (s.listens k).toNat ≤ (start.listens k).toNat := by
  induction h with
  | start => rw [warnings, List.filter_nil, List.flatMap_nil, List.length_nil, Nat.zero_add]
  | next m _ ih =>
    -- what was spent before and what is spent now come out of the same budget
    have hspends := m.spends k
    by_cases hcur : m.before.current = some k
    · rw [if_pos hcur] at hspends
      rw [warnings_snoc_own hcur, List.length_append]
      omega
    · rw [if_neg hcur] at hspends
      rw [warnings_snoc_other hcur]
      omega

/-- A run ends the watch of its ceremony, and only runs take the trigger. -/
def State.Hushed (s : State) : Prop :=
  ∀ (k : Nat) (c : Ceremony), s.ceremonies[k]? = some c → c.inFlight = true →
    c.monitor.active = false

theorem State.hushed_of_set {c' : Ceremony} (h : s.Hushed)
    (hc : t.ceremonies = s.ceremonies.set k c')
    (hc' : c'.inFlight = true → c'.monitor.active = false) : t.Hushed := by
  intro j d hd hf
  by_cases hj : k = j
  · subst hj
    obtain ⟨-, rfl⟩ : k < s.ceremonies.length ∧ c' = d := by
      simpa [hc, List.getElem?_set] using hd
    exact hc' hf
  · rw [hc, List.getElem?_set_ne hj] at hd
    exact h j d hd hf

theorem Moment.hushed (m : Moment) (h : m.before.Hushed) : m.after.Hushed := by
  cases m.tends with
  | left ceremonies silent =>
    intro k c hc
    exact h k c (ceremonies ▸ hc)
  | made ceremonies silent =>
    intro k c hc hf
    rw [ceremonies, List.getElem?_append] at hc
    split at hc
    · exact h k c hc hf
    · -- the new one does not hold the trigger
      rw [List.mem_singleton.mp (List.mem_of_getElem? hc)] at hf
      cases hf
  | started current ceremonies silent => exact State.hushed_of_set h ceremonies fun _ => rfl
  | freed ceremony ceremonies silent => exact State.hushed_of_set h ceremonies nofun
  | @typed k c monitor current ceremonies spent =>
    obtain ⟨-, hk⟩ := State.current?_eq_some_iff.mp current
    refine State.hushed_of_set h ceremonies fun hf => ?_
    have hoff := h k c hk hf
    rw [hoff, Bool.toNat_false] at spent
    rcases ha : monitor.active with - | -
    · rfl
    · rw [ha, Bool.toNat_true] at spent
      omega

theorem History.hushed {scene : Scene} {ms : List Moment} (h : History (.initial scene) ms s) :
    s.Hushed := by
  induction h with
  | start =>
    intro k c hc
    cases hc
  | next m _ ih => exact m.hushed ih

/-- Whoever is started is watched no longer, also if it was running before. -/
theorem Moment.Starts.not_listens (h : m.Starts k) (hh : m.before.Hushed)
    (ho : ∃ o, m.before.options? k = some o) : m.after.listens k = false := by
  obtain ⟨s, e⟩ := m
  obtain ⟨rfl, hcur⟩ := h
  obtain ⟨o, ho⟩ := ho
  obtain ⟨c, hk, -⟩ := Option.map_eq_some_iff.mp ho
  have hc : s.current? = some (k, c) := State.current?_eq_some_iff.mpr ⟨hcur, hk⟩
  rcases hf : c.inFlight with - | -
  · have hset : (Moment.mk s .run).after.ceremonies
        = s.ceremonies.set k { c with monitor := c.monitor.disable, inFlight := true } :=
      congrArg (·.state.ceremonies) (State.progress_run_free hc hf)
    exact (State.listens_of_set hk hset k).trans (if_pos rfl)
  · have hsame : (Moment.mk s .run).after.ceremonies = s.ceremonies :=
      congrArg (·.state.ceremonies) (State.progress_run_busy hc hf)
    exact (State.listens_congr hsame k).trans ((State.listens_eq hk).trans (hh k c hk hf))

end Budget

/-! ### One warning at most -/

/-- What a ceremony warns, and when. -/
structure Watched (ms : List Moment) (k : Nat) : Prop where
  /-- It warns once at most. -/
  once : (warnings k ms).length ≤ 1
  /-- It never warns after it was started, whatever became of the run. -/
  spent : ∀ before m later, ms = before ++ m :: later → m.Starts k → warnings k later = []

theorem History.watched {scene : Scene} {ms : List Moment} {s : State}
    (h : History (.initial scene) ms s) (k : Nat) : Watched ms k := by
  refine ⟨?_, ?_⟩
  · -- no ceremony is made yet, so the budget is one warning
    have hbudget := h.warnings_le k
    have hone : ((State.initial scene).listens k).toNat = 1 := rfl
    omega
  · intro before m later hms hm
    obtain ⟨hbefore, hlater⟩ := h.split hms
    have hbudget := hlater.warnings_le k
    rw [hm.not_listens hbefore.hushed (hbefore.options?_of_current hm.2), Bool.toNat_false]
      at hbudget
    exact List.eq_nil_of_length_eq_zero (by omega)

end Passkey.Rehearsal
