/-
Passkey/Proofs/Rehearsal/Handover.lean

What an older ceremony does to the trigger of its successor.

When the page is loaded again a new ceremony takes over, but a run of the old
one may still be suspended.  The two share one page, and the word on the
trigger is whatever was said last, by either:

    old:  take it ................................ fails: give it back
    new:               take it, suspended ....................

Main result: while a run of the latest ceremony is suspended, the page says
that the trigger is busy exactly if no run of an older ceremony has failed
since that run started (`suspended_pageBusy_iff`).  The last moment above is reached
(`late_failure`), so a suspended run alone promises nothing.
-/
import Mathlib.Data.List.TakeWhile
import Passkey.Proofs.Rehearsal.InFlight

namespace Passkey.Rehearsal

/-! ### The word on the page -/

/-- Whether the page was last told that the trigger is busy, by whomever. -/
def pageBusy (ms : List Moment) : Bool :=
  (lastBusy? (ms.flatMap (·.answer.calls))).getD false

/-- The moments from the start of a run on. -/
def since (n : Nat) (ms : List Moment) : List Moment :=
  ms.dropWhile fun m => m.answer.moved != some n

/-- A run of a ceremony older than `k` fails. -/
def Moment.LateFor (m : Moment) (k : Nat) : Prop :=
  ∃ n k' f, k' < k ∧ m.Fails n k' f

section Word

variable {ms : List Moment} {m : Moment} {n : Nat}

theorem pageBusy_snoc_silent (h : lastBusy? m.answer.calls = none) :
    pageBusy (ms ++ [m]) = pageBusy ms := by
  rw [pageBusy, List.flatMap_append, List.flatMap_singleton, lastBusy?_append, h]
  rfl

theorem pageBusy_snoc {busy : Bool} (h : lastBusy? m.answer.calls = some busy) :
    pageBusy (ms ++ [m]) = busy := by
  rw [pageBusy, List.flatMap_append, List.flatMap_singleton, lastBusy?_append, h]
  rfl

theorem since_eq_nil_iff : since n ms = [] ↔ ¬ ∃ m ∈ ms, m.answer.moved = some n := by
  rw [since, List.dropWhile_eq_nil_iff]
  simp

/-- What comes after the start of a run is added to the moments since then. -/
theorem since_snoc (h : ∃ m ∈ ms, m.answer.moved = some n) :
    since n (ms ++ [m]) = since n ms ++ [m] := by
  have hne : ¬ (since n ms).isEmpty := by
    rw [List.isEmpty_iff, since_eq_nil_iff]
    exact fun hno => hno h
  rw [since, List.dropWhile_append]
  exact if_neg hne

theorem since_snoc_start (h : ¬ ∃ m ∈ ms, m.answer.moved = some n)
    (hm : m.answer.moved = some n) : since n (ms ++ [m]) = [m] := by
  have hnil : (since n ms).isEmpty := List.isEmpty_iff.mpr (since_eq_nil_iff.mpr h)
  rw [since, List.dropWhile_append]
  refine (if_pos hnil).trans ?_
  exact List.dropWhile_cons_of_neg (by simp [hm])

end Word

/-! ### The latest ceremony -/

/-- The ceremony that was set up last. -/
def State.Latest (s : State) (k : Nat) : Prop :=
  s.ceremonies.length = k + 1

section Latest

variable {s t : State} {m : Moment} {k : Nat}

theorem State.options?_eq_none_iff : s.options? k = none ↔ s.ceremonies.length ≤ k := by
  rw [options?, Option.map_eq_none_iff, List.getElem?_eq_none_iff]

/-- The options tell how many ceremonies there are. -/
theorem State.length_of_options? (h : ∀ j, t.options? j = s.options? j) :
    t.ceremonies.length = s.ceremonies.length := by
  have hle (j : Nat) : t.ceremonies.length ≤ j ↔ s.ceremonies.length ≤ j := by
    rw [← options?_eq_none_iff, ← options?_eq_none_iff, h]
  exact Nat.le_antisymm ((hle _).mpr (Nat.le_refl _)) ((hle _).mp (Nat.le_refl _))

theorem Moment.SetsUp.latest {o : Options} (h : m.SetsUp k o)
    (ho : ∀ j, m.after.options? j = if j = k then some o else m.before.options? j) :
    m.after.Latest k := by
  have hlt : ¬ m.after.ceremonies.length ≤ k := by
    rw [← State.options?_eq_none_iff, ho, if_pos rfl]
    exact nofun
  have hle : m.after.ceremonies.length ≤ k + 1 := by
    rw [← State.options?_eq_none_iff, ho, if_neg (by omega), State.options?_eq_none_iff, h.number]
    omega
  show m.after.ceremonies.length = k + 1
  omega

theorem Moment.Moves.latest {n j : Nat} {stage : Stage} (h : m.Moves n j stage) :
    m.after.Latest k ↔ m.before.Latest k := by
  rw [State.Latest, State.Latest, State.length_of_options? h.options]

/-- The latest ceremony was the latest before, or it has just been set up. -/
theorem Moment.latest_cases (h : m.after.Latest k) :
    m.before.Latest k ∨ ∃ o, m.SetsUp k o := by
  rcases m.keeps_or_setsUp with ho | ⟨k', o, hs, ho⟩
  · refine .inl ?_
    rw [State.Latest, ← State.length_of_options? ho]
    exact h
  · have hk : k = k' := Nat.succ.inj (h.symm.trans (hs.latest ho))
    exact .inr ⟨o, hk ▸ hs⟩

theorem History.latest_of_current {scene : Scene} {ms : List Moment}
    (h : History (.initial scene) ms s) (hk : s.current = some k) : s.Latest k := by
  induction h with
  | start => cases hk
  | next m _ ih =>
    rcases m.current_cases with ⟨hc, ho⟩ | hc | ⟨k', o, hs, hc, ho⟩
    · rw [State.Latest, State.length_of_options? ho]
      exact ih (hc ▸ hk)
    · rw [hc] at hk
      cases hk
    · rw [hc] at hk
      cases hk
      exact hs.latest ho

/-- A ceremony whose run keeps the trigger exists. -/
theorem State.Locks.lt_length {n : Nat} (h : s.Locks k) (hn : s.Keeps k n) :
    k < s.ceremonies.length := by
  obtain ⟨o, ho⟩ := State.options?_of_holds (h.taken.mpr ⟨n, hn⟩)
  refine Nat.lt_of_not_le fun hle => ?_
  rw [State.options?_eq_none_iff.mpr hle] at ho
  cases ho

/-- A ceremony that has just been set up has no run. -/
theorem Moment.latest_of_keeps {n : Nat} (hl : m.before.Locks k) (hn : m.before.Keeps k n)
    (h : m.after.Latest k) : m.before.Latest k := by
  rcases m.latest_cases h with h | ⟨o, hs⟩
  · exact h
  · exact absurd hs.number (Nat.ne_of_gt (hl.lt_length hn))

/-- Beside a run of the latest ceremony, only a run of an older one fails. -/
theorem Moment.Fails.lateFor {n j k' : Nat} {f : Failure} (hf : m.Fails j k' f)
    (hl : ∀ k, m.before.Locks k) (hlatest : m.before.Latest k) (hn : m.before.Keeps k n)
    (hj : m.before.Keeps k' j) (hne : n ≠ j) : m.LateFor k := by
  have hkk : k' ≠ k := by
    rintro rfl
    exact hne ((hl k').unique hn hj)
  have hlt := (hl k').lt_length hj
  rw [hlatest] at hlt
  exact ⟨j, k', f, by omega, hf⟩

end Latest

/-! ### The trigger of the latest ceremony -/

/-- While a run of the latest ceremony keeps the trigger, the page takes it for
busy exactly if no run of an older ceremony has failed since. -/
theorem History.pageBusy_iff {scene : Scene} {ms : List Moment} {s : State} {k n : Nat}
    (h : History (.initial scene) ms s) (hk : s.Latest k) (hn : s.Keeps k n) :
    pageBusy ms = true ↔ ∀ m ∈ since n ms, ¬ m.LateFor k := by
  induction h with
  | start => exact absurd hn (State.not_stands (Nat.zero_le _))
  | @next ms m hms ih =>
    have hl := hms.locks
    -- a run that was there before has moved, so the moment is one more since its start
    have later (hb : m.before.Keeps k n) : since n (ms ++ [m]) = since n ms ++ [m] := by
      obtain ⟨stage, hr, -⟩ := hb
      exact since_snoc (hms.exists_moved_iff.mpr ⟨_, hr⟩)
    cases m.custody with
    | left keeps holds silent ended =>
      have hb : m.before.Keeps k n := (keeps k n).mp hn
      have hlate : ¬ m.LateFor k := by
        rintro ⟨j, k', f, -, hf⟩
        exact ended j f hf.ended
      have hlatest := Moment.latest_of_keeps (hl k) hb hk
      rw [pageBusy_snoc_silent silent, later hb, List.forall_mem_append, List.forall_mem_singleton,
        ih hlatest hb]
      exact (and_iff_left hlate).symm
    | @taken k' moves event current free holds busy ended =>
      have hlatest : m.before.Latest k := moves.latest.mp hk
      have hkk : k = k' := Nat.succ.inj (hlatest.symm.trans (hms.latest_of_current current))
      have hnew : n = m.before.runs.length := by
        rcases (moves.keeps_of_started k n).mp hn with ⟨-, hn⟩ | hb
        · exact hn
        · rw [← hkk, (hl k).taken.mpr ⟨n, hb⟩] at free
          cases free
      have hmoved : ¬ ∃ m ∈ ms, m.answer.moved = some n := by
        rw [hms.exists_moved_iff, hnew, List.getElem?_eq_none (Nat.le_refl _)]
        exact nofun
      rw [pageBusy_snoc busy, since_snoc_start hmoved (hnew ▸ moves.moved)]
      refine iff_of_true rfl (List.forall_mem_singleton.mpr ?_)
      rintro ⟨j, k'', f, -, hf⟩
      rw [hf.ended] at ended
      cases ended
    | @given j k' f kept fails busy =>
      obtain ⟨hne, hb⟩ := (fails.keeps_iff k n).mp hn
      have hlate := fails.lateFor hl (fails.toMoves.latest.mp hk) hb kept hne
      rw [pageBusy_snoc busy, later hb]
      refine iff_of_false (by simp) fun hall => ?_
      exact hall m (by simp) hlate

/-- **While a run of the latest ceremony is suspended, the page says that the
trigger is busy exactly if no run of an older ceremony has failed since that
run started.** -/
theorem suspended_pageBusy_iff (scene : Scene) (es : List Event) (k n : Nat)
    (latest : ((State.initial scene).after es).Latest k)
    (suspended : ((State.initial scene).after es).Suspended k n) :
    pageBusy ((State.initial scene).moments es) = true ↔
      ∀ m ∈ since n ((State.initial scene).moments es), ¬ m.LateFor k :=
  ((State.initial scene).history es).pageBusy_iff latest (State.keeps_iff.mpr (.inl suspended))

/-- A page that is loaded again while a run is suspended, and whose new
ceremony is started. -/
def swapped : List Event :=
  [.setup, .run, .page ⟨none, some false, none, none, none⟩, .setup, .run]

theorem after_swapped :
    ((State.initial bareScene).after swapped).Latest 1 ∧
      ((State.initial bareScene).after swapped).Suspended 1 1 ∧
      ∃ c, ((State.initial bareScene).after swapped).run? 0 = some (⟨0, .asking⟩, c) := by
  rw [swapped, State.after_cons, after_setup_initial, State.after_cons, State.after_cons,
    State.after_cons, after_setup_bare rfl rfl rfl]
  exact ⟨rfl, ⟨.asking, rfl, rfl⟩, _, rfl⟩

/-- Nobody has failed yet, so the trigger is busy. -/
theorem suspended_pageBusy_swapped :
    pageBusy ((State.initial bareScene).moments swapped) = true ↔
      ∀ m ∈ since 1 ((State.initial bareScene).moments swapped), ¬ m.LateFor 1 := by
  obtain ⟨latest, suspended, -⟩ := after_swapped
  exact suspended_pageBusy_iff bareScene swapped 1 1 latest suspended

/-- A rejected run says that the trigger is free, whoever else is suspended. -/
theorem pageBusy_of_rejection {scene : Scene} {es : List Event} {k n j k' : Nat} {c : Ceremony}
    (rejection : Rejection) (latest : ((State.initial scene).after es).Latest k)
    (suspended : ((State.initial scene).after es).Suspended k n) (hne : n ≠ j)
    (run : ((State.initial scene).after es).run? j = some (⟨k', .asking⟩, c)) :
    ((State.initial scene).after (es ++ [.platform j (.error rejection)])).Latest k ∧
      ((State.initial scene).after (es ++ [.platform j (.error rejection)])).Suspended k n ∧
      pageBusy ((State.initial scene).moments (es ++ [.platform j (.error rejection)])) = false := by
  have hf := fails_of_rejection rejection run
  refine ⟨?_, ?_, ?_⟩
  · rw [State.after_snoc]
    exact hf.toMoves.latest.mpr latest
  · rw [State.after_snoc, State.Suspended, hf.toMoves.stands_iff, if_neg hne]
    exact suspended
  · rw [State.moments_snoc]
    exact pageBusy_snoc hf.lastBusy?

/-- **A late failure frees the trigger of a suspended run**: the old run is
rejected, and the page is told that the trigger is not busy. -/
theorem late_failure :
    ¬ ∀ (scene : Scene) (es : List Event) (k n : Nat),
      ((State.initial scene).after es).Latest k →
      ((State.initial scene).after es).Suspended k n →
        pageBusy ((State.initial scene).moments es) = true := by
  intro hall
  obtain ⟨latest, suspended, c, run⟩ := after_swapped
  obtain ⟨latest, suspended, free⟩ :=
    pageBusy_of_rejection ⟨some "NotAllowedError", "too late"⟩ latest suspended (by decide) run
  rw [hall _ _ 1 1 latest suspended] at free
  cases free

end Passkey.Rehearsal
