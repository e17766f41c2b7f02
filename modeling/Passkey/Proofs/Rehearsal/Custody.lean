/-
Passkey/Proofs/Rehearsal/Custody.lean

The custody of the trigger.

A ceremony takes the trigger before its run is first suspended.  It hands the
trigger back when the run fails, and never after a redirect, so

    the ceremony holds the trigger  =  one of its runs keeps it,

where a run keeps it while it is suspended and for good once it is redirected.
At a moment the trigger is left where it is, taken or given back
(`Moment.custody`), and the equation is an invariant of all three.

Main result: the flag of a ceremony, what it last said about the trigger and
the stages of its runs agree in every state (`trigger_custody`).
-/
import Passkey.Proofs.Rehearsal.Turn

namespace Passkey.Rehearsal

/-! ### Runs that keep the trigger -/

/-- Whether a run waits for an answer. -/
def Stage.suspended : Stage → Bool
  | .asking | .submitting _ => true
  | .done _ => false

/-- Whether a run has left for a redirect. -/
def Stage.redirected : Stage → Bool
  | .done (.redirected _) => true
  | _ => false

/-- Whether a run keeps the trigger. -/
def Stage.keeps (stage : Stage) : Bool :=
  stage.suspended || stage.redirected

namespace State

variable {s : State} {k n : Nat} {stage : Stage} {p : Stage → Bool}

/-- A run of a ceremony is at one of some stages. -/
def Stands (s : State) (p : Stage → Bool) (k n : Nat) : Prop :=
  ∃ stage, s.runs[n]? = some ⟨k, stage⟩ ∧ p stage = true

/-- A run of a ceremony waits for an answer. -/
def Suspended (s : State) (k n : Nat) : Prop :=
  s.Stands Stage.suspended k n

/-- A run of a ceremony has left for a redirect. -/
def Redirected (s : State) (k n : Nat) : Prop :=
  s.Stands Stage.redirected k n

/-- A run of a ceremony keeps the trigger. -/
def Keeps (s : State) (k n : Nat) : Prop :=
  s.Stands Stage.keeps k n

theorem stands_iff (h : s.runs[n]? = some ⟨k, stage⟩) (j : Nat) :
    s.Stands p j n ↔ j = k ∧ p stage = true := by
  constructor
  · rintro ⟨stage', hr, hp⟩
    rw [h] at hr
    cases hr
    exact ⟨rfl, hp⟩
  · rintro ⟨rfl, hp⟩
    exact ⟨stage, h, hp⟩

/-- A run that is still to come stands nowhere. -/
theorem not_stands (h : s.runs.length ≤ n) : ¬ s.Stands p k n := by
  rintro ⟨stage, hr, -⟩
  rw [List.getElem?_eq_none h] at hr
  cases hr

theorem keeps_iff : s.Keeps k n ↔ s.Suspended k n ∨ s.Redirected k n := by
  constructor
  · rintro ⟨stage, hr, hp⟩
    rcases Bool.or_eq_true_iff.mp hp with hp | hp
    · exact .inl ⟨stage, hr, hp⟩
    · exact .inr ⟨stage, hr, hp⟩
  · rintro (⟨stage, hr, hp⟩ | ⟨stage, hr, hp⟩)
    · exact ⟨stage, hr, Bool.or_eq_true_iff.mpr (.inl hp)⟩
    · exact ⟨stage, hr, Bool.or_eq_true_iff.mpr (.inr hp)⟩

theorem Suspended.not_redirected (h : s.Suspended k n) : ¬ s.Redirected k n := by
  obtain ⟨stage, hr, hp⟩ := h
  intro hred
  have hp' := ((stands_iff hr k).mp hred).2
  rcases stage with - | l | o
  · cases hp'
  · cases hp'
  · cases hp

end State

/-! ### The word on the trigger -/

/-- What a call says about the trigger. -/
def Call.busy? : Call → Option Bool
  | .setBusy busy => some busy
  | _ => none

/-- The last word on the trigger, if there is one. -/
def lastBusy? (calls : List Call) : Option Bool :=
  (calls.filterMap Call.busy?).getLast?

theorem lastBusy?_append (cs ds : List Call) :
    lastBusy? (cs ++ ds) = (lastBusy? ds).or (lastBusy? cs) := by
  rw [lastBusy?, List.filterMap_append, List.getLast?_append]
  rfl

theorem lastBusy?_eq_none {calls : List Call} (h : ∀ call ∈ calls, call.busy? = none) :
    lastBusy? calls = none := by
  rw [lastBusy?, List.filterMap_eq_nil_iff.mpr h]
  rfl

theorem busy?_question (o : Options) : (State.question o).busy? = none := by
  rcases o with o | o <;> rfl

theorem busy?_of_not_ofRun {call : Call} (h : call.ofRun = false) : call.busy? = none := by
  cases call with
  | setBusy busy => cases h
  | _ => rfl

/-! ### Moments -/

namespace Moment

variable {m : Moment} {n k : Nat} {stage : Stage}

/-- The ceremony whose run moves. -/
def ceremony? (m : Moment) : Option Nat :=
  m.answer.moved.bind fun n => (m.after.runs[n]?).map (·.ceremony)

theorem Idle.ceremony? (h : m.Idle) : m.ceremony? = none := by
  rw [Moment.ceremony?, h.moved]
  rfl

theorem Moves.ceremony? (h : m.Moves n k stage) : m.ceremony? = some k := by
  rw [Moment.ceremony?, h.moved, Option.bind_some, h.runs, if_pos rfl]
  rfl

theorem Moves.stands_iff (h : m.Moves n k stage) (p : Stage → Bool) (j i : Nat) :
    m.after.Stands p j i ↔ if i = n then j = k ∧ p stage = true else m.before.Stands p j i := by
  by_cases hi : i = n
  · subst hi
    rw [if_pos rfl]
    refine State.stands_iff ?_ j
    rw [h.runs, if_pos rfl]
  · rw [if_neg hi, State.Stands, State.Stands, h.runs, if_neg hi]

/-- A run that keeps the trigger before and after leaves it where it is; so
does one that keeps it neither before nor after. -/
theorem Moves.keeps_iff (h : m.Moves n k stage)
    (hn : ∀ j, m.before.Keeps j n ↔ j = k ∧ stage.keeps = true) (j i : Nat) :
    m.after.Keeps j i ↔ m.before.Keeps j i := by
  rw [State.Keeps, h.stands_iff]
  split
  · next hi => exact hi ▸ (hn j).symm
  · exact Iff.rfl

/-- **What becomes of the trigger** at a moment. -/
inductive Custody (m : Moment) : Prop
  /-- It is left where it is. -/
  | left (keeps : ∀ k n, m.after.Keeps k n ↔ m.before.Keeps k n)
      (holds : ∀ k, m.after.holds k = m.before.holds k)
      (silent : lastBusy? m.answer.calls = none)
      (ended : ∀ n f, m.answer.ended ≠ some (n, .failed f))
  /-- The current ceremony takes it for a new run. -/
  | taken {k : Nat} (moves : m.Moves m.before.runs.length k .asking)
      (event : m.event = .run) (current : m.before.current = some k)
      (free : m.before.holds k = false)
      (holds : ∀ j, m.after.holds j = if j = k then true else m.before.holds j)
      (busy : lastBusy? m.answer.calls = some true) (ended : m.answer.ended = none)
  /-- A run that keeps it fails and gives it back. -/
  | given {n k : Nat} {f : Failure} (kept : m.before.Keeps k n) (fails : m.Fails n k f)
      (busy : lastBusy? m.answer.calls = some false)

theorem Fails.lastBusy? {f : Failure} (h : m.Fails n k f) :
    lastBusy? m.answer.calls = some false := by
  rw [h.calls, lastBusy?_append]
  rfl

theorem Idle.silent (h : m.Idle) : lastBusy? m.answer.calls = none :=
  lastBusy?_eq_none fun call hc => busy?_of_not_ofRun (h.calls call hc)

theorem Idle.keeps_iff (h : m.Idle) (k n : Nat) : m.after.Keeps k n ↔ m.before.Keeps k n := by
  rw [State.Keeps, State.Stands, h.runs]
  exact Iff.rfl

theorem custody (m : Moment) : m.Custody := by
  cases m.turn with
  | aside idle current options =>
    exact .left idle.keeps_iff idle.holds idle.silent (by simp [idle.ended])
  | ready idle setsUp current options =>
    exact .left idle.keeps_iff idle.holds idle.silent (by simp [idle.ended])
  | ignored moves event current busy holds calls ended =>
    -- the new run has ended at once
    refine .left (moves.keeps_iff fun j => ?_) holds (by rw [calls]; rfl) (by simp [ended])
    constructor
    · intro h
      exact absurd h (State.not_stands (Nat.le_refl _))
    · rintro ⟨-, h⟩
      cases h
  | started moves event current free options holds calls ended =>
    refine .taken moves event current free holds ?_ ended
    rw [calls]
    show ([some true, (State.question _).busy?].filterMap id).getLast? = _
    rw [busy?_question]
    rfl
  | posted moves event run options holds calls ended =>
    refine .left (moves.keeps_iff fun j => ?_) holds (by rw [calls]; rfl) (by simp [ended])
    rw [State.Keeps, State.stands_iff run]
    exact Iff.rfl
  | redirected moves event run verdict holds calls ended =>
    refine .left (moves.keeps_iff fun j => ?_) holds (by rw [calls]; rfl) (by simp [ended])
    rw [State.Keeps, State.stands_iff run]
    exact Iff.rfl
  | rejected event run fails => exact .given ⟨_, run, rfl⟩ fails fails.lastBusy?
  | refused event run verdict fails => exact .given ⟨_, run, rfl⟩ fails fails.lastBusy?

/-- A new run is the only one that comes to keep the trigger. -/
theorem Moves.keeps_of_started (h : m.Moves m.before.runs.length k .asking) (j i : Nat) :
    m.after.Keeps j i ↔ (j = k ∧ i = m.before.runs.length) ∨ m.before.Keeps j i := by
  rw [State.Keeps, h.stands_iff]
  split
  · next hi =>
    have hold : ¬ m.before.Keeps j i := State.not_stands (Nat.le_of_eq hi.symm)
    constructor
    · rintro ⟨hj, -⟩
      exact .inl ⟨hj, hi⟩
    · rintro (⟨hj, -⟩ | h)
      · exact ⟨hj, rfl⟩
      · exact absurd h hold
  · next hi =>
    constructor
    · exact .inr
    · rintro (⟨-, h⟩ | h)
      · exact absurd h hi
      · exact h

/-- A run that fails is the only one that keeps the trigger no longer. -/
theorem Fails.keeps_iff {f : Failure} (h : m.Fails n k f) (j i : Nat) :
    m.after.Keeps j i ↔ i ≠ n ∧ m.before.Keeps j i := by
  rw [State.Keeps, h.stands_iff]
  split
  · next hi =>
    constructor
    · rintro ⟨-, h⟩
      cases h
    · rintro ⟨h, -⟩
      exact absurd hi h
  · next hi => exact ⟨fun h => ⟨hi, h⟩, fun h => h.2⟩

end Moment

/-! ### The lock -/

/-- The flag of a ceremony is up while one of its runs keeps the trigger, and
never do two. -/
structure State.Locks (s : State) (k : Nat) : Prop where
  taken : s.holds k = true ↔ ∃ n, s.Keeps k n
  unique : ∀ {n j : Nat}, s.Keeps k n → s.Keeps k j → n = j

section Locks

variable {s t : State} {m : Moment} {n k : Nat}

/-- If the same runs keep the trigger and the flag stays, so does the lock. -/
theorem State.Locks.congr (h : s.Locks k) (holds : t.holds k = s.holds k)
    (keeps : ∀ n, t.Keeps k n ↔ s.Keeps k n) : t.Locks k := by
  refine ⟨?_, ?_⟩
  · rw [holds, h.taken]
    exact exists_congr fun n => (keeps n).symm
  · intro n j hn hj
    exact h.unique ((keeps n).mp hn) ((keeps j).mp hj)

/-- A ceremony that takes the trigger is locked by its new run alone. -/
theorem Moment.locks_of_taken (h : m.before.Locks k)
    (moves : m.Moves m.before.runs.length k .asking) (free : m.before.holds k = false)
    (holds : m.after.holds k = true) : m.after.Locks k := by
  have keeps := moves.keeps_of_started k
  have hnew {n : Nat} (hn : m.after.Keeps k n) : n = m.before.runs.length := by
    rcases (keeps n).mp hn with hn | hn
    · exact hn.2
    · -- nobody kept it before
      rw [h.taken.mpr ⟨n, hn⟩] at free
      cases free
  refine ⟨⟨fun _ => ⟨_, (keeps _).mpr (.inl ⟨rfl, rfl⟩)⟩, fun _ => holds⟩, ?_⟩
  intro n j hn hj
  rw [hnew hn, hnew hj]

/-- A ceremony that gives the trigger back had one run that kept it, and has none. -/
theorem Moment.locks_of_given {f : Failure} (h : m.before.Locks k) (kept : m.before.Keeps k n)
    (fails : m.Fails n k f) : m.after.Locks k := by
  have hnone (j : Nat) : ¬ m.after.Keeps k j := by
    intro hj
    obtain ⟨hne, hj⟩ := (fails.keeps_iff k j).mp hj
    exact hne (h.unique hj kept)
  have holds : m.after.holds k = false := by
    rw [fails.holds, if_pos rfl]
  refine ⟨⟨fun hf => ?_, fun ⟨j, hj⟩ => absurd hj (hnone j)⟩, fun hj => absurd hj (hnone _)⟩
  rw [holds] at hf
  cases hf

theorem Moment.locks (m : Moment) (h : m.before.Locks k) : m.after.Locks k := by
  cases m.custody with
  | left keeps holds silent ended => exact h.congr (holds k) (keeps k)
  | @taken k' moves event current free holds busy ended =>
    by_cases hk : k = k'
    · subst hk
      exact locks_of_taken h moves free (by rw [holds, if_pos rfl])
    · refine h.congr (by rw [holds, if_neg hk]) fun n => ?_
      rw [moves.keeps_of_started]
      exact or_iff_right fun hn => hk hn.1
  | @given n k' f kept fails busy =>
    by_cases hk : k = k'
    · subst hk
      exact locks_of_given h kept fails
    · refine h.congr (by rw [fails.holds, if_neg hk]) fun j => ?_
      rw [fails.keeps_iff]
      refine and_iff_right_of_imp ?_
      -- the run that fails is of the other ceremony
      rintro hj rfl
      obtain ⟨stage, hr, -⟩ := kept
      exact hk ((State.stands_iff hr k).mp hj).1

end Locks

theorem History.locks {scene : Scene} {ms : List Moment} {s : State}
    (h : History (.initial scene) ms s) (k : Nat) : s.Locks k := by
  induction h with
  | start =>
    have hnone (n : Nat) : ¬ (State.initial scene).Keeps k n := State.not_stands (Nat.zero_le _)
    refine ⟨⟨?_, ?_⟩, ?_⟩
    · intro hf
      cases hf
    · rintro ⟨n, hn⟩
      exact absurd hn (hnone n)
    · intro n j hn
      exact absurd hn (hnone n)
  | next m _ ih => exact m.locks ih

end Passkey.Rehearsal
