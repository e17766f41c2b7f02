/-
Passkey/Proofs/Browser/Waiting.lean

Runs that wait for a response, and their timers.

A run waits for a response while it is submitting.  A timer was armed for it
when its request was sent, and the number of that timer is part of its stage.
The two are kept together: every run that waits has its timer, and every timer
that aborts something belongs to a run that waits (`TimedWith`).  Most of what
the browser does is idle in this respect (`Idle`); the other pieces send a
request, end one, or begin a run that was spawned.

While a run is looked after, two things may be out of step.  Runs that were
spawned are pending until their turn comes, and a run whose timer has been taken
off is loose until it moves on; both are parameters of the invariant.
-/
import Passkey.Proofs.Browser.Conduct

namespace Passkey.Browser

/-! ### Timers and stages -/

/-- The run that a timer aborts, if it aborts one. -/
def Timer.aborts? (t : Timer) : Option Nat :=
  match t.alarm with
  | .abort n => some n
  | .enableResend _ _ => none

/-- The run that a task begins, if it begins one. -/
def Task.begins? : Task → Option Nat
  | .run n => some n
  | .copy _ => none

/-- The runs that are about to begin. -/
def beginning (b : Browser) : List Nat :=
  b.tasks.filterMap (·.begins?)

/-- Which ceremony a run belongs to, and where it stands. -/
def Run.course (r : Run) : Nat × Stage :=
  (r.ceremony, r.stage)

/-- The ceremony and the stage of a run. -/
def course? (b : Browser) (n : Nat) : Option (Nat × Stage) :=
  (b.runs[n]?).map (·.course)

/-- A run waits for a response, and a timer was armed that will abort its request. -/
def Waits (b : Browser) (n timer : Nat) : Prop :=
  ∃ c location, b.course? n = some (c, .submitting location timer)

/-- A run has not begun. -/
def IsSpawned (b : Browser) (n : Nat) : Prop :=
  ∃ c, b.course? n = some (c, .spawned)

/-- Numbers of timers are given once. -/
structure TimersNumbered (b : Browser) : Prop where
  nodup : (b.timers.map (·.number)).Nodup
  lt_next : ∀ t ∈ b.timers, t.number < b.nextTimer

/-- Timers and the runs that wait go together, with some runs pending and at most one loose. -/
structure TimedWith (pending : List Nat) (loose : Option Nat) (b : Browser) : Prop where
  numbered : b.TimersNumbered
  /-- A timer that aborts a request belongs to a run that waits. -/
  waits : ∀ t ∈ b.timers, ∀ n, t.aborts? = some n → b.Waits n t.number
  /-- A run that waits has its timer. -/
  armed : ∀ n k, loose ≠ some n → b.Waits n k →
    ∃ t ∈ b.timers, t.number = k ∧ t.aborts? = some n
  /-- The timer of a loose run is off. -/
  loose : ∀ n, loose = some n → ∀ t ∈ b.timers, t.aborts? ≠ some n
  /-- The ceremony of a run that waits is known. -/
  known : ∀ n k, b.Waits n k → ∃ c stage, b.course? n = some (c, stage) ∧ c < b.offers.length
  spawned : ∀ n ∈ pending, b.IsSpawned n
  nodup : pending.Nodup

/-- Nothing becomes of runs and of the timers that abort requests, and no time passes. -/
structure Idle (b b' : Browser) : Prop where
  clock : b'.clock = b.clock
  course? : b'.course? = b.course?
  offers : b.offers.length ≤ b'.offers.length
  beginning : b'.beginning = b.beginning
  next : b.nextTimer ≤ b'.nextTimer
  timers : ∃ ts : List Timer, b'.timers = b.timers ++ ts ∧ (ts.map (·.number)).Nodup ∧
    ∀ t ∈ ts, b.nextTimer ≤ t.number ∧ t.number < b'.nextTimer ∧ t.aborts? = none

section Idle

variable {b b' b'' : Browser} {n m k : Nat} {pending : List Nat} {loose : Option Nat}

theorem idle_of_same (hclock : b'.clock = b.clock) (hruns : b'.course? = b.course?)
    (hoffers : b.offers.length ≤ b'.offers.length) (htasks : b'.beginning = b.beginning)
    (htimers : b'.timers = b.timers) (hnext : b'.nextTimer = b.nextTimer) : Idle b b' :=
  ⟨hclock, hruns, hoffers, htasks, Nat.le_of_eq hnext.symm, [],
    by rw [htimers, List.append_nil], .nil, fun _ ht => absurd ht List.not_mem_nil⟩

theorem Idle.refl (b : Browser) : Idle b b :=
  idle_of_same rfl rfl (Nat.le_refl _) rfl rfl rfl

/-- Numbers of later timers are others. -/
theorem nodup_numbers {ts ts' : List Timer} (next : Nat) (h : (ts.map (·.number)).Nodup)
    (h' : (ts'.map (·.number)).Nodup) (hlt : ∀ t ∈ ts, t.number < next)
    (hle : ∀ t ∈ ts', next ≤ t.number) : ((ts ++ ts').map (·.number)).Nodup := by
  rw [List.map_append]
  refine List.nodup_append.mpr ⟨h, h', ?_⟩
  rintro _ hk _ hk' rfl
  obtain ⟨t, ht, rfl⟩ := List.mem_map.mp hk
  obtain ⟨t', ht', heq⟩ := List.mem_map.mp hk'
  exact absurd heq (Nat.ne_of_gt (Nat.lt_of_lt_of_le (hlt t ht) (hle t' ht')))

/-- Timers that are armed get later numbers. -/
theorem TimersNumbered.append {ts : List Timer} (h : b.TimersNumbered)
    (htimers : b'.timers = b.timers ++ ts) (hnodup : (ts.map (·.number)).Nodup)
    (hts : ∀ t ∈ ts, b.nextTimer ≤ t.number ∧ t.number < b'.nextTimer)
    (hnext : b.nextTimer ≤ b'.nextTimer) : b'.TimersNumbered := by
  refine ⟨?_, fun t ht => ?_⟩
  · rw [htimers]
    exact nodup_numbers b.nextTimer h.nodup hnodup h.lt_next fun t ht => (hts t ht).1
  · rcases List.mem_append.mp (htimers ▸ ht) with ht | ht
    · exact Nat.lt_of_lt_of_le (h.lt_next t ht) hnext
    · exact (hts t ht).2

theorem TimersNumbered.disarm (h : b.TimersNumbered) (k : Nat) :
    ((disarm k).run b).2.TimersNumbered :=
  ⟨h.nodup.sublist (List.filter_sublist.map _),
    fun t ht => h.lt_next t (List.mem_of_mem_filter ht)⟩

/-- A timer is known by its number. -/
theorem TimersNumbered.eq_of_number {t t' : Timer} (h : b.TimersNumbered) (ht : t ∈ b.timers)
    (ht' : t' ∈ b.timers) (hnumber : t.number = t'.number) : t = t' :=
  List.inj_on_of_nodup_map h.nodup ht ht' hnumber

/-- A run waits for one timer. -/
theorem Waits.timer_eq {k' : Nat} (h : b.Waits n k) (h' : b.Waits n k') : k = k' := by
  obtain ⟨c, location, hcourse⟩ := h
  obtain ⟨c', location', hcourse'⟩ := h'
  cases hcourse.symm.trans hcourse'
  rfl

/-- A run at a stage where it waits for nothing. -/
theorem not_waits {c : Nat} {s : Stage} (hcourse : b.course? n = some (c, s))
    (hs : submitting? s = none) : ¬ b.Waits n k := by
  rintro ⟨c', location, hcourse'⟩
  cases hcourse.symm.trans hcourse'
  cases hs

theorem Idle.trans (h : Idle b b') (h' : Idle b' b'') : Idle b b'' := by
  obtain ⟨ts, htimers, hnodup, hts⟩ := h.timers
  obtain ⟨ts', htimers', hnodup', hts'⟩ := h'.timers
  refine ⟨h'.clock.trans h.clock, h'.course?.trans h.course?, h.offers.trans h'.offers,
    h'.beginning.trans h.beginning, h.next.trans h'.next, ts ++ ts', ?_, ?_, ?_⟩
  · rw [htimers', htimers, List.append_assoc]
  · exact nodup_numbers b'.nextTimer hnodup hnodup' (fun t ht => (hts t ht).2.1)
      fun t ht => (hts' t ht).1
  · intro t ht
    rcases List.mem_append.mp ht with ht | ht
    · exact ⟨(hts t ht).1, Nat.lt_of_lt_of_le (hts t ht).2.1 h'.next, (hts t ht).2.2⟩
    · exact ⟨h.next.trans (hts' t ht).1, (hts' t ht).2⟩

theorem waits_congr (h : b'.course? = b.course?) : b'.Waits n k ↔ b.Waits n k := by
  rw [Waits, Waits, h]

/-- **Idle pieces keep timers and runs together.** -/
theorem TimedWith.idle (h : TimedWith pending loose b) (hidle : Idle b b') :
    TimedWith pending loose b' := by
  obtain ⟨ts, htimers, hnodup, hts⟩ := hidle.timers
  have hwaits {n k : Nat} : b'.Waits n k ↔ b.Waits n k := waits_congr hidle.course?
  -- the timers that abort something are those of before
  have hold : ∀ t ∈ b'.timers, ∀ n, t.aborts? = some n → t ∈ b.timers := by
    intro t ht n hn
    rcases List.mem_append.mp (htimers ▸ ht) with ht | ht
    · exact ht
    · rw [(hts t ht).2.2] at hn
      cases hn
  refine ⟨h.numbered.append htimers hnodup (fun t ht => ⟨(hts t ht).1, (hts t ht).2.1⟩) hidle.next,
    ?_, ?_, ?_, ?_, ?_, h.nodup⟩
  · intro t ht n hn
    exact hwaits.mpr (h.waits t (hold t ht n hn) n hn)
  · intro n k hloose hwait
    obtain ⟨t, ht, hk, hn⟩ := h.armed n k hloose (hwaits.mp hwait)
    exact ⟨t, htimers ▸ List.mem_append_left ts ht, hk, hn⟩
  · intro n hloose t ht hn
    exact h.loose n hloose t (hold t ht n hn) hn
  · intro n k hwait
    obtain ⟨c, stage, hcourse, hlt⟩ := h.known n k (hwaits.mp hwait)
    exact ⟨c, stage, hidle.course? ▸ hcourse, Nat.lt_of_lt_of_le hlt hidle.offers⟩
  · intro n hn
    rw [IsSpawned, hidle.course?]
    exact h.spawned n hn

/-! ### Idle actions -/

theorem isFrame_idle : IsFrame Idle (fun _ _ => True) where
  refl := .refl
  trans := .trans
  calls b calls span := idle_of_same rfl rfl (Nat.le_refl _) rfl rfl rfl
  change := by
    intro n operation _ b
    have hrun : change n operation b = (change n operation).run b := rfl
    rw [← hrun, change]
    split
    · exact .refl b
    · split
      · exact .refl b
      · exact idle_of_same rfl rfl (Nat.le_refl _) rfl rfl rfl

theorem allowsText_idle : AllowsText Idle :=
  fun _ _ _ => idle_of_same rfl rfl (Nat.le_refl _) rfl rfl rfl

theorem allowsCeremonies_idle : AllowsCeremonies Idle :=
  fun _ _ _ => idle_of_same rfl rfl (Nat.le_of_eq (List.length_modify _ _ _).symm) rfl rfl rfl

theorem mayServe_true (config : Config) : MayServe (fun _ _ => True) config :=
  ⟨fun _ => ⟨trivial, trivial⟩, fun _ => ⟨trivial, trivial⟩, fun _ _ => trivial, fun _ => trivial⟩

theorem mayPhoto_true : MayPhoto fun _ _ => True :=
  ⟨fun _ => ⟨trivial, trivial⟩, fun _ => trivial, fun _ _ => trivial⟩

theorem idle_dropSession (b : Browser) : Idle b b.dropSession := by
  obtain ⟨ls, -, heq⟩ := exists_dropSession_eq b
  rw [heq]
  exact idle_of_same rfl rfl (Nat.le_refl _) rfl rfl rfl

theorem stays_endSession_idle : Stays Idle endSession := by
  intro b
  simp only [endSession, StateT.run_bind, StateT.run_get, StateT.run_set, pure_bind]
  split
  · exact (idle_dropSession b).trans (stays_log isFrame_idle _ _ _ _ _)
  · exact idle_dropSession b

theorem stays_listen_idle (place : Place) (event : String) (handler : Handler) :
    Stays Idle (listen place event handler) :=
  fun _ => idle_of_same rfl rfl (Nat.le_refl _) rfl rfl rfl

theorem allowsLoading_idle (config : Config) : AllowsLoading Idle config where
  endSession := stays_endSession_idle
  beginSession c trigger := by
    intro b
    have hdropped := idle_dropSession b
    refine hdropped.trans ?_
    refine idle_of_same rfl rfl ?_ rfl rfl rfl
    show b.dropSession.offers.length ≤ (b.dropSession.offers ++ [_]).length
    rw [List.length_append]
    exact Nat.le_add_right _ _
  bindElement role n := stays_forM isFrame_idle (fun _ => stays_listen_idle _ _ _) _
  arm delay button icon := by
    intro b
    refine ⟨rfl, rfl, Nat.le_refl _, rfl, Nat.le_succ _, [_], rfl, List.nodup_singleton _, ?_⟩
    intro t ht
    rw [List.mem_singleton.mp ht]
    exact ⟨Nat.le_refl _, Nat.lt_succ_self _, rfl⟩

theorem stays_load_idle (config : Config) : Stays Idle (load config) :=
  stays_load isFrame_idle (allowsLoading_idle config) (fun _ => trivial)
    (fun _ => ⟨trivial, trivial⟩) allowsText_idle

/-! ### Runs that move on -/

theorem course?_setStage (n : Nat) (s : Stage) (b : Browser) (m : Nat) :
    ((setStage n s).run b).2.course? m
      = if m = n then (b.course? n).map fun c => (c.1, s) else b.course? m := by
  show ((b.runs.modify n fun r => { r with stage := s })[m]?).map Run.course = _
  rw [List.getElem?_modify, course?, course?]
  by_cases hm : m = n
  · subst hm
    cases b.runs[m]? <;> simp [Run.course]
  · cases b.runs[m]? <;> simp [hm, Ne.symm hm]

/-- **A run without a timer moves on**, to a stage where it waits for nothing. -/
theorem TimedWith.moved {s : Stage} (h : TimedWith pending loose b)
    (hoff : ∀ t ∈ b.timers, t.aborts? ≠ some n) (hloose : ∀ m, loose = some m → m = n)
    (hn : n ∉ pending) (hs : submitting? s = none) :
    TimedWith pending none ((setStage n s).run b).2 := by
  have hother {m : Nat} (hm : m ≠ n) : ((setStage n s).run b).2.course? m = b.course? m := by
    rw [course?_setStage, if_neg hm]
  have hwaits {m k : Nat} (hwait : ((setStage n s).run b).2.Waits m k) :
      m ≠ n ∧ b.Waits m k := by
    obtain ⟨c, location, hcourse⟩ := hwait
    have hm : m ≠ n := by
      rintro rfl
      rw [course?_setStage, if_pos rfl] at hcourse
      obtain ⟨found, -, heq⟩ := Option.map_eq_some_iff.mp hcourse
      cases heq
      cases hs
    exact ⟨hm, c, location, hother hm ▸ hcourse⟩
  refine ⟨⟨h.numbered.nodup, h.numbered.lt_next⟩, ?_, ?_, nofun, ?_, ?_, h.nodup⟩
  · intro t ht m hm
    have hne : m ≠ n := fun hsame => hoff t ht (hsame ▸ hm)
    obtain ⟨c, location, hcourse⟩ := h.waits t ht m hm
    exact ⟨c, location, (hother hne).trans hcourse⟩
  · intro m k _ hwait
    obtain ⟨hne, hwait⟩ := hwaits hwait
    exact h.armed m k (fun hl => hne (hloose m hl)) hwait
  · intro m k hwait
    obtain ⟨hne, hwait⟩ := hwaits hwait
    obtain ⟨c, stage, hcourse, hlt⟩ := h.known m k hwait
    exact ⟨c, stage, (hother hne).trans hcourse, hlt⟩
  · intro m hm
    have hne : m ≠ n := fun hsame => hn (hsame ▸ hm)
    obtain ⟨c, hcourse⟩ := h.spawned m hm
    exact ⟨c, (hother hne).trans hcourse⟩

/-- A run at a stage where it waits for nothing has no timer. -/
theorem TimedWith.off {c : Nat} {s : Stage} (h : TimedWith pending loose b)
    (hcourse : b.course? n = some (c, s)) (hs : submitting? s = none) :
    ∀ t ∈ b.timers, t.aborts? ≠ some n :=
  fun t ht hn => not_waits hcourse hs (h.waits t ht n hn)

/-- **A request ends**: its timer is off, and its run is loose. -/
theorem TimedWith.disarmed (h : TimedWith pending none b) (hwait : b.Waits n k) :
    TimedWith pending (some n) ((disarm k).run b).2 := by
  have hmem {t : Timer} (ht : t ∈ ((disarm k).run b).2.timers) :
      t ∈ b.timers ∧ t.number ≠ k := by
    obtain ⟨hmem, hne⟩ := List.mem_filter.mp ht
    exact ⟨hmem, of_decide_eq_true hne⟩
  refine ⟨h.numbered.disarm k, fun t ht m hm => h.waits t (hmem ht).1 m hm, ?_, ?_, h.known,
    h.spawned, h.nodup⟩
  · intro m j hne hwait'
    obtain ⟨t, ht, hj, hm⟩ := h.armed m j nofun hwait'
    refine ⟨t, List.mem_filter.mpr ⟨ht, decide_eq_true fun hk => hne ?_⟩, hj, hm⟩
    -- the timer of another run has another number
    obtain ⟨t', ht', hk', hn'⟩ := h.armed n k nofun hwait
    rw [h.numbered.eq_of_number ht ht' (hk.trans hk'.symm), hn'] at hm
    exact hm
  · intro m hm t ht haborts
    cases hm
    obtain ⟨hold, hne⟩ := hmem ht
    exact hne ((h.waits t hold n haborts).timer_eq hwait)

/-- **A request is sent**: a timer is armed, and its run waits. -/
theorem TimedWith.sent {location : String} {due : Float} (h : TimedWith pending none b)
    {c : Nat} {s : Stage} (hcourse : b.course? n = some (c, s)) (hlt : c < b.offers.length)
    (hs : submitting? s = none) (hn : n ∉ pending)
    (htimers : b'.timers = b.timers ++ [⟨b.nextTimer, due, .abort n⟩])
    (hnext : b'.nextTimer = b.nextTimer + 1) (hoffers : b'.offers.length = b.offers.length)
    (hsame : b'.course? = b.course?) :
    TimedWith pending none ((setStage n (.submitting location b.nextTimer)).run b').2 := by
  have hother {m : Nat} (hm : m ≠ n) :
      ((setStage n (.submitting location b.nextTimer)).run b').2.course? m = b.course? m := by
    rw [course?_setStage, if_neg hm, hsame]
  have hhere : ((setStage n (.submitting location b.nextTimer)).run b').2.course? n
      = some (c, .submitting location b.nextTimer) := by
    rw [course?_setStage, if_pos rfl, hsame, hcourse]
    rfl
  have hnumbered : b'.TimersNumbered := by
    refine h.numbered.append htimers (List.nodup_singleton _) (fun t ht => ?_)
      (hnext ▸ Nat.le_succ _)
    rw [List.mem_singleton.mp ht, hnext]
    exact ⟨Nat.le_refl _, Nat.lt_succ_self _⟩
  have hmem {t : Timer} (ht : t ∈ b'.timers) :
      t ∈ b.timers ∨ t = ⟨b.nextTimer, due, .abort n⟩ := by
    rw [htimers] at ht
    exact (List.mem_append.mp ht).imp_right List.mem_singleton.mp
  have hnew : (⟨b.nextTimer, due, .abort n⟩ : Timer) ∈ b'.timers := by
    rw [htimers]
    exact List.mem_append_right _ (List.mem_singleton_self _)
  refine ⟨⟨hnumbered.nodup, hnumbered.lt_next⟩, ?_, ?_, nofun, ?_, ?_, h.nodup⟩
  · intro t ht m hm
    rcases hmem ht with ht | rfl
    · have hne : m ≠ n := fun hsame => h.off hcourse hs t ht (hsame ▸ hm)
      obtain ⟨c', location', hcourse'⟩ := h.waits t ht m hm
      exact ⟨c', location', (hother hne).trans hcourse'⟩
    · cases hm
      exact ⟨c, location, hhere⟩
  · intro m k _ hwait
    by_cases hm : m = n
    · subst hm
      exact ⟨_, hnew, Waits.timer_eq ⟨c, location, hhere⟩ hwait, rfl⟩
    · obtain ⟨c', location', hcourse'⟩ := hwait
      obtain ⟨t, ht, hk, hn⟩ := h.armed m k nofun ⟨c', location', hother hm ▸ hcourse'⟩
      exact ⟨t, htimers ▸ List.mem_append_left _ ht, hk, hn⟩
  · intro m k hwait
    by_cases hm : m = n
    · subst hm
      exact ⟨c, _, hhere, hoffers.symm ▸ hlt⟩
    · obtain ⟨c', location', hcourse'⟩ := hwait
      obtain ⟨c'', stage, hknown, hlt'⟩ := h.known m k ⟨c', location', hother hm ▸ hcourse'⟩
      exact ⟨c'', stage, (hother hm).trans hknown, hoffers.symm ▸ hlt'⟩
  · intro m hm
    have hne : m ≠ n := fun hsame => hn (hsame ▸ hm)
    obtain ⟨c', hcourse'⟩ := h.spawned m hm
    exact ⟨c', (hother hne).trans hcourse'⟩

end Idle

end Passkey.Browser
