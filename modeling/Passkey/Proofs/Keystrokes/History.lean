/-
Passkey/Proofs/Keystrokes/History.lean

A bounded window that forgets nothing that matters.

The monitor keeps fifty times at most and drops the oldest one for every time
beyond them.  Here it is compared with the unbounded history of a sequence of
calls: the times of all keydowns that count, none dropped.  As long as the
watch is on, the window is the end of that history,

    window  =  the last 50 times of the history                (`remembers`)

and the time that a burst is judged by, the tenth newest, always lies in that
end.  So the answer of every call can be read off the history alone
(`warns_iff`), whatever the clock does: the times are not assumed to increase,
and nothing is assumed of their order.

Keys that do not count leave no trace at all, neither in the window nor in the
answers around them (`warnings_insertIdx`).
-/
import Passkey.Keystrokes
import Mathlib.Data.List.DropRight

namespace Passkey.Keystrokes

/-! ### Calls -/

/-- What is done to a monitor. -/
inductive Call where
  /-- A keydown is recorded. -/
  | record (key : String) (time : Float)
  /-- The watch is switched off. -/
  | disable
deriving Repr

/-- The monitor after a call, and whether the call warned. -/
def Monitor.call (m : Monitor) : Call → Bool × Monitor
  | .record key time => m.record key time
  | .disable => (false, m.disable)

/-- The monitor after calls. -/
def Monitor.after (m : Monitor) (calls : List Call) : Monitor :=
  calls.foldl (fun m c => (m.call c).2) m

/-- Which of the calls warned, in order. -/
def Monitor.warnings (m : Monitor) : List Call → List Bool
  | [] => []
  | c :: calls => (m.call c).1 :: (m.call c).2.warnings calls

/-- The time of a call that records a keydown that counts. -/
def Call.counted? : Call → Option Float
  | .record key time => if counts key then some time else none
  | .disable => none

/-- The unbounded history: the times of all keydowns that count. -/
def history (calls : List Call) : List Float :=
  calls.filterMap Call.counted?

/-- Nothing has ended the watch: no call switched it off, and none warned. -/
def Watchful (calls : List Call) : Prop :=
  (∀ c ∈ calls, c ≠ .disable) ∧ ∀ warned ∈ Monitor.fresh.warnings calls, warned = false

/-- The time nine keydowns before the next one, if there have been as many. -/
def NineBefore (times : List Float) (oldest : Float) : Prop :=
  9 ≤ times.length ∧ times[times.length - 9]? = some oldest

/-- The next keydown ends a burst by the history: it is at least the tenth one
that counts, and less than 200 milliseconds have gone by since the one that is
nine before it. -/
def EndsBurst (calls : List Call) (now : Float) : Prop :=
  ∃ oldest, NineBefore (history calls) oldest ∧ now - oldest < 200

/-- A key counts if it is one character at most, or Enter. -/
theorem counts_iff {key : String} : counts key = true ↔ key.length ≤ 1 ∨ key = "Enter" := by
  simp [counts, String.length_toList]

section Runs

variable (m : Monitor) (calls later : List Call) (c : Call)

theorem Monitor.after_snoc : m.after (calls ++ [c]) = ((m.after calls).call c).2 := by
  simp [after]

theorem Monitor.length_warnings : (m.warnings calls).length = calls.length := by
  induction calls generalizing m with
  | nil => rfl
  | cons c calls ih => simp [warnings, ih]

/-- What calls answer does not depend on later ones. -/
theorem Monitor.warnings_append :
    m.warnings (calls ++ later) = m.warnings calls ++ (m.after calls).warnings later := by
  induction calls generalizing m with
  | nil => rfl
  | cons c calls ih =>
    simp only [List.cons_append, warnings, ih]
    rfl

/-- What one of the calls answers is what the monitor of that moment answers. -/
theorem Monitor.warnings_at :
    (m.warnings (calls ++ c :: later))[calls.length]? = some ((m.after calls).call c).1 := by
  rw [warnings_append, List.getElem?_append_right (by rw [length_warnings])]
  simp [warnings, length_warnings]

end Runs

/-! ### The window -/

section Window

variable (times : List Float) (now : Float)

/-- **Sliding the end of a history gives the end of the longer history.** -/
theorem slide_rtake :
    slide (times.rtake windowCapacity) now = (times ++ [now]).rtake windowCapacity := by
  have hsnoc : (times ++ [now]).rtake windowCapacity = times.rtake 49 ++ [now] :=
    List.rtake_concat_succ times 49 now
  rw [hsnoc, slide]
  simp only [List.rtake, windowCapacity, List.length_append, List.length_drop, List.length_singleton]
  by_cases hlong : times.length < 50
  · -- the window holds the whole history and has room for one more
    rw [if_neg (by omega), show times.length - 50 = 0 by omega, show times.length - 49 = 0 by omega]
  · rw [if_pos (by omega), List.drop_append_of_le_length (by simp; omega), List.drop_drop]
    congr 2
    omega

/-- The window has ten times exactly if the history had nine before. -/
theorem burstLength_le_slide :
    burstLength ≤ (slide (times.rtake windowCapacity) now).length ↔ 9 ≤ times.length := by
  rw [slide_rtake]
  simp only [List.rtake, burstLength, windowCapacity, List.length_drop, List.length_append,
    List.length_singleton]
  omega

/-- **The tenth newest time lies in the window**, and is the one of the history. -/
theorem slide_tenth (hten : 9 ≤ times.length) :
    (slide (times.rtake windowCapacity) now)[
        (slide (times.rtake windowCapacity) now).length - burstLength]?
      = times[times.length - 9]? := by
  rw [slide_rtake, List.rtake, List.getElem?_drop, List.getElem?_append_left]
  · -- both indices count from the end
    congr 1
    simp only [List.length_drop, List.length_append, List.length_singleton, windowCapacity,
      burstLength]
    omega
  · simp only [List.length_drop, List.length_append, List.length_singleton, windowCapacity,
      burstLength]
    omega

/-- **The window judges a burst as the history does.** -/
theorem isBurst_slide :
    isBurst (slide (times.rtake windowCapacity) now) now = true ↔
      ∃ oldest, NineBefore times oldest ∧ now - oldest < 200 := by
  rw [isBurst, Bool.and_eq_true, decide_eq_true_eq, burstLength_le_slide]
  by_cases hten : 9 ≤ times.length
  · rw [slide_tenth times now hten]
    rcases h : times[times.length - 9]? with - | oldest
    · simp [NineBefore, h]
    · constructor
      · rintro ⟨-, hlt⟩
        exact ⟨oldest, ⟨hten, h⟩, of_decide_eq_true hlt⟩
      · rintro ⟨t, ⟨-, ht⟩, hlt⟩
        rw [h, Option.some.injEq] at ht
        subst ht
        exact ⟨hten, decide_eq_true hlt⟩
  · simp [NineBefore, hten]

end Window

/-! ### What a monitor remembers -/

section Memory

variable {calls : List Call} {c : Call} {m : Monitor}

theorem history_snoc : history (calls ++ [c]) = history calls ++ c.counted?.toList := by
  rw [history, List.filterMap_append]
  rcases h : c.counted? with - | t <;> simp [history, h]

theorem watchful_snoc (calls : List Call) (c : Call) :
    Watchful (calls ++ [c]) ↔
      Watchful calls ∧ c ≠ .disable ∧ ((Monitor.fresh.after calls).call c).1 = false := by
  simp only [Watchful, Monitor.warnings_append, Monitor.warnings, List.forall_mem_append,
    List.forall_mem_singleton]
  tauto

/-- What a monitor knows of the calls that it got. -/
structure Remembers (calls : List Call) (m : Monitor) : Prop where
  /-- It watches until something ends the watch. -/
  active : m.active = true ↔ Watchful calls
  /-- While it watches, the window is the end of the history; afterwards it is empty. -/
  window : m.window = if m.active then (history calls).rtake windowCapacity else []

/-- A monitor that still watches and one that does not answer a keydown differently. -/
theorem Remembers.record (h : Remembers calls m) (key : String) (now : Float) :
    (m.record key now).1 = true ↔ counts key = true ∧ Watchful calls ∧ EndsBurst calls now := by
  rw [Monitor.record, ← h.active]
  rcases ha : m.active with - | -
  · simp
  rcases hc : counts key with - | -
  · simp
  have hwindow : m.window = (history calls).rtake windowCapacity := by
    rw [h.window, if_pos ha]
  have hburst := isBurst_slide (history calls) now
  rw [← hwindow] at hburst
  rcases hb : isBurst (slide m.window now) now with - | -
  · simpa [hb, EndsBurst] using hburst
  · simpa [hb, EndsBurst] using hburst

theorem remembers_fresh : Remembers [] Monitor.fresh := by
  refine ⟨?_, rfl⟩
  simp [Monitor.fresh, Watchful, Monitor.warnings]

/-- **A call keeps what the monitor remembers true**: the cases are what the
call does to the watch. -/
theorem Remembers.call (h : Remembers calls (Monitor.fresh.after calls)) (c : Call) :
    Remembers (calls ++ [c]) (Monitor.fresh.after (calls ++ [c])) := by
  rw [Monitor.after_snoc]
  generalize hm : Monitor.fresh.after calls = m at h
  have hw := watchful_snoc calls c
  rw [hm] at hw
  cases c with
  | disable =>
    -- the watch ends, and the window goes with it
    refine ⟨?_, rfl⟩
    rw [hw]
    simp [Monitor.call, Monitor.disable]
  | record key now =>
    rw [Monitor.call] at hw ⊢
    rcases ha : m.active with - | -
    · -- the watch has ended before, so nothing is recorded
      have hsame : m.record key now = (false, m) := by simp [Monitor.record, ha]
      rw [hsame] at hw ⊢
      refine ⟨?_, ?_⟩
      · rw [hw, ← h.active]
        simp [ha]
      · rw [h.window]
        simp [ha]
    have hwindow : m.window = (history calls).rtake windowCapacity := by
      rw [h.window, if_pos ha]
    rcases hc : counts key with - | -
    · -- the key does not count, and neither window nor history notices it
      have hsame : m.record key now = (false, m) := by simp [Monitor.record, hc]
      have hhist : history (calls ++ [.record key now]) = history calls := by
        simp [history_snoc, Call.counted?, hc]
      rw [hsame] at hw ⊢
      refine ⟨?_, ?_⟩
      · rw [hw, ← h.active]
        simp
      · rw [hhist]
        exact h.window
    rcases hb : isBurst (slide m.window now) now with - | -
    · have hnext : m.record key now = (false, { m with window := slide m.window now }) := by
        simp [Monitor.record, ha, hc, hb]
      have hhist : history (calls ++ [.record key now]) = history calls ++ [now] := by
        simp [history_snoc, Call.counted?, hc]
      rw [hnext] at hw ⊢
      refine ⟨?_, ?_⟩
      · rw [hw, ← h.active]
        simp
      · rw [if_pos ha, hhist, ← slide_rtake, ← hwindow]
    · -- a warning ends the watch
      have hnext : m.record key now = (true, m.disable) := by
        simp [Monitor.record, ha, hc, hb]
      rw [hnext] at hw ⊢
      refine ⟨?_, rfl⟩
      rw [hw]
      simp [Monitor.disable]

/-- **What a monitor remembers is true after any calls.** -/
theorem remembers (calls : List Call) : Remembers calls (Monitor.fresh.after calls) := by
  induction calls using List.reverseRecOn with
  | nil => exact remembers_fresh
  | append_singleton calls c ih => exact ih.call c

end Memory

/-! ### Keys that do not count -/

/-- **A key that does not count can be put in anywhere**: its own answer is no,
and all other answers stay as they are. -/
theorem warnings_insertIdx {key : String} (h : counts key = false) (now : Float) (m : Monitor)
    (calls : List Call) (i : Nat) :
    m.warnings (calls.insertIdx i (.record key now)) = (m.warnings calls).insertIdx i false := by
  have hsame (m : Monitor) : m.record key now = (false, m) := by simp [Monitor.record, h]
  induction i generalizing m calls with
  | zero => simp [Monitor.warnings, Monitor.call, hsame]
  | succ i ih =>
    rcases calls with - | ⟨c, calls⟩
    · rfl
    · simp [Monitor.warnings, ih]

/-! ### The bounded monitor and the unbounded history -/

/-- **The bounded monitor agrees with the unbounded history.**  After any calls
before it, a recorded keydown warns exactly if its key counts, the watch has
not ended, and by the history it ends a burst.  In every state that can be
reached, the window is the end of the history while the watch is on and empty
afterwards, and when it is long enough to be judged, the time that is looked up
is there and is the one of the history.  A key that does not count changes no
other answer. -/
theorem monitor_keeps_history (before later : List Call) (key : String) (now : Float) :
    ((Monitor.fresh.warnings (before ++ .record key now :: later))[before.length]? = some true ↔
        (key.length ≤ 1 ∨ key = "Enter") ∧ Watchful before ∧ EndsBurst before now) ∧
      ((Monitor.fresh.after before).active = true ↔ Watchful before) ∧
      (Monitor.fresh.after before).window
        = (if (Monitor.fresh.after before).active then (history before).rtake 50 else []) ∧
      (Watchful before → 10 ≤ (slide (Monitor.fresh.after before).window now).length →
        ∃ oldest, NineBefore (history before) oldest ∧
          (slide (Monitor.fresh.after before).window now)[
            (slide (Monitor.fresh.after before).window now).length - 10]? = some oldest) ∧
      ∀ other time i, ¬(other.length ≤ 1 ∨ other = "Enter") →
        Monitor.fresh.warnings ((before ++ later).insertIdx i (.record other time))
          = (Monitor.fresh.warnings (before ++ later)).insertIdx i false := by
  have hmem := remembers before
  refine ⟨?_, hmem.active, hmem.window, ?_, ?_⟩
  · rw [Monitor.warnings_at, Option.some.injEq, Monitor.call, hmem.record, counts_iff]
  · intro hwatch hlong
    have hwindow : (Monitor.fresh.after before).window = (history before).rtake windowCapacity := by
      rw [hmem.window, if_pos (hmem.active.mpr hwatch)]
    rw [hwindow] at hlong ⊢
    have hten : 9 ≤ (history before).length := (burstLength_le_slide _ now).mp hlong
    obtain ⟨oldest, hold⟩ : ∃ oldest, (history before)[(history before).length - 9]? = some oldest :=
      ⟨_, List.getElem?_eq_getElem (by omega)⟩
    exact ⟨oldest, ⟨hten, hold⟩, (slide_tenth _ now hten).trans hold⟩
  · intro other time i hother
    rw [← counts_iff, Bool.not_eq_true] at hother
    exact warnings_insertIdx hother time _ _ i

/-- Slow keys, of which the window has dropped the oldest ones, and nine quick
ones while the clock goes back. -/
def flurry : List Call :=
  ((List.range 44).map fun i => .record "x" (Float.ofNat (1000 * i))) ++
    (List.range 9).map fun i => .record "c" (Float.ofNat (70000 - i))

/-- Enter completes the burst of a flurry, and a named key in the middle of it
would have changed nothing. -/
theorem monitor_keeps_history_flurry :
    Watchful flurry ∧
      (Monitor.fresh.warnings (flurry ++ [.record "Enter" 69000]))[flurry.length]? = some true ∧
      (∃ oldest, NineBefore (history flurry) oldest ∧
        (slide (Monitor.fresh.after flurry).window 69000)[
          (slide (Monitor.fresh.after flurry).window 69000).length - 10]? = some oldest) ∧
      ¬("Shift".length ≤ 1 ∨ "Shift" = "Enter") ∧
      Monitor.fresh.warnings ((flurry ++ []).insertIdx 47 (.record "Shift" 0))
        = (Monitor.fresh.warnings (flurry ++ [])).insertIdx 47 false := by
  obtain ⟨hanswer, hactive, hwindow, hlookup, hinsert⟩ :=
    monitor_keeps_history flurry [] "Enter" 69000
  have hon : (Monitor.fresh.after flurry).active = true := by decide +kernel
  have hlong : 10 ≤ (slide (Monitor.fresh.after flurry).window 69000).length := by
    rw [hwindow, if_pos hon]
    exact (burstLength_le_slide (history flurry) 69000).mpr (by decide +kernel)
  have hburst : EndsBurst flurry 69000 :=
    ⟨70000, ⟨by decide +kernel, by decide +kernel⟩, by decide +kernel⟩
  have hshift : ¬("Shift".length ≤ 1 ∨ "Shift" = "Enter") := by decide
  refine ⟨hactive.mp hon, ?_, hlookup (hactive.mp hon) hlong, hshift, hinsert _ _ _ hshift⟩
  exact hanswer.mpr ⟨.inr rfl, hactive.mp hon, hburst⟩

end Passkey.Keystrokes
