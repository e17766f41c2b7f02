/-
Passkey/Proofs/Rehearsal/Moment.lean

The moments of a rehearsal, and everything that can happen at one.

A moment is an event in the state that it meets.  `Moment.Turn` lists what can
come of it: either no run moves, or exactly one run starts, is ignored, posts
its credential, is redirected or fails.  `Moment.turn` says that the list is
complete, and each later invariant is a case analysis over it:

    events  --moments-->  a list of moments, each with its turn
-/
import Passkey.Proofs.Rehearsal.Pieces

namespace Passkey.Rehearsal

/-! ### Views of a state -/

namespace State

/-- The options of a ceremony. -/
def options? (s : State) (k : Nat) : Option Options :=
  (s.ceremonies[k]?).map (·.options)

/-- Whether a ceremony holds the trigger; one that does not exist holds nothing. -/
def holds (s : State) (k : Nat) : Bool :=
  (s.ceremonies[k]?).any (·.inFlight)

/-- The state after events. -/
def after (s : State) (es : List Event) : State :=
  (s.events es).2

theorem current?_eq_some_iff {s : State} {k : Nat} {c : Ceremony} :
    s.current? = some (k, c) ↔ s.current = some k ∧ s.ceremonies[k]? = some c := by
  rcases h : s.current with - | n
  · simp [current?, h]
  · simp only [current?, h, Option.bind_some, Option.map_eq_some_iff, Prod.mk.injEq,
      Option.some.injEq]
    constructor
    · rintro ⟨c, hc, rfl, rfl⟩
      exact ⟨rfl, hc⟩
    · rintro ⟨rfl, hc⟩
      exact ⟨c, hc, rfl, rfl⟩

theorem run?_eq_some_iff {s : State} {n : Nat} {r : Run} {c : Ceremony} :
    s.run? n = some (r, c) ↔ s.runs[n]? = some r ∧ s.ceremonies[r.ceremony]? = some c := by
  rcases h : s.runs[n]? with - | r'
  · simp [run?, h]
  · simp only [run?, h, Option.bind_some, Option.map_eq_some_iff, Prod.mk.injEq,
      Option.some.injEq]
    constructor
    · rintro ⟨c, hc, rfl, rfl⟩
      exact ⟨rfl, hc⟩
    · rintro ⟨rfl, hc⟩
      exact ⟨c, hc, rfl, rfl⟩

theorem options?_eq {s : State} {k : Nat} {c : Ceremony} (h : s.ceremonies[k]? = some c) :
    s.options? k = some c.options := by
  rw [options?, h]
  rfl

theorem holds_eq {s : State} {k : Nat} {c : Ceremony} (h : s.ceremonies[k]? = some c) :
    s.holds k = c.inFlight := by
  rw [holds, h]
  rfl

theorem options?_of_holds {s : State} {k : Nat} (h : s.holds k = true) :
    ∃ o, s.options? k = some o := by
  rcases hk : s.ceremonies[k]? with - | c
  · rw [holds, hk] at h
    cases h
  · exact ⟨c.options, options?_eq hk⟩

theorem options?_withCeremony {s : State} {k : Nat} {c : Ceremony} (c' : Ceremony)
    (h : s.ceremonies[k]? = some c) (ho : c'.options = c.options) (j : Nat) :
    (s.withCeremony k c').options? j = s.options? j := by
  by_cases hj : k = j
  · subst hj
    simp [options?, withCeremony, List.getElem?_set_self', h, ho]
  · simp [options?, withCeremony, List.getElem?_set_ne hj]

theorem holds_withCeremony {s : State} {k : Nat} {c : Ceremony} (c' : Ceremony)
    (h : s.ceremonies[k]? = some c) (j : Nat) :
    (s.withCeremony k c').holds j = if j = k then c'.inFlight else s.holds j := by
  by_cases hj : k = j
  · subst hj
    simp [holds, withCeremony, List.getElem?_set_self', h]
  · rw [if_neg (Ne.symm hj)]
    simp [holds, withCeremony, List.getElem?_set_ne hj]

/-- A ceremony that comes back with the same flag holds what it held. -/
theorem holds_withCeremony_of_eq {s : State} {k : Nat} {c : Ceremony} (c' : Ceremony)
    (h : s.ceremonies[k]? = some c) (hf : c'.inFlight = c.inFlight) (j : Nat) :
    (s.withCeremony k c').holds j = s.holds j := by
  rw [holds_withCeremony c' h]
  split
  · next hj => rw [hj, holds_eq h, hf]
  · rfl

theorem options?_of_append {s t : State} {c : Ceremony} (h : t.ceremonies = s.ceremonies ++ [c])
    (j : Nat) :
    t.options? j = if j = s.ceremonies.length then some c.options else s.options? j := by
  rw [options?, options?, h]
  rcases Nat.lt_trichotomy j s.ceremonies.length with hj | hj | hj
  · rw [if_neg (by omega), List.getElem?_append_left hj]
  · rw [if_pos hj, hj, List.getElem?_concat_length]
    rfl
  · rw [if_neg (by omega), List.getElem?_eq_none (by simp; omega),
      List.getElem?_eq_none (by omega)]

/-- A ceremony that nobody has started holds nothing. -/
theorem holds_of_append {s t : State} {c : Ceremony} (h : t.ceremonies = s.ceremonies ++ [c])
    (hc : c.inFlight = false) (j : Nat) : t.holds j = s.holds j := by
  rw [holds, holds, h]
  rcases Nat.lt_trichotomy j s.ceremonies.length with hj | hj | hj
  · rw [List.getElem?_append_left hj]
  · rw [hj, List.getElem?_concat_length, List.getElem?_eq_none (Nat.le_refl _)]
    exact hc
  · rw [List.getElem?_eq_none (by simp; omega), List.getElem?_eq_none (by omega)]

end State

/-! ### Moments -/

/-- An event and the state that it meets. -/
structure Moment where
  before : State
  event : Event

/-- The answer to the event. -/
def Moment.answer (m : Moment) : Answer :=
  (m.before.occur m.event).1

/-- The state after the event. -/
def Moment.after (m : Moment) : State :=
  (m.before.occur m.event).2

/-- The moments of events that happen one after the other. -/
def State.moments (s : State) : List Event → List Moment
  | [] => []
  | e :: es => ⟨s, e⟩ :: (s.occur e).2.moments es

theorem State.after_cons (s : State) (e : Event) (es : List Event) :
    s.after (e :: es) = (Moment.mk s e).after.after es := rfl

theorem State.after_snoc (s : State) (es : List Event) (e : Event) :
    s.after (es ++ [e]) = (Moment.mk (s.after es) e).after := by
  induction es generalizing s with
  | nil => rfl
  | cons e es ih => exact ih _

theorem State.moments_snoc (s : State) (es : List Event) (e : Event) :
    s.moments (es ++ [e]) = s.moments es ++ [⟨s.after es, e⟩] := by
  induction es generalizing s with
  | nil => rfl
  | cons d es ih => exact congrArg (⟨s, d⟩ :: ·) (ih _)

/-- **The histories from a state**: the moments so far and the state that they
lead to.  Invariants are proved by induction on a history. -/
inductive History (start : State) : List Moment → State → Prop
  | start : History start [] start
  | next {ms : List Moment} (m : Moment) :
      History start ms m.before → History start (ms ++ [m]) m.after

theorem State.history (s : State) (es : List Event) : History s (s.moments es) (s.after es) := by
  -- the events are consumed from the front, so the moments behind us are carried along
  have run : ∀ (es : List Event) (ms : List Moment) (t : State), History s ms t →
      History s (ms ++ t.moments es) (t.after es) := by
    intro es
    induction es with
    | nil =>
      intro ms t h
      rw [moments, List.append_nil]
      exact h
    | cons e es ih =>
      intro ms t h
      have hm := ih (ms ++ [⟨t, e⟩]) (t.occur e).2 (.next ⟨t, e⟩ h)
      rw [List.append_assoc] at hm
      exact hm
  exact run es [] s .start

/-- A history goes up to each of its moments, and on from there. -/
theorem History.split {start s : State} {ms before later : List Moment} {m : Moment}
    (h : History start ms s) (hms : ms = before ++ m :: later) :
    History start before m.before ∧ History m.after later s := by
  induction h generalizing later with
  | start => simp at hms
  | next x hx ih =>
    -- a history grows at its end, so the later moments are taken from there
    rcases List.eq_nil_or_concat later with rfl | ⟨later, y, rfl⟩
    · -- the moment is the last one
      obtain ⟨rfl, hm⟩ := List.append_inj' hms rfl
      cases hm
      exact ⟨hx, .start⟩
    · rw [List.concat_eq_append, ← List.cons_append, ← List.append_assoc] at hms
      obtain ⟨hinit, hy⟩ := List.append_inj' hms rfl
      cases hy
      obtain ⟨hbefore, hlater⟩ := ih hinit
      rw [List.concat_eq_append]
      exact ⟨hbefore, .next x hlater⟩

/-- What holds after a moment, and is kept by every later one, holds in the end. -/
theorem History.persists {start s : State} {ms before between : List Moment} {m : Moment}
    (h : History start ms s) (P : State → Prop) (hms : ms = before ++ m :: between)
    (after : P m.after) (keeps : ∀ x ∈ between, P x.before → P x.after) : P s := by
  obtain ⟨-, hlater⟩ := h.split hms
  clear h hms
  induction hlater with
  | start => exact after
  | next x _ ih => exact keeps x (by simp) (ih fun y hy => keeps y (by simp [hy]))

/-! ### Turns -/

/-- Whether only runs make the call.  The other calls also come from setups,
from keys and from displays. -/
def Call.ofRun : Call → Bool
  | .trigger | .claimTrigger | .optionsText => false
  | .hideMessages | .revealError _ _ | .showGenericError _ => false
  | _ => true

theorem Scene.ofRun_of_mem_display {s : Scene} {key : String} {call : Call}
    (h : call ∈ s.display key) : call.ofRun = false := by
  by_cases hd : key ∈ s.declared
  · simp only [display, List.contains_eq_mem, hd, decide_true, if_pos, List.append_nil,
      List.mem_cons, List.not_mem_nil, or_false] at h
    rcases h with rfl | rfl <;> rfl
  · simp only [display, List.contains_eq_mem, hd, decide_false, Bool.false_eq_true, if_neg,
      not_false_eq_true, List.cons_append, List.nil_append, List.mem_cons, List.not_mem_nil,
      or_false] at h
    rcases h with rfl | rfl | rfl <;> rfl

namespace Moment

/-- No run moves at the moment. -/
structure Idle (m : Moment) : Prop where
  moved : m.answer.moved = none
  ended : m.answer.ended = none
  runs : m.after.runs = m.before.runs
  holds : ∀ k, m.after.holds k = m.before.holds k
  calls : ∀ call ∈ m.answer.calls, call.ofRun = false

/-- The page is loaded, and its unclaimed trigger and its options make the
ceremony numbered `k`. -/
structure SetsUp (m : Moment) (k : Nat) (o : Options) : Prop where
  event : m.event = .setup
  trigger : m.before.scene.trigger = some o.mode
  unclaimed : m.before.scene.initialized = false
  decoded : Ceremony.decodeOptions o.mode m.before.scene.options = .ok o
  number : m.before.ceremonies.length = k

/-- The run numbered `n`, of the ceremony numbered `k`, comes to a stage, and
nothing else moves. -/
structure Moves (m : Moment) (n k : Nat) (stage : Stage) : Prop where
  moved : m.answer.moved = some n
  runs : ∀ j, m.after.runs[j]? = if j = n then some ⟨k, stage⟩ else m.before.runs[j]?
  current : m.after.current = m.before.current
  options : ∀ j, m.after.options? j = m.before.options? j

/-- A run fails: its error is shown and its ceremony hands the trigger back. -/
structure Fails (m : Moment) (n k : Nat) (f : Failure) : Prop
    extends m.Moves n k (.done (.failed f)) where
  holds : ∀ j, m.after.holds j = if j = k then false else m.before.holds j
  calls : m.answer.calls = m.before.scene.display f.key ++ [.setBusy false]
  ended : m.answer.ended = some (n, .failed f)

/-- **The turns**: everything that can come of an event. -/
inductive Turn (m : Moment) : Prop
  /-- No ceremony is made, and at most the current one is given up. -/
  | aside (idle : m.Idle)
      (current : m.after.current = m.before.current ∨ m.after.current = none)
      (options : ∀ k, m.after.options? k = m.before.options? k)
  /-- A ceremony is made and becomes the current one. -/
  | ready {k : Nat} {o : Options} (idle : m.Idle) (setsUp : m.SetsUp k o)
      (current : m.after.current = some k)
      (options : ∀ j, m.after.options? j = if j = k then some o else m.before.options? j)
  /-- A run finds its ceremony busy. -/
  | ignored {k : Nat} (moves : m.Moves m.before.runs.length k (.done .ignored))
      (event : m.event = .run) (current : m.before.current = some k)
      (busy : m.before.holds k = true) (holds : ∀ j, m.after.holds j = m.before.holds j)
      (calls : m.answer.calls = [])
      (ended : m.answer.ended = some (m.before.runs.length, .ignored))
  /-- A run takes the trigger and asks the platform. -/
  | started {k : Nat} {o : Options} (moves : m.Moves m.before.runs.length k .asking)
      (event : m.event = .run) (current : m.before.current = some k)
      (free : m.before.holds k = false) (options : m.before.options? k = some o)
      (holds : ∀ j, m.after.holds j = if j = k then true else m.before.holds j)
      (calls : m.answer.calls = [.clearErrors, .setBusy true, State.question o])
      (ended : m.answer.ended = none)
  /-- A run gets a credential and posts it. -/
  | posted {n k : Nat} {o : Options} {supply : Supply}
      (moves : m.Moves n k (.submitting m.before.scene.location))
      (event : m.event = .platform n (.ok supply))
      (run : m.before.runs[n]? = some ⟨k, .asking⟩) (options : m.before.options? k = some o)
      (holds : ∀ j, m.after.holds j = m.before.holds j)
      (calls : m.answer.calls
        = [.location, .submit m.before.scene.location (supply.credential o.mode)])
      (ended : m.answer.ended = none)
  /-- A run follows the redirect of a reply. -/
  | redirected {n k : Nat} {l target : String} {answer : Except Failure Reply}
      (moves : m.Moves n k (.done (.redirected target)))
      (event : m.event = .server n answer)
      (run : m.before.runs[n]? = some ⟨k, .submitting l⟩)
      (verdict : answer.bind (Ceremony.verdict l) = .ok target)
      (holds : ∀ j, m.after.holds j = m.before.holds j)
      (calls : m.answer.calls = [.navigate target])
      (ended : m.answer.ended = some (n, .redirected target))
  /-- The platform rejects a run. -/
  | rejected {n k : Nat} {rejection : Rejection}
      (event : m.event = .platform n (.error rejection))
      (run : m.before.runs[n]? = some ⟨k, .asking⟩)
      (fails : m.Fails n k (.ofRejection rejection))
  /-- The server refuses a run, or cannot be reached. -/
  | refused {n k : Nat} {l : String} {answer : Except Failure Reply} {f : Failure}
      (event : m.event = .server n answer)
      (run : m.before.runs[n]? = some ⟨k, .submitting l⟩)
      (verdict : answer.bind (Ceremony.verdict l) = .error f)
      (fails : m.Fails n k f)

end Moment

end Passkey.Rehearsal
