/-
Passkey/Proofs/Rehearsal/Typing.lean

What the watch for typing keys does to a ceremony: nothing.

Two rehearsals are compared, one with all its keys and one without.  At each
event that is no key they are the same up to the watches of their ceremonies,

    with keys:      s --e--> s' --keys--> s'' --e'--> ...
                    |        |            |
    without keys:   t --e--> t' =======  t'  --e'--> ...

and a watch decides nothing but which keys warn.  So both rehearsals give the
same answers (`Alike.events`), the flags included.

Main result: keys are never heard by anything else, and a ceremony warns once
at most and never after it was started (`keys_never_interfere`).
-/
import Passkey.Proofs.Rehearsal.Watch

namespace Passkey.Rehearsal

/-! ### Without the watches -/

/-- A ceremony whose watch has heard nothing. -/
def unwatch (c : Ceremony) : Ceremony :=
  { c with monitor := .fresh }

namespace State

/-- The state in which no watch has heard anything. -/
def unwatched (s : State) : State :=
  { s with ceremonies := s.ceremonies.map unwatch }

/-- What an event comes to, without the watches. -/
def Progress.unwatched (p : Progress) : Progress :=
  { p with state := p.state.unwatched }

/-- The answer that reports it. -/
def Progress.answer (p : Progress) : Answer :=
  ⟨p.result, p.state.scene.calls, p.moved, p.ended,
    p.state.current?.map fun (_, c) => c.inFlight⟩

variable {s t : State} {k n : Nat} {c : Ceremony}

theorem unwatched_unwatched (s : State) : s.unwatched.unwatched = s.unwatched := by
  rw [unwatched, unwatched, List.map_map]
  rfl

theorem unwatched_withCeremony (s : State) (k : Nat) (c : Ceremony) :
    (s.withCeremony k c).unwatched = s.unwatched.withCeremony k (unwatch c) := by
  rw [unwatched, withCeremony, List.map_set]
  rfl

/-- A ceremony that comes back with another watch makes no difference. -/
theorem unwatched_rewatched (hk : s.ceremonies[k]? = some c) (monitor : Keystrokes.Monitor) :
    (s.withCeremony k { c with monitor }).unwatched = s.unwatched := by
  have hsame : s.ceremonies.map unwatch = (s.ceremonies.set k c).map unwatch := by
    obtain ⟨hlt, rfl⟩ := List.getElem?_eq_some_iff.mp hk
    rw [List.set_getElem_self hlt]
  rw [unwatched_withCeremony, withCeremony, unwatched, hsame, List.map_set, List.set_set]
  rfl

theorem current?_unwatched (s : State) :
    s.unwatched.current? = s.current?.map fun (k, c) => (k, unwatch c) := by
  rcases h : s.current with - | k
  · simp [current?, unwatched, h]
  · simp [current?, unwatched, h, Function.comp_def]

theorem run?_unwatched (s : State) (n : Nat) :
    s.unwatched.run? n = (s.run? n).map fun (r, c) => (r, unwatch c) := by
  rcases h : s.runs[n]? with - | r
  · simp [run?, unwatched, h]
  · simp [run?, unwatched, h, Function.comp_def]

theorem holds_unwatched (s : State) (k : Nat) : s.unwatched.holds k = s.holds k := by
  rw [holds, holds, unwatched, List.getElem?_map, Option.any_map]
  rfl

theorem Progress.answer_unwatched (p : Progress) : p.unwatched.answer = p.answer := by
  rw [answer, answer, unwatched, current?_unwatched, Option.map_map]
  rfl

/-! ### One event -/

/-- An event comes to the same, up to the watches, if they have heard nothing. -/
def Indifferent (s : State) (e : Event) : Prop :=
  (s.unwatched.quiet.progress e).unwatched = (s.quiet.progress e).unwatched

theorem indifferent_of_eq {e : Event} {p q : Progress} (hp : s.quiet.progress e = p)
    (hq : s.unwatched.quiet.progress e = q) (h : q = p.unwatched) : s.Indifferent e := by
  rw [Indifferent, hq, hp, h]
  exact congrArg (Progress.mk · p.result p.moved p.ended) p.state.unwatched_unwatched

theorem indifferent_setup : s.Indifferent .setup := by
  have hs : s.unwatched.scene = s.scene := rfl
  rcases ht : s.scene.trigger with - | mode
  · exact indifferent_of_eq (progress_setup_absent ht) (progress_setup_absent (hs ▸ ht)) rfl
  rcases hi : s.scene.initialized with - | -
  · rcases hd : Ceremony.decodeOptions mode s.scene.options with f | o
    · exact indifferent_of_eq (progress_setup_failed ht hi hd)
        (progress_setup_failed (hs ▸ ht) (hs ▸ hi) (hs ▸ hd)) rfl
    · refine indifferent_of_eq (progress_setup_ready ht hi hd)
        (progress_setup_ready (hs ▸ ht) (hs ▸ hi) (hs ▸ hd)) ?_
      -- the new ceremony has heard nothing anyway
      simp [Progress.unwatched, unwatched, quiet, unwatch, Ceremony.fresh]
  · exact indifferent_of_eq (progress_setup_skipped ht hi)
      (progress_setup_skipped (hs ▸ ht) (hs ▸ hi)) rfl

section Current

variable (hc : s.current? = some (k, c))

include hc

theorem indifferent_run : s.Indifferent .run := by
  have hu : s.unwatched.current? = some (k, unwatch c) := by
    rw [current?_unwatched, hc]
    rfl
  rcases hf : c.inFlight with - | -
  · -- the watch ends, whatever it has heard
    rw [Indifferent, progress_run_free hc hf, progress_run_free hu hf]
    simp only [Progress.unwatched, unwatched, withCeremony, hear, quiet, List.map_set, List.map_map]
    rfl
  · exact indifferent_of_eq (progress_run_busy hc hf) (progress_run_busy hu hf) rfl

theorem indifferent_displayError (key : String) : s.Indifferent (.displayError key) := by
  have hu : s.unwatched.current? = some (k, unwatch c) := by
    rw [current?_unwatched, hc]
    rfl
  exact indifferent_of_eq (progress_displayError key hc) (progress_displayError key hu) rfl

end Current

theorem indifferent_none (hc : s.current? = none) :
    s.Indifferent .run ∧ ∀ key, s.Indifferent (.displayError key) := by
  have hu : s.unwatched.current? = none := by
    rw [current?_unwatched, hc]
    rfl
  exact ⟨indifferent_of_eq (progress_run_none hc) (progress_run_none hu) rfl, fun key =>
    indifferent_of_eq (progress_displayError_none key hc) (progress_displayError_none key hu) rfl⟩

/-- A run that ends puts its ceremony back under the watch it had. -/
theorem indifferent_ended {e : Event} {r : Run} {calls : List Call} {outcome : Ceremony.Outcome}
    {c' : Ceremony}
    (hp : s.quiet.progress e
      = { state := ((s.quiet.hear calls).withCeremony k c').withStage n r (.done outcome),
          result := .delivered true, moved := some n, ended := some (n, outcome) })
    (hq : s.unwatched.quiet.progress e
      = { state := ((s.unwatched.quiet.hear calls).withCeremony k (unwatch c')).withStage n r
            (.done outcome),
          result := .delivered true, moved := some n, ended := some (n, outcome) }) :
    s.Indifferent e := by
  refine indifferent_of_eq hp hq ?_
  have hback := unwatched_withCeremony (s.quiet.hear calls) k c'
  exact congrArg (fun t : State => Progress.mk (t.withStage n r (.done outcome)) (.delivered true)
    (some n) (some (n, outcome))) hback.symm

theorem indifferent_platform (n : Nat) (answer : Except Rejection Supply) :
    s.Indifferent (.platform n answer) := by
  have hu := s.run?_unwatched n
  by_cases h : ∃ k c, s.run? n = some (⟨k, .asking⟩, c)
  · obtain ⟨k, c, h⟩ := h
    rw [h] at hu
    rcases answer with rejection | supply
    · exact indifferent_ended (progress_platform_rejected rejection h)
        (progress_platform_rejected rejection hu)
    · exact indifferent_of_eq (progress_platform_supplied supply h)
        (progress_platform_supplied supply hu) rfl
  · have hno {t : State} (ht : ∀ k c, t.run? n ≠ some (⟨k, .asking⟩, c)) :=
      progress_platform_unheard answer ht
    refine indifferent_of_eq (hno fun k c hr => h ⟨k, c, hr⟩) (hno fun k c hr => ?_) rfl
    obtain ⟨⟨r, c'⟩, hr', heq⟩ := Option.map_eq_some_iff.mp (hu.symm.trans hr)
    cases heq
    exact h ⟨k, c', hr'⟩

theorem indifferent_server (n : Nat) (answer : Except Failure Reply) :
    s.Indifferent (.server n answer) := by
  have hu := s.run?_unwatched n
  by_cases h : ∃ k l c, s.run? n = some (⟨k, .submitting l⟩, c)
  · obtain ⟨k, l, c, h⟩ := h
    rw [h] at hu
    rcases hv : answer.bind (Ceremony.verdict l) with f | target
    · exact indifferent_ended (progress_server h (run_conclude_refused _ c hv))
        (progress_server hu (run_conclude_refused _ (unwatch c) hv))
    · exact indifferent_ended (progress_server h (run_conclude_accepted _ c hv))
        (progress_server hu (run_conclude_accepted _ (unwatch c) hv))
  · have hno {t : State} (ht : ∀ k l c, t.run? n ≠ some (⟨k, .submitting l⟩, c)) :=
      progress_server_unheard answer ht
    refine indifferent_of_eq (hno fun k l c hr => h ⟨k, l, c, hr⟩) (hno fun k l c hr => ?_) rfl
    obtain ⟨⟨r, c'⟩, hr', heq⟩ := Option.map_eq_some_iff.mp (hu.symm.trans hr)
    cases heq
    exact h ⟨k, l, c', hr'⟩

/-- **Nothing but keys depends on the watches.** -/
theorem indifferent {e : Event} (h : ∀ strokes, e ≠ .keys strokes) : s.Indifferent e := by
  cases e with
  | setup => exact indifferent_setup
  | page change => exact indifferent_of_eq rfl rfl rfl
  | keys strokes => exact absurd rfl (h strokes)
  | run =>
    rcases hc : s.current? with - | ⟨k, c⟩
    · exact (indifferent_none hc).1
    · exact indifferent_run hc
  | platform n answer => exact indifferent_platform n answer
  | server n answer => exact indifferent_server n answer
  | displayError key =>
    rcases hc : s.current? with - | ⟨k, c⟩
    · exact (indifferent_none hc).2 key
    · exact indifferent_displayError hc key

/-! ### Two rehearsals -/

/-- The states are the same up to the watches, and the calls that were heard last. -/
def Alike (s t : State) : Prop :=
  s.quiet.unwatched = t.quiet.unwatched

theorem Alike.holds_eq (h : s.Alike t) (k : Nat) : s.holds k = t.holds k := by
  have hk : s.quiet.unwatched.holds k = t.quiet.unwatched.holds k := congrArg (·.holds k) h
  rw [holds_unwatched, holds_unwatched] at hk
  exact hk

theorem Alike.runs_eq (h : s.Alike t) : s.runs = t.runs :=
  congrArg (·.runs) h

theorem Alike.event_eq (h : s.Alike t) (x : Step) : s.event x = t.event x := by
  cases x <;> simp only [event, asker, submitter, h.runs_eq]

/-- Keys change nothing but a watch. -/
theorem alike_keys (s : State) (strokes : List Keystrokes.Keystroke) :
    (s.occur (.keys strokes)).2.Alike s := by
  rcases hc : s.current? with - | ⟨k, c⟩
  · have hp := congrArg (·.state) (progress_keys_none strokes hc)
    exact congrArg (·.quiet.unwatched) hp
  · obtain ⟨-, hk⟩ := current?_eq_some_iff.mp hc
    obtain ⟨indices, monitor, hp, -⟩ := progress_keys strokes hc
    have hstate := congrArg (·.state.quiet.unwatched) hp
    exact hstate.trans (unwatched_rewatched (s := s.quiet) hk monitor)

/-- Whatever is no key comes to the same in states that are alike. -/
theorem Alike.occur {e : Event} (h : s.Alike t) (he : ∀ strokes, e ≠ .keys strokes) :
    (s.occur e).1 = (t.occur e).1 ∧ (s.occur e).2.Alike (t.occur e).2 := by
  -- both come to what the state without watches comes to
  have hp : (s.quiet.progress e).unwatched = (t.quiet.progress e).unwatched := by
    rw [← indifferent (s := s) he, ← indifferent (s := t) he]
    exact congrArg (fun u : State => (u.progress e).unwatched) h
  have hanswer := congrArg Progress.answer hp
  rw [Progress.answer_unwatched, Progress.answer_unwatched] at hanswer
  exact ⟨hanswer, congrArg (fun p : Progress => p.state.quiet) hp⟩

end State

/-- Whether keys are pressed. -/
def Event.typed : Event → Bool
  | .keys _ => true
  | _ => false

/-- Whether keys are pressed. -/
def Step.typed : Step → Bool
  | .keys _ => true
  | _ => false

theorem Event.ne_keys {e : Event} (h : e.typed = false) (strokes : List Keystrokes.Keystroke) :
    e ≠ .keys strokes := by
  rintro rfl
  cases h

theorem Event.exists_keys {e : Event} (h : e.typed = true) : ∃ strokes, e = .keys strokes := by
  cases e with
  | keys strokes => exact ⟨strokes, rfl⟩
  | _ => cases h

theorem State.typed_event (s : State) (t : Step) : (s.event t).typed = t.typed := by
  cases t <;> rfl

/-- What two rehearsals have in common, one of all of `xs` and one without those that are
`typed`. -/
structure Undisturbed {α : Type} (typed : α → Bool) (xs : List α) (all others : List Answer × State) :
    Prop where
  /-- All but the typed ones get the same answers. -/
  answers : others.1 = ((xs.zip all.1).filter fun p => !typed p.1).map Prod.snd
  /-- All flags are the same. -/
  flags : ∀ k, others.2.holds k = all.2.holds k
  /-- So is everything but the watches. -/
  alike : others.2.Alike all.2

section Undisturbed

variable {α : Type} {typed : α → Bool} {x : α} {xs : List α} {all others : List Answer × State}

theorem Undisturbed.cons_typed (h : Undisturbed typed xs all others) (hx : typed x = true)
    (answer : Answer) : Undisturbed typed (x :: xs) (answer :: all.1, all.2) others := by
  refine ⟨?_, h.flags, h.alike⟩
  rw [h.answers]
  simp [hx]

theorem Undisturbed.cons (h : Undisturbed typed xs all others) (hx : typed x = false)
    (answer : Answer) :
    Undisturbed typed (x :: xs) (answer :: all.1, all.2) (answer :: others.1, others.2) := by
  refine ⟨?_, h.flags, h.alike⟩
  rw [h.answers]
  simp [hx]

variable {s t : State}

theorem State.Alike.events (h : t.Alike s) (es : List Event) :
    Undisturbed Event.typed es (s.events es) (t.events (es.filter fun e => !e.typed)) := by
  induction es generalizing s t with
  | nil => exact ⟨rfl, h.holds_eq, h⟩
  | cons e es ih =>
    rcases htyped : e.typed with - | -
    · obtain ⟨hanswer, hnext⟩ := h.occur (Event.ne_keys htyped)
      have hrest := (ih hnext).cons htyped (s.occur e).1
      rw [List.filter_cons_of_pos (by simp [htyped])]
      show Undisturbed Event.typed (e :: es) ((s.occur e).1 :: _, _) ((t.occur e).1 :: _, _)
      rw [hanswer]
      exact hrest
    · -- only one of the two goes on, to a state that differs in a watch
      obtain ⟨strokes, rfl⟩ := Event.exists_keys htyped
      exact (ih (h.trans (s.alike_keys strokes).symm)).cons_typed htyped _

/-- So are scripts: an answer goes to the run that has waited longest, keys or no keys. -/
theorem State.Alike.steps (h : t.Alike s) (script : List Step) :
    Undisturbed Step.typed script (s.steps script)
      (t.steps (script.filter fun x => !x.typed)) := by
  induction script generalizing s t with
  | nil => exact ⟨rfl, h.holds_eq, h⟩
  | cons x script ih =>
    have hx : (s.event x).typed = x.typed := s.typed_event x
    have hstep : t.step x = t.occur (s.event x) := by rw [State.step, h.event_eq x]
    rcases htyped : x.typed with - | -
    · obtain ⟨hanswer, hnext⟩ := h.occur (Event.ne_keys (hx.trans htyped))
      rw [← hstep] at hanswer hnext
      have hrest := (ih hnext).cons htyped (s.step x).1
      rw [List.filter_cons_of_pos (by simp [htyped])]
      show Undisturbed Step.typed (x :: script) ((s.step x).1 :: _, _) ((t.step x).1 :: _, _)
      rw [hanswer]
      exact hrest
    · obtain ⟨strokes, hkeys⟩ := Event.exists_keys (hx.trans htyped)
      have hnext : t.Alike (s.step x).2 := by
        rw [State.step, hkeys]
        exact h.trans (s.alike_keys strokes).symm
      rw [List.filter_cons_of_neg (by simp [htyped])]
      exact (ih hnext).cons_typed htyped _

end Undisturbed

/-! ### Keys -/

/-- What keys do at a moment: each keystroke that warns is shown, and that is all. -/
structure Moment.Types (m : Moment) : Prop where
  calls : m.answer.calls = m.warned.flatMap fun _ => m.before.scene.display "otp"
  moved : m.answer.moved = none
  ended : m.answer.ended = none
  alike : m.after.Alike m.before

theorem types_keys (s : State) (strokes : List Keystrokes.Keystroke) :
    (Moment.mk s (.keys strokes)).Types := by
  have halike := s.alike_keys strokes
  rcases hc : s.current? with - | ⟨k, c⟩
  · have hp := State.progress_keys_none strokes hc
    have hwarned : (Moment.mk s (.keys strokes)).warned = [] := congrArg (·.result.alarms) hp
    refine ⟨?_, congrArg (·.moved) hp, congrArg (·.ended) hp, halike⟩
    rw [hwarned]
    exact congrArg (·.state.scene.calls) hp
  · obtain ⟨indices, monitor, hp, -⟩ := State.progress_keys strokes hc
    have hwarned : (Moment.mk s (.keys strokes)).warned = indices :=
      congrArg (·.result.alarms) hp
    refine ⟨?_, congrArg (·.moved) hp, congrArg (·.ended) hp, halike⟩
    rw [hwarned]
    exact congrArg (·.state.scene.calls) hp

/-- **Keys never interfere with a ceremony.**  Take the keys out of any events, or out of any
script: everything else gets the same answers and makes the same calls, and all flags are the
same.  Keys make no call but the display of an error for each warning, and a ceremony warns once
at most, and never after it was started. -/
theorem keys_never_interfere (scene : Scene) (es : List Event) (script : List Step) :
    Undisturbed Event.typed es ((State.initial scene).events es)
        ((State.initial scene).events (es.filter fun e => !e.typed)) ∧
      Undisturbed Step.typed script ((State.initial scene).steps script)
        ((State.initial scene).steps (script.filter fun x => !x.typed)) ∧
      (∀ m ∈ (State.initial scene).moments es, m.event.typed = true → m.Types) ∧
      ∀ k, Watched ((State.initial scene).moments es) k := by
  have halike : (State.initial scene).Alike (.initial scene) := rfl
  refine ⟨halike.events es, halike.steps script, ?_, ((State.initial scene).history es).watched⟩
  rintro ⟨s, e⟩ - htyped
  obtain ⟨strokes, rfl⟩ := Event.exists_keys htyped
  exact types_keys s strokes

end Passkey.Rehearsal
