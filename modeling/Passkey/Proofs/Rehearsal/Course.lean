/-
Passkey/Proofs/Rehearsal/Course.lean

The course of a run.

Between the two suspensions of a run anything may happen: the page changes,
other ceremonies are set up, their runs are answered.  `Course` says what the
run itself does all the same, moment by moment:

    run:        clear the errors, take the trigger, ask the platform
    platform:   read the address, post the credential there
    server:     leave for the redirect, or show the error and give up the trigger

Main result: every run that is not ignored has a course (`run_course`), with
the options that were decoded when its ceremony was set up.  What else happens
on the page has no part in it.
-/
import Passkey.Proofs.Rehearsal.Turn

namespace Passkey.Rehearsal

/-! ### The course -/

/-- The question that options put to the platform. -/
inductive Asks : Options → Call → Prop
  | create (o : CreationOptions) : Asks (.registration o) (.create o)
  | get (o : RequestOptions) : Asks (.authentication o) (.get o)

/-- What a run does when it fails: it shows the error by its key, whose element
wins if the page declares it, and gives up the trigger. -/
structure Moment.GivesUp (m : Moment) (n : Nat) (f : Failure) : Prop where
  calls : m.answer.calls
    = [.hideMessages, .revealError f.key (m.before.scene.declared.contains f.key)]
      ++ (if m.before.scene.declared.contains f.key then [] else [.showGenericError f.key])
      ++ [.setBusy false]
  ended : m.answer.ended = some (n, .failed f)

/-- **The course of a run** `n` of ceremony `k` with options `o`: the moments
at which it moves, each with its calls, and the stage that they lead to. -/
inductive Course (n k : Nat) (o : Options) : List Moment → Stage → Prop
  /-- The run takes the trigger and asks the platform. -/
  | started {m : Moment} {question : Call} (event : m.event = .run)
      (current : m.before.current = some k) (asks : Asks o question)
      (calls : m.answer.calls = [.clearErrors, .setBusy true, question])
      (going : m.answer.ended = none) : Course n k o [m] .asking
  /-- The platform rejects the ceremony. -/
  | rejected {ms : List Moment} {m : Moment} {rejection : Rejection}
      (before : Course n k o ms .asking) (event : m.event = .platform n (.error rejection))
      (givesUp : m.GivesUp n (.platform rejection.name rejection.message)) :
      Course n k o (ms ++ [m]) (.done (.failed (.platform rejection.name rejection.message)))
  /-- The platform supplies a credential, which goes to the address of the moment. -/
  | posted {ms : List Moment} {m : Moment} {supply : Supply} {l : String}
      (before : Course n k o ms .asking) (event : m.event = .platform n (.ok supply))
      (location : m.before.scene.location = l)
      (calls : m.answer.calls = [.location, .submit l (supply.credential o.mode)])
      (going : m.answer.ended = none) : Course n k o (ms ++ [m]) (.submitting l)
  /-- The server accepts, and its redirect is resolved against the address of the post. -/
  | redirected {ms : List Moment} {m : Moment} {l link : String} {reply : Reply}
      (before : Course n k o ms (.submitting l)) (event : m.event = .server n (.ok reply))
      (success : reply.success = true) (redirect : reply.redirect = some link)
      (leads : Text.trim link ≠ "")
      (calls : m.answer.calls = [.navigate (Url.resolve l (Text.trim link))])
      (ended : m.answer.ended = some (n, .redirected (Url.resolve l (Text.trim link)))) :
      Course n k o (ms ++ [m]) (.done (.redirected (Url.resolve l (Text.trim link))))
  /-- The server refuses, or accepts and leads nowhere. -/
  | refused {ms : List Moment} {m : Moment} {l : String} {reply : Reply}
      (before : Course n k o ms (.submitting l)) (event : m.event = .server n (.ok reply))
      (leadsNowhere : ∀ link, reply.success = true → reply.redirect = some link →
        Text.trim link = "")
      (givesUp : m.GivesUp n (.server (reply.error.getD ""))) :
      Course n k o (ms ++ [m]) (.done (.failed (.server (reply.error.getD ""))))
  /-- The credential cannot be delivered. -/
  | undelivered {ms : List Moment} {m : Moment} {l : String} {f : Failure}
      (before : Course n k o ms (.submitting l)) (event : m.event = .server n (.error f))
      (givesUp : m.GivesUp n f) : Course n k o (ms ++ [m]) (.done (.failed f))

/-- The moments at which a run moves. -/
def life (n : Nat) (ms : List Moment) : List Moment :=
  ms.filter fun m => m.answer.moved == some n

/-- A history in which a ceremony `k` is set up with options `o`, after which,
and not before, its run `n` takes its course. -/
def Recounts (ms : List Moment) (n k : Nat) (o : Options) (stage : Stage) : Prop :=
  ∃ before m after, ms = before ++ m :: after ∧ m.SetsUp k o ∧
    life n (before ++ [m]) = [] ∧ Course n k o (life n after) stage

/-- A moment that brings a run what it waits for. -/
inductive Moment.Addresses (m : Moment) (n : Nat) : Prop
  | platform {k : Nat} {answer : Except Rejection Supply} (event : m.event = .platform n answer)
      (run : m.before.runs[n]? = some ⟨k, .asking⟩)
  | server {k : Nat} {l : String} {answer : Except Failure Reply}
      (event : m.event = .server n answer) (run : m.before.runs[n]? = some ⟨k, .submitting l⟩)

/-! ### Lives -/

section Life

variable {n k : Nat} {o : Options} {stage : Stage} {ms : List Moment} {m : Moment}

theorem life_snoc_other (h : m.answer.moved ≠ some n) : life n (ms ++ [m]) = life n ms := by
  simp [life, h]

theorem life_snoc_own (h : m.answer.moved = some n) : life n (ms ++ [m]) = life n ms ++ [m] := by
  simp [life, h]

theorem Recounts.snoc_other (h : Recounts ms n k o stage) (hm : m.answer.moved ≠ some n) :
    Recounts (ms ++ [m]) n k o stage := by
  obtain ⟨before, m₀, after, rfl, hs, hb, hc⟩ := h
  refine ⟨before, m₀, after ++ [m], by simp, hs, hb, ?_⟩
  rw [life_snoc_other hm]
  exact hc

theorem Recounts.snoc_own {stage' : Stage} (h : Recounts ms n k o stage)
    (hm : m.answer.moved = some n)
    (hc : ∀ ms, Course n k o ms stage → Course n k o (ms ++ [m]) stage') :
    Recounts (ms ++ [m]) n k o stage' := by
  obtain ⟨before, m₀, after, rfl, hs, hb, hcourse⟩ := h
  refine ⟨before, m₀, after ++ [m], by simp, hs, hb, ?_⟩
  rw [life_snoc_own hm]
  exact hc _ hcourse

/-- A course begins after its ceremony was set up. -/
theorem Recounts.start (hs : ∃ before m₀ after, ms = before ++ m₀ :: after ∧ m₀.SetsUp k o)
    (hnone : life n ms = []) (hm : m.answer.moved = some n) (hc : Course n k o [m] stage) :
    Recounts (ms ++ [m]) n k o stage := by
  obtain ⟨before, m₀, after, rfl, hs⟩ := hs
  have hsplit : before ++ m₀ :: after = (before ++ [m₀]) ++ after := by simp
  rw [hsplit, life, List.filter_append, List.append_eq_nil_iff] at hnone
  refine ⟨before, m₀, after ++ [m], by simp, hs, hnone.1, ?_⟩
  rw [life_snoc_own hm]
  show Course n k o (life n after ++ [m]) stage
  rw [life, hnone.2]
  exact hc

theorem Asks.question (o : Options) : Asks o (State.question o) := by
  rcases o with o | o
  · exact .create o
  · exact .get o

theorem Moment.Fails.givesUp {f : Failure} (h : m.Fails n k f) : m.GivesUp n f :=
  ⟨h.calls, h.ended⟩

end Life

/-! ### The verdict on a reply -/

section Verdict

variable {n k : Nat} {o : Options} {ms : List Moment} {m : Moment} {l : String}
variable {answer : Except Failure Reply}

theorem Course.of_accepted {target : String} (h : Course n k o ms (.submitting l))
    (event : m.event = .server n answer) (verdict : answer.bind (Ceremony.verdict l) = .ok target)
    (calls : m.answer.calls = [.navigate target])
    (ended : m.answer.ended = some (n, .redirected target)) :
    Course n k o (ms ++ [m]) (.done (.redirected target)) := by
  rcases answer with f | reply
  · cases verdict
  · obtain ⟨t, ht, rfl⟩ := Ceremony.verdict_eq_ok_iff.mp verdict
    obtain ⟨success, link, redirect, leads, rfl⟩ := Reply.target?_eq_some_iff.mp ht
    exact .redirected h event success redirect leads calls ended

theorem Course.of_refused {f : Failure} (h : Course n k o ms (.submitting l))
    (event : m.event = .server n answer) (verdict : answer.bind (Ceremony.verdict l) = .error f)
    (givesUp : m.GivesUp n f) : Course n k o (ms ++ [m]) (.done (.failed f)) := by
  rcases answer with f' | reply
  · cases verdict
    exact .undelivered h event givesUp
  · obtain ⟨ht, rfl⟩ := Ceremony.verdict_eq_error_iff.mp verdict
    refine .refused h event ?_ givesUp
    intro link success redirect
    refine Decidable.byContradiction fun leads => ?_
    rw [Reply.target?_eq_some_iff.mpr ⟨success, link, redirect, leads, rfl⟩] at ht
    cases ht

end Verdict

/-! ### Invariants of a history -/

namespace History

variable {scene : Scene} {ms : List Moment} {s : State} {n k : Nat}

theorem life_eq_nil (h : History (.initial scene) ms s) (hn : s.runs[n]? = none) :
    life n ms = [] := by
  refine List.filter_eq_nil_iff.mpr fun m hm hmoved => ?_
  obtain ⟨r, hr⟩ := h.exists_moved_iff.mp ⟨m, hm, eq_of_beq hmoved⟩
  rw [hn] at hr
  cases hr

/-- Every ceremony was set up at some moment. -/
theorem setUp {o : Options} (h : History (.initial scene) ms s) (hk : s.options? k = some o) :
    ∃ before m after, ms = before ++ m :: after ∧ m.SetsUp k o := by
  induction h with
  | start => cases hk
  | @next ms m _ ih =>
    have old (hk : m.before.options? k = some o) :
        ∃ before m' after, ms ++ [m] = before ++ m' :: after ∧ m'.SetsUp k o := by
      obtain ⟨before, m', after, rfl, hs⟩ := ih hk
      exact ⟨before, m', after ++ [m], by simp, hs⟩
    rcases m.keeps_or_setsUp with ho | ⟨k', o', hs, ho⟩
    · exact old (ho k ▸ hk)
    · rw [ho] at hk
      split at hk
      · next hkk =>
        cases hk
        exact ⟨_, m, [], rfl, hkk ▸ hs⟩
      · exact old hk

theorem options?_of_run {r : Run} (h : History (.initial scene) ms s) (hn : s.runs[n]? = some r) :
    ∃ o, s.options? r.ceremony = some o := by
  induction h generalizing r with
  | start => cases hn
  | next m _ ih =>
    -- a run that moves is new and of a ceremony that is there, or it was there itself
    rcases m.idle_or_moves with hi | ⟨n', k', stage, hm, hk⟩
    · rw [hi.runs] at hn
      obtain ⟨o, ho⟩ := ih hn
      exact ⟨o, m.options?_mono ho⟩
    · rw [hm.runs] at hn
      split at hn
      · cases hn
        rcases hk with ⟨o, ho⟩ | ⟨st, hst⟩
        · exact ⟨o, m.options?_mono ho⟩
        · next hnn =>
          obtain ⟨o, ho⟩ := ih (hnn ▸ hst)
          exact ⟨o, m.options?_mono ho⟩
      · obtain ⟨o, ho⟩ := ih hn
        exact ⟨o, m.options?_mono ho⟩

/-- Nobody who waits is passed over. -/
theorem moved_of_addresses (h : History (.initial scene) ms s) :
    ∀ m ∈ ms, ∀ n, m.Addresses n → m.answer.moved = some n := by
  induction h with
  | start => simp
  | @next ms m hms ih =>
    intro m' hm' n ha
    rcases List.mem_append.mp hm' with hm' | hm'
    · exact ih m' hm' n ha
    obtain rfl := List.mem_singleton.mp hm'
    obtain ⟨s, e⟩ := m'
    -- the ceremony of the run is there, so its answer finds it
    rcases ha with ⟨event, run⟩ | ⟨event, run⟩
    · obtain ⟨o, ho⟩ := hms.options?_of_run run
      obtain ⟨c, hc, -⟩ := Option.map_eq_some_iff.mp ho
      obtain rfl : e = _ := event
      exact moved_of_platform _ (State.run?_eq_some_iff.mpr ⟨run, hc⟩)
    · obtain ⟨o, ho⟩ := hms.options?_of_run run
      obtain ⟨c, hc, -⟩ := Option.map_eq_some_iff.mp ho
      obtain rfl : e = _ := event
      exact moved_of_server _ (State.run?_eq_some_iff.mpr ⟨run, hc⟩)

/-- The options of a run that has a course are those of its ceremony. -/
theorem recounts (h : History (.initial scene) ms s) {r : Run} (hn : s.runs[n]? = some r)
    (hi : r.stage ≠ .done .ignored) :
    ∃ o, s.options? r.ceremony = some o ∧ Recounts ms n r.ceremony o r.stage := by
  induction h generalizing n r with
  | start => cases hn
  | @next ms m hms ih =>
    -- a run that does not move keeps its course
    have other (hr : m.before.runs[n]? = some r) (hm : m.answer.moved ≠ some n) :
        ∃ o, m.after.options? r.ceremony = some o ∧
          Recounts (ms ++ [m]) n r.ceremony o r.stage := by
      obtain ⟨o, ho, hc⟩ := ih hr hi
      exact ⟨o, m.options?_mono ho, hc.snoc_other hm⟩
    -- a run that moves has come from the stage where it waited
    have own {n' k' : Nat} {st stage : Stage} (hm : m.Moves n' k' stage)
        (hst : m.before.runs[n']? = some ⟨k', st⟩) (hw : st ≠ .done .ignored)
        (hc : ∀ o ms, m.before.options? k' = some o → Course n' k' o ms st →
          Course n' k' o (ms ++ [m]) stage) :
        ∃ o, m.after.options? r.ceremony = some o ∧
          Recounts (ms ++ [m]) n r.ceremony o r.stage := by
      rw [hm.runs] at hn
      split at hn
      · next hnn =>
        cases hn
        obtain ⟨o, ho, hcourse⟩ := ih hst hw
        subst hnn
        exact ⟨o, m.options?_mono ho, hcourse.snoc_own hm.moved fun ms => hc o ms ho⟩
      · next hnn => exact other hn (by simp [hm.moved, Ne.symm hnn])
    cases m.turn with
    | aside idle current options => exact other (idle.runs ▸ hn) (by simp [idle.moved])
    | ready idle setsUp current options => exact other (idle.runs ▸ hn) (by simp [idle.moved])
    | ignored moves event current busy holds calls ended =>
      rw [moves.runs] at hn
      split at hn
      · cases hn
        exact absurd rfl hi
      · next hnn => exact other hn (by simp [moves.moved, Ne.symm hnn])
    | @started k o moves event current free options holds calls ended =>
      -- the run is new, so no moment so far is one of its life
      rw [moves.runs] at hn
      split at hn
      · next hnn =>
        cases hn
        have hnone : life n ms = [] :=
          hms.life_eq_nil (by rw [hnn]; exact List.getElem?_eq_none (Nat.le_refl _))
        refine ⟨o, m.options?_mono options, ?_⟩
        exact .start (hms.setUp options) hnone (by rw [moves.moved, hnn])
          (.started event current (Asks.question o) calls ended)
      · next hnn => exact other hn (by simp [moves.moved, Ne.symm hnn])
    | posted moves event run options holds calls ended =>
      refine own moves run (by simp) fun o ms ho hc => ?_
      cases options.symm.trans ho
      exact .posted hc event rfl calls ended
    | redirected moves event run verdict holds calls ended =>
      exact own moves run (by simp) fun o ms ho hc => hc.of_accepted event verdict calls ended
    | rejected event run fails =>
      exact own fails.toMoves run (by simp) fun o ms ho hc => .rejected hc event fails.givesUp
    | refused event run verdict fails =>
      exact own fails.toMoves run (by simp) fun o ms ho hc => hc.of_refused event verdict fails.givesUp

end History

/-- Calls that only runs make are made when a run moves. -/
theorem Moment.ofRun_of_unmoved {m : Moment} (hm : m.answer.moved = none) :
    ∀ call ∈ m.answer.calls, call.ofRun = false := by
  rcases m.idle_or_moves with hi | ⟨n, k, stage, hmoves, -⟩
  · exact hi.calls
  · rw [hmoves.moved] at hm
    cases hm

/-! ### Every run has a course -/

/-- **Every run that is not ignored takes its course**, whatever events come in
between and in whatever order: with the options that its ceremony was set up
with, hearing each answer that comes to it, and making every call of a run
that is made at all. -/
theorem run_course (scene : Scene) (es : List Event) :
    (∀ (n : Nat) (r : Run), ((State.initial scene).after es).runs[n]? = some r →
      r.stage ≠ .done .ignored →
        ∃ o, Recounts ((State.initial scene).moments es) n r.ceremony o r.stage) ∧
    (∀ m ∈ (State.initial scene).moments es, ∀ n, m.Addresses n → m.answer.moved = some n) ∧
    (∀ m ∈ (State.initial scene).moments es, m.answer.moved = none →
      ∀ call ∈ m.answer.calls, call.ofRun = false) := by
  have h := (State.initial scene).history es
  refine ⟨?_, h.moved_of_addresses, fun m _ hm => m.ofRun_of_unmoved hm⟩
  intro n r hn hi
  obtain ⟨o, -, hc⟩ := h.recounts hn hi
  exact ⟨o, hc⟩

/-- A page that moves on while its run asks the platform, and again while the
run waits for the server. -/
def wandering (supply : Supply) : List Event :=
  [.setup, .run, .page ⟨none, none, none, none, some "https://b.example/"⟩,
    .platform 0 (.ok supply), .page ⟨none, none, none, none, some "https://c.example/"⟩]

theorem run?_wandering (supply : Supply) :
    ((State.initial bareScene).after (wandering supply)).run? 0
      = some (⟨0, .submitting "https://b.example/"⟩,
          ⟨bareOptions, Keystrokes.Monitor.fresh.disable, true⟩) := by
  rw [wandering, State.after_cons, after_setup_initial]
  rfl

theorem verdict_wandering :
    (Except.ok ⟨true, some " /done", none⟩ : Except Failure Reply).bind
        (Ceremony.verdict "https://b.example/")
      = .ok (Url.resolve "https://b.example/" "/done") := by
  have ht : Text.trim " /done" = "/done" := rfl
  rw [Except.bind]
  refine Ceremony.verdict_eq_ok_iff.mpr ⟨"/done", ?_, rfl⟩
  exact Reply.target?_eq_some_iff.mpr ⟨rfl, " /done", rfl, by simp [ht], ht.symm⟩

/-- The redirect is resolved against the address of the post, and not against
the one that the page has come to. -/
theorem run_course_wandering :
    ∃ o, Recounts
      ((State.initial bareScene).moments
        (wandering bareSupply ++ [.server 0 (.ok ⟨true, some " /done", none⟩)]))
      0 0 o (.done (.redirected (Url.resolve "https://b.example/" "/done"))) := by
  refine (run_course bareScene _).1 0
    ⟨0, .done (.redirected (Url.resolve "https://b.example/" "/done"))⟩ ?_ (by simp)
  rw [State.after_snoc]
  exact runs_after_redirect (run?_wandering _) verdict_wandering

end Passkey.Rehearsal
