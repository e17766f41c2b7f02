/-
Passkey/Proofs/Browser/Deadline.lean

The timer of a request.

A request is sent with a timer that aborts it.  However runs, clicks, load
hooks and changes of the page follow each other, the timer stays armed as long
as its run waits for the response, and a timer aborts the request of the run
that it was armed for and no other.

The timer does not outlast the response, though: it is off as soon as the
response is there, while its body is still being read.
-/
import Passkey.Proofs.Browser.Attendance
import Passkey.Proofs.Browser.Waiting
import Passkey.Proofs.Browser.Wiring

namespace Passkey.Browser

/-! ### Pieces of runs -/

/-- Timers are armed anew or as they were, and those for requests are of a certain kind. -/
structure Older (new : Timer → Prop) (b b' : Browser) : Prop where
  next : b.nextTimer ≤ b'.nextTimer
  old : ∀ t ∈ b'.timers, t.number < b.nextTimer → t ∈ b.timers
  sent : ∀ t ∈ b'.timers, ∀ n, t.aborts? = some n → t ∈ b.timers ∨ new t

/-- A piece of a run is done: timers and runs are together again. -/
structure Carried (new : Timer → Prop) (pending : List Nat) (b b' : Browser) : Prop where
  timed : TimedWith pending none b'
  older : Older new b b'
  beginning : b'.beginning = b.beginning

/-- An action that does a piece of a run, whatever idle things happen before it. -/
def Carries {α : Type} (new : Timer → Prop) (pending : List Nat) (b : Browser)
    (m : StateM Browser α) : Prop :=
  ∀ b', Idle b b' → Carried new pending b (m.run b').2

/-- A browser that has just armed a timer for the request of a run. -/
def armed (b : Browser) (n timeout : Nat) : Browser :=
  { b with
    calls := b.calls ++ [.setTimeout (timerDelay timeout)]
    timers := b.timers ++
      [⟨b.nextTimer, b.clock + Float.ofNat (timerDelay timeout), .abort n⟩]
    nextTimer := b.nextTimer + 1 }

/-- When the timer is due that is armed for a request that is sent now. -/
def due (b : Browser) (o : Offer) : Float :=
  b.clock + Float.ofNat (timerDelay o.config.requestTimeout)

/-- The timers that are armed for the requests of runs that ask the platform now. -/
def IsSentBy (b : Browser) (t : Timer) : Prop :=
  ∃ n r o, b.run? n = some (r, o) ∧ r.stage = .asking ∧ t.alarm = .abort n ∧ t.due = b.due o

/-- A run has no timer, and is the one that is loose if any is. -/
structure IsOff (pending : List Nat) (loose : Option Nat) (b : Browser) (n : Nat) : Prop where
  timed : TimedWith pending loose b
  off : ∀ t ∈ b.timers, t.aborts? ≠ some n
  loose : ∀ m, loose = some m → m = n
  begun : n ∉ pending

section Pieces

variable {α β : Type} {new : Timer → Prop} {b b' b'' : Browser} {n : Nat} {pending : List Nat}
  {loose : Option Nat} {o : Offer}

theorem Older.refl (b : Browser) : Older new b b :=
  ⟨Nat.le_refl _, fun _ ht _ => ht, fun _ ht _ _ => .inl ht⟩

theorem Older.trans (h : Older new b b') (h' : Older new b' b'') : Older new b b'' :=
  ⟨h.next.trans h'.next, fun t ht hlt =>
    h.old t (h'.old t ht (Nat.lt_of_lt_of_le hlt h.next)) hlt, fun t ht n hn =>
    (h'.sent t ht n hn).elim (fun ht => h.sent t ht n hn) .inr⟩

theorem Idle.older (h : Idle b b') : Older new b b' := by
  obtain ⟨ts, htimers, -, hts⟩ := h.timers
  refine ⟨h.next, fun t ht hlt => ?_, fun t ht n hn => ?_⟩
  · rcases List.mem_append.mp (htimers ▸ ht) with ht | ht
    · exact ht
    · exact absurd hlt (Nat.not_lt_of_le (hts t ht).1)
  · rcases List.mem_append.mp (htimers ▸ ht) with ht | ht
    · exact .inl ht
    · rw [(hts t ht).2.2] at hn
      cases hn

theorem older_of_timers (htimers : b'.timers = b.timers) (hnext : b'.nextTimer = b.nextTimer) :
    Older new b b' :=
  ⟨Nat.le_of_eq hnext.symm, fun _ ht _ => htimers ▸ ht, fun _ ht _ _ => .inl (htimers ▸ ht)⟩

theorem IsOff.idle (h : IsOff pending loose b n) (hidle : Idle b b') :
    IsOff pending loose b' n := by
  obtain ⟨ts, htimers, -, hts⟩ := hidle.timers
  refine ⟨h.timed.idle hidle, fun t ht hn => ?_, h.loose, h.begun⟩
  rcases List.mem_append.mp (htimers ▸ ht) with ht | ht
  · exact h.off t ht hn
  · rw [(hts t ht).2.2] at hn
    cases hn

theorem Carried.idle (h : Carried new pending b b') (hidle : Idle b' b'') :
    Carried new pending b b'' :=
  ⟨h.timed.idle hidle, h.older.trans hidle.older, hidle.beginning.trans h.beginning⟩

theorem carries_of_idle {m : StateM Browser α} (h : TimedWith pending none b)
    (hm : Stays Idle m) : Carries new pending b m := by
  intro b' hidle
  have hall := hidle.trans (hm b')
  exact ⟨h.idle hall, hall.older, hall.beginning⟩

theorem carries_bind {m : StateM Browser α} {f : α → StateM Browser β} (hm : Stays Idle m)
    (hf : ∀ a, Carries new pending b (f a)) : Carries new pending b (m >>= f) :=
  fun b' hidle => hf _ _ (hidle.trans (hm b'))

theorem Carries.followed {m : StateM Browser α} {f : α → StateM Browser β}
    (h : Carries new pending b m) (hf : ∀ a, Stays Idle (f a)) : Carries new pending b (m >>= f) :=
  fun b' hidle => (h b' hidle).idle (hf _ _)

/-- What is done on behalf of a run. -/
theorem carries_within {action : StateM Browser α} (named : Bool) (mode : Mode)
    (h : Carries new pending b action) : Carries new pending b (within named mode action) := by
  have hspan (b : Browser) (span : Option Mode) : Idle b { b with span } :=
    isFrame_idle.calls b b.calls span
  intro b' hidle
  exact (h _ (hidle.trans (hspan b' _))).idle (hspan _ none)

/-- A run without a timer moves on. -/
theorem carries_setStage {s : Stage} (h : IsOff pending loose b n)
    (hs : submitting? s = none) : Carries new pending b (setStage n s) := by
  intro b' hidle
  have h' := h.idle hidle
  exact ⟨h'.timed.moved h'.off h'.loose h'.begun hs,
    hidle.older.trans (older_of_timers rfl rfl), hidle.beginning⟩

/-- A run without a timer ends. -/
theorem carries_endRun {r : Run} {ending : StateM Browser (Ceremony.Outcome × Ceremony)}
    (hending : Stays Idle ending) (h : IsOff pending loose b n) :
    Carries new pending b (endRun n r ending) :=
  carries_bind hending fun _ => carries_bind (allowsCeremonies_idle _ _) fun _ =>
    carries_setStage h rfl

theorem carries_failRun {r : Run} (failure : Failure) (h : IsOff pending loose b n) :
    Carries new pending b (failRun n r o failure) :=
  carries_endRun (stays_fail isFrame_idle (mayServe_true _) allowsText_idle _ _) h

/-- A run asks the platform, or fails to. -/
theorem carries_askPlatform {r : Run} (h : IsOff pending loose b n) :
    Carries new pending b (askPlatform n r o) := by
  rw [askPlatform]
  split
  · exact carries_failRun _ h
  · refine carries_bind (stays_log isFrame_idle _ _ _ _) fun _ =>
      carries_bind (stays_record isFrame_idle _) fun _ =>
        carries_bind (stays_get isFrame_idle) fun _ => ?_
    split
    · exact carries_failRun _ h
    · exact carries_setStage h rfl

theorem run?_eq_some {r : Run} (h : b.run? n = some (r, o)) :
    b.course? n = some r.course ∧ r.ceremony < b.offers.length := by
  obtain ⟨r', hr', hrest⟩ := Option.bind_eq_some_iff.mp h
  obtain ⟨o', ho', heq⟩ := Option.map_eq_some_iff.mp hrest
  cases heq
  refine ⟨?_, (List.getElem?_eq_some_iff.mp ho').1⟩
  rw [course?, hr']
  rfl

theorem IsSpawned.isOff (hn : b.IsSpawned n) (h : TimedWith (n :: pending) none b) :
    IsOff pending none b n := by
  obtain ⟨c, hcourse⟩ := hn
  obtain ⟨hnot, hnodup⟩ := List.nodup_cons.mp h.nodup
  exact ⟨⟨h.numbered, h.waits, h.armed, h.loose, h.known,
    fun m hm => h.spawned m (List.mem_cons_of_mem n hm), hnodup⟩,
    h.off hcourse rfl, nofun, hnot⟩

/-- What a run is called does not matter. -/
theorem course?_named (n : Nat) (named : Bool) (b : Browser) :
    course? { b with runs := b.runs.modify n fun r => { r with named } } = b.course? := by
  funext m
  show ((b.runs.modify n _)[m]?).map Run.course = (b.runs[m]?).map Run.course
  rw [List.getElem?_modify]
  cases b.runs[m]? with
  | none => rfl
  | some r =>
    show some (Run.course (if n = m then { r with named } else r)) = some r.course
    split <;> rfl

/-- **A run that was spawned begins.** -/
theorem carries_beginRun (h : TimedWith (n :: pending) none b) :
    Carries new pending b (beginRun n) := by
  have hoff := (h.spawned n List.mem_cons_self).isOff h
  refine carries_bind (stays_get isFrame_idle) fun b₀ => ?_
  split
  · exact carries_of_idle hoff.timed (stays_pure isFrame_idle _)
  · next r o _ =>
    have hnamed (named : Bool) : Stays Idle
        (modify fun b => { b with runs := b.runs.modify n fun r => { r with named } }) :=
      fun b => idle_of_same rfl (course?_named n named b) (Nat.le_refl _) rfl rfl rfl
    refine carries_bind (hnamed _) fun _ => carries_within _ _ ?_
    refine carries_bind (stays_start isFrame_idle (mayServe_true _) _) fun answer =>
      carries_bind (allowsCeremonies_idle _ _) fun _ => ?_
    split
    · exact carries_askPlatform hoff
    · exact carries_setStage hoff rfl

/-- **Tasks** begin the runs that were spawned. -/
theorem timed_tasks {tasks : List Task}
    (h : TimedWith (tasks.filterMap (·.begins?) ++ b.beginning) none b) :
    Carried new b.beginning b ((tasks.forM perform).run b).2 := by
  induction tasks generalizing b with
  | nil => exact ⟨h, .refl b, rfl⟩
  | cons task tasks ih =>
    have hfirst : Carried new (tasks.filterMap (·.begins?) ++ b.beginning) b
        ((perform task).run b).2 := by
      cases task with
      | run n => exact carries_beginRun h b (.refl b)
      | copy text => exact carries_of_idle h (stays_copyText isFrame_idle text) b (.refl b)
    have hrest := ih (b := ((perform task).run b).2) (hfirst.beginning.symm ▸ hfirst.timed)
    rw [hfirst.beginning] at hrest
    exact ⟨hrest.timed, hfirst.older.trans hrest.older, hrest.beginning.trans hfirst.beginning⟩

/-! ### Requests -/

theorem eq_of_asking? {s : Stage} {a : Unit} (h : asking? s = some a) : s = .asking := by
  cases s <;> first | rfl | cases h

theorem eq_of_submitting? {s : Stage} {location : String} {k : Nat}
    (h : submitting? s = some (location, k)) : s = .submitting location k := by
  cases s <;> cases h
  rfl

theorem eq_of_reading? {s : Stage} {location : String} {response : Response}
    (h : reading? s = some (location, response)) : s = .reading location response := by
  cases s <;> cases h
  rfl

theorem oldest?_eq_some {α : Type} {stage : Stage → Option α} {r : Run} {a : α}
    (h : b.oldest? stage = some (n, r, o, a)) :
    b.run? n = some (r, o) ∧ stage r.stage = some a := by
  obtain ⟨m, -, hm⟩ := List.exists_of_findSome?_eq_some h
  cases hrun : b.run? m with
  | none =>
    rw [hrun] at hm
    cases hm
  | some found =>
    obtain ⟨r', o'⟩ := found
    rw [hrun] at hm
    obtain ⟨a', ha, heq⟩ := Option.map_eq_some_iff.mp hm
    cases heq
    exact ⟨hrun, ha⟩

theorem waits_of_oldest? {r : Run} {location : String} {k : Nat}
    (h : b.oldest? submitting? = some (n, r, o, location, k)) : b.Waits n k := by
  obtain ⟨hrun, hstage⟩ := oldest?_eq_some h
  refine ⟨r.ceremony, location, (run?_eq_some hrun).1.trans ?_⟩
  rw [Run.course, eq_of_submitting? hstage]

theorem not_mem_pending {c : Nat} {s : Stage} (h : TimedWith pending loose b)
    (hcourse : b.course? n = some (c, s)) (hs : s ≠ .spawned) : n ∉ pending := by
  intro hn
  obtain ⟨c', hspawned⟩ := h.spawned n hn
  cases hcourse.symm.trans hspawned
  exact hs rfl

/-- A run that neither waits for a response nor for its turn. -/
theorem isOff_of_course? {c : Nat} {s : Stage} (h : TimedWith pending none b)
    (hcourse : b.course? n = some (c, s)) (hs : submitting? s = none)
    (hs' : s ≠ .spawned) : IsOff pending none b n :=
  ⟨h, h.off hcourse hs, nofun, not_mem_pending h hcourse hs'⟩

/-- **What posting does**: a timer is armed before the request is sent, and it is off again if
the request could not be made. -/
theorem run_post (n timeout : Nat) (url body : String) (b : Browser) :
    (post n timeout url body).run b =
      if b.lacks .abortController then
        (.error (.transport none "Failed to initialize request timeout."), b)
      else if b.lacks .request then
        (.error (FetchFault.named "TypeError" "Request").failure,
          ((disarm b.nextTimer).run (b.armed n timeout)).2)
      else (.ok b.nextTimer, ((record (.fetch url body)).run (b.armed n timeout)).2) := by
  rw [post, StateT.run_bind, StateT.run_get, pure_bind]
  cases habort : b.lacks .abortController with
  | true =>
    dsimp only
    rfl
  | false =>
    dsimp only
    show StateT.run (if b.lacks .request then _ else _) (b.armed n timeout) = _
    cases b.lacks .request <;> rfl

/-- A timer that is off again leaves the others as they were. -/
theorem idle_disarm_armed (h : b.TimersNumbered) (n timeout : Nat) :
    Idle b ((disarm b.nextTimer).run (b.armed n timeout)).2 := by
  have hold : b.timers.filter (·.number ≠ b.nextTimer) = b.timers :=
    List.filter_eq_self.mpr fun t ht => decide_eq_true (Nat.ne_of_lt (h.lt_next t ht))
  have htimers : ((disarm b.nextTimer).run (b.armed n timeout)).2.timers = b.timers := by
    show (b.timers ++ [_]).filter _ = b.timers
    rw [List.filter_append, hold]
    simp
  exact ⟨rfl, rfl, Nat.le_refl _, rfl, Nat.le_succ _, [], by rw [htimers, List.append_nil], .nil,
    fun _ ht => absurd ht List.not_mem_nil⟩

/-- **A credential is posted**: the run waits from now on, or it fails. -/
theorem carries_submit {r : Run} {c : Nat} {s : Stage} (credential : Credential)
    (h : IsOff pending none b n) (hcourse : b.course? n = some (c, s))
    (hlt : c < b.offers.length) (hs : submitting? s = none)
    (hnew : ∀ k, new ⟨k, b.due o, .abort n⟩) :
    Carries new pending b (submit n r o credential) := by
  refine carries_bind (stays_submission isFrame_idle) fun location => ?_
  intro b' hidle
  have h' := h.idle hidle
  rw [StateT.run_bind, run_post]
  split
  · exact carries_failRun _ h b' hidle
  · split
    · exact carries_failRun _ h _ (hidle.trans (idle_disarm_armed h'.timed.numbered _ _))
    · have hcourse' : b'.course? n = some (c, s) := hidle.course? ▸ hcourse
      refine ⟨h'.timed.sent hcourse' (Nat.lt_of_lt_of_le hlt hidle.offers) hs h'.begun rfl rfl rfl
        rfl, hidle.older.trans ⟨Nat.le_succ _, fun t ht hlt' => ?_, fun t ht m _ => ?_⟩,
        hidle.beginning⟩
      · rcases List.mem_append.mp ht with ht | ht
        · exact ht
        · rw [List.mem_singleton.mp ht] at hlt'
          exact absurd hlt' (Nat.lt_irrefl _)
      · rcases List.mem_append.mp ht with ht | ht
        · exact .inl ht
        · rw [List.mem_singleton.mp ht, hidle.clock]
          exact .inr (hnew _)

/-- **The platform answers.** -/
theorem carried_answerPlatform (h : TimedWith pending none b)
    (answer : Except ScriptValue PlatformAnswer)
    (hnew : ∀ a, answer = .ok a → ∀ t, b.IsSentBy t → new t) :
    Carried new pending b ((answerPlatform answer).run b).2 := by
  rw [answerPlatform, StateT.run_bind, StateT.run_get, pure_bind]
  split
  · exact carries_of_idle h (stays_pure isFrame_idle _) b (.refl b)
  · next n r o _ holdest =>
    obtain ⟨hrun, hstage⟩ := oldest?_eq_some holdest
    obtain ⟨hcourse, hlt⟩ := run?_eq_some hrun
    have hasking : r.stage = .asking := eq_of_asking? hstage
    rw [Run.course, hasking] at hcourse
    have hoff := isOff_of_course? h hcourse rfl (by intro hs; cases hs)
    refine Carries.followed (carries_within _ _ ?_) (fun _ => stays_pure isFrame_idle _) b (.refl b)
    split
    · exact carries_failRun _ hoff
    · next credential hread =>
      refine carries_submit _ hoff hcourse hlt rfl fun k => ?_
      cases answer with
      | ok a => exact hnew a rfl _ ⟨n, r, o, hrun, hasking, rfl, rfl⟩
      | error thrown => cases hread

theorem older_disarm (k : Nat) (b : Browser) : Older new b ((disarm k).run b).2 :=
  ⟨Nat.le_refl _, fun _ ht _ => List.mem_of_mem_filter ht,
    fun _ ht _ _ => .inl (List.mem_of_mem_filter ht)⟩

/-- A request that ends leaves its run loose. -/
theorem isOff_disarm {k : Nat} (h : TimedWith pending none b) (hwait : b.Waits n k) :
    IsOff pending (some n) ((disarm k).run b).2 n := by
  have hdisarmed := h.disarmed hwait
  obtain ⟨c, location, hcourse⟩ := hwait
  exact ⟨hdisarmed, hdisarmed.loose n rfl, fun m hm => (Option.some.inj hm).symm,
    not_mem_pending h hcourse (by intro hs; cases hs)⟩

theorem Older.carried (h : Older new b b') (hbeginning : b'.beginning = b.beginning)
    (hcarried : Carried new pending b' b'') : Carried new pending b b'' :=
  ⟨hcarried.timed, h.trans hcarried.older, hcarried.beginning.trans hbeginning⟩

/-- **A request comes to nothing**: its timer is off, and its run fails. -/
theorem carried_failRequest {r : Run} {k : Nat} (fault : FetchFault)
    (h : TimedWith pending none b) (hwait : b.Waits n k) :
    Carried new pending b ((failRequest n r o k fault).run b).2 := by
  have hfail : Carries new pending _ _ := carries_within r.named o.ceremony.mode
    (carries_failRun (r := r) (o := o) fault.failure (isOff_disarm h hwait))
  exact (older_disarm k b).carried rfl (hfail _ (.refl _))

/-- **A response comes**: the timer is off while its body is read. -/
theorem carried_receive (h : TimedWith pending none b) (response : Response) :
    Carried new pending b ((receive response).run b).2 := by
  rw [receive, StateT.run_bind, StateT.run_get, pure_bind]
  split
  · exact carries_of_idle h (stays_pure isFrame_idle _) b (.refl b)
  · next n r o location k holdest =>
    have hwait := waits_of_oldest? holdest
    have hread : Carries new pending _ (setStage n (.reading location response)) :=
      carries_setStage (isOff_disarm h hwait) rfl
    exact (older_disarm k b).carried rfl (hread _ (.refl _))

/-- **A body is read**, and its run ends. -/
theorem carried_finishReading (h : TimedWith pending none b) :
    Carried new pending b (finishReading.run b).2 := by
  rw [finishReading, StateT.run_bind, StateT.run_get, pure_bind]
  split
  · exact carries_of_idle h (stays_pure isFrame_idle _) b (.refl b)
  · next n r o location response holdest =>
    obtain ⟨hrun, hstage⟩ := oldest?_eq_some holdest
    have hcourse := (run?_eq_some hrun).1
    rw [Run.course, eq_of_reading? hstage] at hcourse
    have hreply : Stays Idle (readReply response) := by
      rw [readReply]
      split
      · exact stays_bind isFrame_idle (stays_log isFrame_idle _ _ _ _) fun _ =>
          stays_pure isFrame_idle _
      · exact stays_pure isFrame_idle _
    refine carries_within _ _ (carries_bind hreply fun answer => ?_) b (.refl b)
    exact carries_endRun
      (stays_conclude isFrame_idle (mayServe_true _) allowsText_idle _ _ _)
      (isOff_of_course? h hcourse rfl (by intro hs; cases hs))

theorem Carried.trans (h : Carried new pending b b')
    (h' : TimedWith pending none b' → Carried new pending b' b'') : Carried new pending b b'' := by
  have hrest := h' h.timed
  exact ⟨hrest.timed, h.older.trans hrest.older, hrest.beginning.trans h.beginning⟩

theorem carried_answerRequest (h : TimedWith pending none b) (response : Response) :
    Carried new pending b ((answerRequest response).run b).2 := by
  have hreceived : Carried new pending b _ := carried_receive h response
  rw [answerRequest, StateT.run_bind]
  generalize (receive response).run b = received at hreceived
  obtain ⟨heard, b₁⟩ := received
  exact hreceived.trans fun h₁ => carried_finishReading h₁

theorem carried_breakRequest (h : TimedWith pending none b) (fault : FetchFault) :
    Carried new pending b ((breakRequest fault).run b).2 := by
  rw [breakRequest, StateT.run_bind, StateT.run_get, pure_bind]
  split
  · exact carries_of_idle h (stays_pure isFrame_idle _) b (.refl b)
  · next n r o location k holdest =>
    exact carried_failRequest fault h (waits_of_oldest? holdest)

/-! ### Timers that ring -/

/-- What is picked from a list by comparing two at a time is in the list. -/
theorem mem_of_foldl {better : Option Timer → Timer → Option Timer} {ts : List Timer}
    {best : Option Timer} {t : Timer}
    (hpick : ∀ best u, better best u = best ∨ better best u = some u)
    (h : ts.foldl better best = some t) : best = some t ∨ t ∈ ts := by
  induction ts generalizing best with
  | nil => exact .inl h
  | cons u ts ih =>
    rcases ih h with h | h
    · rcases hpick best u with hu | hu
      · exact .inl (hu ▸ h)
      · rw [hu] at h
        injection h with h
        exact .inr (h ▸ List.mem_cons_self)
    · exact .inr (List.mem_cons_of_mem u h)

/-- The timer that is due is one of those that are armed. -/
theorem mem_of_dueTimer? {time : Float} {t : Timer} (h : b.dueTimer? time = some t) :
    t ∈ b.timers := by
  have hpicked : none = some t ∨ t ∈ b.timers.filter fun t => t.due ≤ time := by
    refine mem_of_foldl (fun best u => ?_) h
    cases best with
    | none => exact .inr rfl
    | some v =>
      by_cases hlt : u.due < v.due
      · exact .inr (if_pos hlt)
      · exact .inl (if_neg hlt)
  rcases hpicked with h | h
  · cases h
  · exact List.mem_of_mem_filter h

/-- A timer that aborts nothing goes off. -/
theorem timed_unarmed {t : Timer} (h : TimedWith pending none b) (ht : t ∈ b.timers)
    (hnone : t.aborts? = none) : TimedWith pending none ((disarm t.number).run b).2 := by
  refine ⟨h.numbered.disarm t.number, fun u hu => h.waits u (List.mem_of_mem_filter hu), ?_, nofun,
    h.known, h.spawned, h.nodup⟩
  intro n k _ hwait
  obtain ⟨u, hu, hk, hn⟩ := h.armed n k nofun hwait
  refine ⟨u, List.mem_filter.mpr ⟨hu, decide_eq_true fun hsame => ?_⟩, hk, hn⟩
  rw [h.numbered.eq_of_number hu ht hsame, hnone] at hn
  cases hn

theorem stays_enableResend_idle (button : Nat) (icon : Option Nat) :
    Stays Idle (enableResend button icon) := by
  refine stays_bind isFrame_idle (stays_changeAll isFrame_idle fun _ _ => trivial) fun thrown => ?_
  cases thrown with
  | none => exact stays_pure isFrame_idle _
  | some v => exact stays_log isFrame_idle _ _ _ _

theorem run_abortRequest {r : Run} {location : String} {k : Nat} (hrun : b.run? n = some (r, o))
    (hstage : r.stage = .submitting location k) :
    (abortRequest n).run b = (failRequest n r o k aborted).run ((record .abort).run b).2 := by
  have hrun' : ((record .abort).run b).2.run? n = some (r, o) := hrun
  have hrecord : (record .abort).run b = (pure ((), ((record .abort).run b).2) : Id _) := rfl
  rw [abortRequest, StateT.run_bind, hrecord, pure_bind]
  dsimp only
  rw [StateT.run_bind, StateT.run_get, pure_bind]
  dsimp only
  rw [hrun']
  dsimp only
  rw [hstage]
  rfl

/-- The run and the ceremony of a run that waits. -/
theorem run?_of_waits {k : Nat} (h : TimedWith pending loose b) (hwait : b.Waits n k) :
    ∃ r o location, b.run? n = some (r, o) ∧ r.stage = .submitting location k := by
  obtain ⟨c, stage, hcourse, hlt⟩ := h.known n k hwait
  obtain ⟨c', location, hcourse'⟩ := hwait
  rw [hcourse] at hcourse'
  cases hcourse'
  obtain ⟨r, hr, hrcourse⟩ := Option.map_eq_some_iff.mp hcourse
  injection hrcourse with hceremony hstage
  subst hceremony
  refine ⟨r, b.offers[r.ceremony], location, ?_, hstage⟩
  rw [run?, hr, Option.bind_some, List.getElem?_eq_getElem hlt]
  rfl

/-- Ringing for a run that waits aborts its request. -/
theorem carried_abortRequest {k : Nat} (h : TimedWith pending none b) (hwait : b.Waits n k) :
    Carried new pending b ((disarm k >>= fun _ => abortRequest n).run b).2 := by
  obtain ⟨r, o, location, hrun, hstage⟩ := run?_of_waits h hwait
  -- the timer is off already when the request is taken down
  have hidle : Idle ((disarm k).run b).2
      ((disarm k).run ((record .abort).run ((disarm k).run b).2).2).2 := by
    refine idle_of_same rfl rfl (Nat.le_refl _) rfl ?_ rfl
    show (b.timers.filter _).filter _ = b.timers.filter _
    simp only [List.filter_filter, Bool.and_self]
  have hfail : Carries new pending _ _ := carries_within r.named o.ceremony.mode
    (carries_failRun (r := r) (o := o) aborted.failure (isOff_disarm h hwait))
  rw [run_seq, run_abortRequest (b := ((disarm k).run b).2) hrun hstage, failRequest, run_seq]
  exact (older_disarm k b).carried rfl (hfail _ hidle)

/-- **A timer rings**: the request that it was armed for ends, if it was armed for one. -/
theorem carried_ring {t : Timer} (h : TimedWith pending none b) (ht : t ∈ b.timers) :
    Carried new pending b ((disarm t.number >>= fun _ => ring t.alarm).run b).2 := by
  cases halarm : t.alarm with
  | abort n =>
    have haborts : t.aborts? = some n := by rw [Timer.aborts?, halarm]
    exact carried_abortRequest h (h.waits t ht n haborts)
  | enableResend button icon =>
    have hnone : t.aborts? = none := by rw [Timer.aborts?, halarm]
    have hidle := stays_enableResend_idle button icon ((disarm t.number).run b).2
    exact (older_disarm t.number b).carried rfl
      ⟨(timed_unarmed h ht hnone).idle hidle, hidle.older, hidle.beginning⟩

/-- A run that fails is the only one to move on. -/
theorem course?_failRun (r : Run) (o : Offer) (failure : Failure) (b : Browser) (m : Nat) :
    ((failRun n r o failure).run b).2.course? m
      = if m = n then (b.course? n).map fun c => (c.1, .done (.failed failure))
        else b.course? m := by
  have hfail := stays_fail isFrame_idle (mayServe_true o.config) allowsText_idle o.ceremony
    failure b
  have hended := (allowsCeremonies_idle r.ceremony { o.ceremony with inFlight := false }
    ((o.ceremony.fail (page o.config) failure).run b).2)
  rw [← (hfail.trans hended).course?]
  exact course?_setStage n (.done (.failed failure)) _ m

theorem course?_within (named : Bool) (mode : Mode) (action : StateM Browser α) (b : Browser) :
    ((within named mode action).run b).2.course?
      = (action.run { b with span := if named then some mode else none }).2.course? := rfl

/-- So is one whose request comes to nothing. -/
theorem course?_failRequest (r : Run) (o : Offer) (k : Nat) (fault : FetchFault) (b : Browser)
    (m : Nat) :
    ((failRequest n r o k fault).run b).2.course? m
      = if m = n then (b.course? n).map fun c => (c.1, .done (.failed fault.failure))
        else b.course? m := by
  rw [failRequest, run_seq, course?_within, course?_failRun]
  rfl

/-- **A timer that was armed for a request aborts it**: its run fails, and every other run is
where it was. -/
theorem course?_ring {t : Timer} (h : TimedWith pending none b) (ht : t ∈ b.timers)
    (haborts : t.aborts? = some n) (m : Nat) :
    ((disarm t.number >>= fun _ => ring t.alarm).run b).2.course? m
      = if m = n then (b.course? n).map fun c => (c.1, .done (.failed aborted.failure))
        else b.course? m := by
  have halarm : t.alarm = .abort n := by
    rw [Timer.aborts?] at haborts
    split at haborts <;> cases haborts
    assumption
  obtain ⟨r, o, location, hrun, hstage⟩ := run?_of_waits h (h.waits t ht n haborts)
  rw [halarm, run_seq]
  show ((abortRequest n).run ((disarm t.number).run b).2).2.course? m = _
  rw [run_abortRequest (b := ((disarm t.number).run b).2) hrun hstage]
  rw [course?_failRequest]
  rfl

end Pieces

/-! ### Steps -/

/-- Timers and runs stay together, and timers are armed anew or as they were. -/
def Timely (new : Timer → Prop) (b b' : Browser) : Prop :=
  TimedWith b.beginning none b → TimedWith b'.beginning none b' ∧ Older new b b'

section Steps

variable {α : Type} {new : Timer → Prop} {b b' : Browser}

theorem Idle.timely (h : Idle b b') : Timely new b b' :=
  fun hb => ⟨h.beginning.symm ▸ hb.idle h, h.older⟩

theorem timely_of_carried
    (h : TimedWith b.beginning none b → Carried new b.beginning b b') : Timely new b b' := by
  intro hb
  have hcarried := h hb
  exact ⟨hcarried.beginning.symm ▸ hcarried.timed, hcarried.older⟩

theorem Timely.trans {b'' : Browser} (h : Timely new b b') (h' : Timely new b' b'') :
    Timely new b b'' := by
  intro hb
  obtain ⟨hb', holder⟩ := h hb
  obtain ⟨hb'', holder'⟩ := h' hb'
  exact ⟨hb'', holder.trans holder'⟩

theorem isFrame_timely : IsFrame (Timely new) (fun _ _ => True) where
  refl b := (Idle.refl b).timely
  trans := .trans
  calls b calls span := (isFrame_idle.calls b calls span).timely
  change hmay b := (isFrame_idle.change hmay b).timely

theorem stays_timely {m : StateM Browser α} (h : Stays Idle m) : Stays (Timely new) m :=
  fun b => (h b).timely

theorem stays_togglePassword_idle (icon : Nat) : Stays Idle (togglePassword icon) :=
  fun _ => togglePassword_stays isFrame_idle (fun _ _ => ⟨trivial, trivial⟩)
    fun _ _ _ => stays_writeAttribute isFrame_idle (by decide) trivial _

theorem stays_spawn_copy_idle (text : String) : Stays Idle (spawn (.copy text)) := by
  refine fun b => idle_of_same rfl rfl (Nat.le_refl _) ?_ rfl rfl
  show (b.tasks ++ [Task.copy text]).filterMap Task.begins? = _
  rw [List.filterMap_append]
  exact List.append_nil _

/-- The courses after another run was spawned. -/
theorem course?_append (b : Browser) (r : Run) (n : Nat) :
    course? { b with runs := b.runs ++ [r] } n
      = if n = b.runs.length then some r.course else b.course? n := by
  show ((b.runs ++ [r])[n]?).map Run.course = _
  rcases Nat.lt_trichotomy n b.runs.length with h | rfl | h
  · rw [List.getElem?_append_left h, if_neg (Nat.ne_of_lt h), course?]
  · rw [List.getElem?_concat_length, if_pos rfl]
    rfl
  · rw [List.getElem?_eq_none, if_neg (Nat.ne_of_gt h), course?, List.getElem?_eq_none]
    · exact Nat.le_of_lt h
    · rw [List.length_append]
      exact h

/-- **A click on a trigger spawns a run.** -/
theorem timely_activate (ev : Event) (c : Nat) : Stays (Timely new) (handle ev (.activate c)) := by
  intro b hb
  have hcourse (n : Nat) : ((handle ev (.activate c)).run b).2.course? n
      = if n = b.runs.length then some (c, .spawned) else b.course? n :=
    course?_append b ⟨c, false, .spawned⟩ n
  -- whoever was there before is another run
  have hold {n : Nat} {found : Nat × Stage} (h : b.course? n = some found) :
      ((handle ev (.activate c)).run b).2.course? n = some found := by
    obtain ⟨r, hr, -⟩ := Option.map_eq_some_iff.mp h
    rw [hcourse, if_neg (Nat.ne_of_lt (List.getElem?_eq_some_iff.mp hr).1), h]
  have hwaits {n k : Nat} (h : ((handle ev (.activate c)).run b).2.Waits n k) : b.Waits n k := by
    obtain ⟨c', location, h⟩ := h
    rw [hcourse] at h
    split at h
    · cases h
    · exact ⟨c', location, h⟩
  have hbeginning : ((handle ev (.activate c)).run b).2.beginning
      = b.beginning ++ [b.runs.length] := by
    show (b.tasks ++ [Task.run b.runs.length]).filterMap Task.begins? = _
    rw [List.filterMap_append]
    rfl
  rw [hbeginning]
  refine ⟨⟨⟨hb.numbered.nodup, hb.numbered.lt_next⟩, ?_, ?_, nofun, ?_, ?_, ?_⟩,
    older_of_timers rfl rfl⟩
  · intro t ht n hn
    obtain ⟨c', location, h⟩ := hb.waits t ht n hn
    exact ⟨c', location, hold h⟩
  · intro n k _ hwait
    exact hb.armed n k nofun (hwaits hwait)
  · intro n k hwait
    obtain ⟨c', stage, h, hlt⟩ := hb.known n k (hwaits hwait)
    exact ⟨c', stage, hold h, hlt⟩
  · intro n hn
    rcases List.mem_append.mp hn with hn | hn
    · obtain ⟨c', h⟩ := hb.spawned n hn
      exact ⟨c', hold h⟩
    · rw [List.mem_singleton.mp hn]
      exact ⟨c, (hcourse _).trans (if_pos rfl)⟩
  · refine List.nodup_append.mpr ⟨hb.nodup, List.nodup_singleton _, ?_⟩
    rintro n hn _ hlast rfl
    obtain ⟨c', h⟩ := hb.spawned n hn
    obtain ⟨r, hr, -⟩ := Option.map_eq_some_iff.mp h
    exact absurd (List.mem_singleton.mp hlast)
      (Nat.ne_of_lt (List.getElem?_eq_some_iff.mp hr).1)

/-- **Whatever hears an event** keeps timers and runs together. -/
theorem timely_handle (ev : Event) (k : Handler) : Stays (Timely new) (handle ev k) := by
  intro b
  by_cases hhook : k.hook? = none
  · by_cases hactivate : ∃ c, k = .activate c
    · obtain ⟨c, rfl⟩ := hactivate
      exact timely_activate ev c b
    · refine (handle_stays isFrame_idle mayPhoto_true (fun _ _ => trivial) ?_ ev).timely
      exact ⟨hhook, fun c _ => ⟨allowsText_idle, allowsCeremonies_idle,
        fun _ _ _ => ⟨trivial, trivial⟩⟩, fun c hc => absurd ⟨c, hc⟩ hactivate,
        fun icon _ => stays_togglePassword_idle icon b, stays_spawn_copy_idle⟩
  · obtain ⟨config, hconfig⟩ := Option.ne_none_iff_exists'.mp hhook
    rw [run_handle_of_hook? hconfig]
    exact (stays_load_idle config b).timely

theorem timely_tell (ls : List Listener) (ev : Event) : Stays (Timely new) (tell ls ev) := by
  induction ls generalizing ev with
  | nil => exact stays_pure isFrame_timely _
  | cons l ls ih => exact stays_bind isFrame_timely (timely_handle ev l.handler) ih

theorem timely_bubble (type : String) (places : List Place) (ev : Event) :
    Stays (Timely new) (bubble type places ev) := by
  induction places generalizing ev with
  | nil => exact stays_pure isFrame_timely _
  | cons place places ih =>
    have htaken : Stays (Timely new) (takeOnce place type) :=
      stays_timely fun b => idle_of_same rfl rfl (Nat.le_refl _) rfl rfl rfl
    exact stays_bind isFrame_timely (stays_get isFrame_timely) fun b =>
      stays_bind isFrame_timely htaken fun _ =>
        stays_bind isFrame_timely (timely_tell _ ev) ih

theorem timely_dispatch (target : Place) (type : String) (key : Option String)
    (detail : ScriptValue) : Stays (Timely new) (dispatch target type key detail) :=
  stays_bind isFrame_timely (stays_get isFrame_timely) fun _ => timely_bubble _ _ _

/-- **Tasks are done**: the runs that were spawned begin. -/
theorem timely_settle : Stays (Timely new) settle := by
  intro b hb
  have hcleared : TimedWith (b.tasks.filterMap (·.begins?) ++ []) none { b with tasks := [] } := by
    rw [List.append_nil]
    exact ⟨⟨hb.numbered.nodup, hb.numbered.lt_next⟩, hb.waits, hb.armed, hb.loose, hb.known,
      hb.spawned, hb.nodup⟩
  have hdone : Carried new (beginning { b with tasks := [] }) { b with tasks := [] }
      ((b.tasks.forM perform).run { b with tasks := [] }).2 := timed_tasks hcleared
  have hbeginning : ((settle).run b).2.beginning = [] := hdone.beginning
  rw [hbeginning]
  exact ⟨hdone.timed, hdone.older.next, hdone.older.old, hdone.older.sent⟩

/-- Timers ring one after the other. -/
theorem timely_ringDue (time : Float) (count : Nat) : Stays (Timely new) (ringDue time count) := by
  induction count with
  | zero => exact stays_pure isFrame_timely _
  | succ count ih =>
    intro b
    rw [ringDue, StateT.run_bind, StateT.run_get, pure_bind]
    split
    · exact isFrame_timely.refl b
    · next t ht =>
      have hring : Timely new b ((disarm t.number >>= fun _ => ring t.alarm).run b).2 :=
        timely_of_carried fun hb => carried_ring hb (mem_of_dueTimer? ht)
      have hrest : Stays (Timely new) (settle >>= fun _ => ringDue time count) :=
        stays_bind isFrame_timely timely_settle fun _ => ih
      exact hring.trans (hrest _)

theorem stays_applyStyle_idle (n : Nat) (style : String) : Stays Idle (applyStyle n style) := by
  have hall (ds : List Widget.Declaration) : Stays Idle (assignDeclarations n ds) := by
    induction ds with
    | nil => exact stays_pure isFrame_idle _
    | cons d ds ih =>
      refine stays_bind isFrame_idle (isFrame_idle.change trivial) fun thrown => ?_
      cases thrown with
      | none => exact ih
      | some v => exact stays_bind isFrame_idle (stays_log isFrame_idle _ _ _ _) fun _ => ih
  exact hall _

theorem stays_callSetAttribute_idle (place : Place) (args : List ScriptValue) :
    Stays Idle (callSetAttribute place args) := by
  have hdirect : Stays Idle (setAttributeDirectly place args) := by
    cases place with
    | document => exact stays_pure isFrame_idle _
    | element n => exact isFrame_idle.change trivial
  refine stays_bind isFrame_idle (stays_get isFrame_idle) fun b => ?_
  split
  · exact stays_pure isFrame_idle _
  · split
    · split
      · exact stays_bind isFrame_idle (stays_applyStyle_idle _ _) fun _ => stays_pure isFrame_idle _
      · exact hdirect
    · exact hdirect

theorem stays_start_idle : Stays Idle start := by
  have hR := isFrame_idle
  have hinstall (config : Config) : Stays Idle (installConsole config) := by
    refine stays_bind hR (stays_get hR) fun b => ?_
    split
    · exact stays_record hR _
    · exact fun b => idle_of_same rfl rfl (Nat.le_refl _) rfl rfl rfl
  have hdivert : Stays Idle divertStyle := by
    intro b
    simp only [divertStyle, StateT.run_bind, StateT.run_get, pure_bind]
    split
    · exact stays_log hR _ _ _ _ b
    · have hdiverted : Idle b { b with diverted := true } :=
        idle_of_same rfl rfl (Nat.le_refl _) rfl rfl rfl
      exact hdiverted.trans (stays_log hR _ _ _ _ _)
  have hboot (config : Config) : Stays Idle (boot config) := by
    refine stays_bind hR (stays_get hR) fun b => ?_
    split
    · exact stays_log hR _ _ _ _
    · refine stays_bind hR (stays_listen_idle _ _ _) fun _ =>
        stays_bind hR (stays_listen_idle _ _ _) fun _ => ?_
      split
      · exact stays_listen_idle _ _ _
      · exact stays_load_idle config
  exact stays_bind hR (stays_get hR) fun b => stays_bind hR (hinstall _) fun _ =>
    stays_bind hR (stays_log hR _ _ _ _) fun _ => stays_bind hR hdivert fun _ => hboot _

theorem stays_atTarget {R : Browser → Browser → Prop} {may : Nat → Operation → Prop}
    (hR : IsFrame R may) (target : Target) {action : Place → StateM Browser Result}
    (h : ∀ place, Stays R (action place)) : Stays R (atTarget target action) := by
  refine stays_bind hR (stays_get hR) fun b => ?_
  split
  · exact stays_pure hR _
  · exact h _

/-- The browser at the begin of a step. -/
def begun (b : Browser) (now : Option Float) : Browser :=
  { b with clock := now.getD b.clock, calls := [] }

/-- Time passes. -/
theorem timely_setClock (b : Browser) (clock : Float) (calls : List Call) :
    Timely new b { b with clock, calls } := fun hb =>
  ⟨⟨⟨hb.numbered.nodup, hb.numbered.lt_next⟩, hb.waits, hb.armed, hb.loose, hb.known, hb.spawned,
    hb.nodup⟩, older_of_timers rfl rfl⟩

theorem timely_press (strokes : List Keystrokes.Keystroke) :
    Stays (Timely new) (press strokes) := by
  induction strokes with
  | nil => exact stays_pure isFrame_timely _
  | cons k rest ih =>
    have hclock : Stays (Timely new) (modify fun b => { b with clock := k.time }) :=
      fun b => timely_setClock b k.time b.calls
    exact stays_bind isFrame_timely hclock fun _ =>
      stays_bind isFrame_timely (timely_dispatch _ _ _ _) fun _ => ih

theorem timely_advance (milliseconds : Float) : Stays (Timely new) (advance milliseconds) :=
  stays_bind isFrame_timely (stays_get isFrame_timely) fun _ =>
    stays_bind isFrame_timely (timely_ringDue _ _) fun _ =>
      fun b => timely_setClock b _ b.calls

/-- **What a step does** keeps timers and runs together; no request is sent but upon an answer. -/
theorem timely_act {s : Step} (hs : ∀ answer, s ≠ .answer answer) :
    Stays (Timely new) (act s) := by
  have hR : IsFrame (Timely new) _ := isFrame_timely
  have hedit {change : Browser → Document} :
      Stays (Timely new) (modify fun b => { b with document := change b }) :=
    stays_timely fun _ => idle_of_same rfl rfl (Nat.le_refl _) rfl rfl rfl
  have hplace {edited : Nat → Document → Document} (place : Place) :
      Stays (Timely new) (edit edited place) := by
    cases place with
    | document => exact stays_pure hR _
    | element n => exact stays_bind hR hedit fun _ => stays_pure hR _
  cases s with
  | start => exact stays_bind hR (stays_timely stays_start_idle) fun _ => stays_pure hR _
  | refresh =>
    exact stays_bind hR (stays_bind hR (stays_get hR) fun b =>
      stays_timely (stays_load_idle b.settings)) fun _ => stays_pure hR _
  | event target type key detail =>
    exact stays_atTarget hR target fun place =>
      stays_bind hR (timely_dispatch place type key detail) fun _ => stays_pure hR _
  | keys strokes => exact stays_bind hR (timely_press strokes) fun _ => stays_pure hR _
  | advance milliseconds =>
    exact stays_bind hR (timely_advance milliseconds) fun _ => stays_pure hR _
  | answer answer => exact absurd rfl (hs answer)
  | reject thrown =>
    exact stays_bind hR (fun b => timely_of_carried fun hb => carried_answerPlatform hb _ nofun)
      fun _ => stays_pure hR _
  | respond response =>
    exact stays_bind hR (fun b => timely_of_carried fun hb => carried_answerRequest hb response)
      fun _ => stays_pure hR _
  | breakRequest fault =>
    exact stays_bind hR (fun b => timely_of_carried fun hb => carried_breakRequest hb fault)
      fun _ => stays_pure hR _
  | setAttribute target args =>
    exact stays_atTarget hR target fun place =>
      stays_bind hR (stays_timely (stays_callSetAttribute_idle place args)) fun _ => stays_pure hR _
  | applyStyle target style =>
    refine stays_atTarget hR target fun place => stays_bind hR (stays_get hR) fun b => ?_
    split
    · exact stays_pure hR _
    · exact stays_bind hR (stays_timely (stays_applyStyle_idle _ _)) fun _ => stays_pure hR _
  | insert target trees =>
    exact stays_atTarget hR target fun place => stays_bind hR hedit fun _ => stays_pure hR _
  | remove target => exact stays_atTarget hR target hplace
  | fill target files value => exact stays_atTarget hR target hplace
  | setGlobal name value =>
    have hset : Stays (Timely new) (modify fun b => { b with overrides := value }) :=
      stays_timely fun _ => idle_of_same rfl rfl (Nat.le_refl _) rfl rfl rfl
    rw [act]
    split
    · exact stays_bind hR hset fun _ => stays_pure hR _
    · exact stays_pure hR _

/-- **An answer of the platform** keeps timers and runs together, and the request of the run
that asked is sent with its timer. -/
theorem timely_act_answer (answer : PlatformAnswer) (hnew : ∀ t, b.IsSentBy t → new t) :
    Timely new b ((act (.answer answer)).run b).2 := by
  have hanswered : Timely new b ((answerPlatform (.ok answer)).run b).2 :=
    timely_of_carried fun hb => carried_answerPlatform hb _ fun _ _ => hnew
  exact hanswered

/-- **A happening** keeps timers and runs together. -/
theorem timely_happen (h : Happening) (b : Browser)
    (hnew : ∀ now answer, h = .step now (.answer answer) →
      ∀ t, (b.begun now).IsSentBy t → new t) : Timely new b (b.happen h) := by
  cases h with
  | rearrange change =>
    have hidle : Idle b { b with document := change b.document } :=
      idle_of_same rfl rfl (Nat.le_refl _) rfl rfl rfl
    exact hidle.timely
  | step now s =>
    have hbegun : Timely new b (b.begun now) := timely_setClock b (now.getD b.clock) []
    have hact : Timely new (b.begun now) ((act s).run (b.begun now)).2 := by
      by_cases hs : ∃ answer, s = .answer answer
      · obtain ⟨answer, rfl⟩ := hs
        exact timely_act_answer answer (hnew now answer rfl)
      · exact timely_act (fun answer hanswer => hs ⟨answer, hanswer⟩) _
    exact (hbegun.trans hact).trans (timely_settle _)

end Steps

/-! ### Courses -/

/-- What happens to a page, with the two parts of a response apart. -/
inductive Occasion where
  | happening (h : Happening)
  /-- A response comes to the oldest run that waits for one. -/
  | response (response : Response)
  /-- The body of the oldest response that came has been read. -/
  | body

/-- The browser after an occasion. -/
def Occasion.take (b : Browser) : Occasion → Browser
  | happening h => b.happen h
  | response r => ((receive r).run b).2
  | body => (finishReading.run b).2

/-- The browser after occasions. -/
def afterOccasions (b : Browser) (os : List Occasion) : Browser :=
  os.foldl Occasion.take b

/-- What becomes of a page from its first moment on. -/
structure Course where
  surroundings : Surroundings
  trees : Forest
  overrides : ScriptValue
  clock : Float
  occasions : List Occasion

/-- The browser after all that happened. -/
def Course.browser (c : Course) : Browser :=
  (fresh c.surroundings c.trees c.overrides c.clock).afterOccasions c.occasions

section Courses

variable {new : Timer → Prop} {b : Browser}

theorem timely_take (o : Occasion) (b : Browser)
    (hnew : ∀ now answer, o = .happening (.step now (.answer answer)) →
      ∀ t, (b.begun now).IsSentBy t → new t) : Timely new b (o.take b) := by
  cases o with
  | happening h =>
    exact timely_happen h b fun now answer hanswer => hnew now answer (congrArg _ hanswer)
  | response r => exact timely_of_carried fun hb => carried_receive hb r
  | body => exact timely_of_carried fun hb => carried_finishReading hb

theorem timely_afterOccasions (os : List Occasion) (b : Browser) :
    Timely (fun _ => True) b (b.afterOccasions os) := by
  induction os generalizing b with
  | nil => exact isFrame_timely.refl b
  | cons o os ih =>
    exact (timely_take o b fun _ _ _ _ _ => trivial).trans (ih (o.take b))

theorem timedWith_fresh (surroundings : Surroundings) (trees : Forest) (overrides : ScriptValue)
    (clock : Float) :
    TimedWith [] none (fresh surroundings trees overrides clock) := by
  have hnone (n k : Nat) : ¬ (fresh surroundings trees overrides clock).Waits n k := by
    rintro ⟨c, location, h⟩
    cases h
  exact ⟨⟨.nil, nofun⟩, nofun, fun n k _ h => absurd h (hnone n k), nofun,
    fun n k h => absurd h (hnone n k), nofun, .nil⟩

theorem Course.timed (c : Course) : TimedWith c.browser.beginning none c.browser := by
  have hfresh := timedWith_fresh c.surroundings c.trees c.overrides c.clock
  have htimely := timely_afterOccasions c.occasions
    (fresh c.surroundings c.trees c.overrides c.clock)
  exact (htimely hfresh).1

/-- A timer is the same one as long as its run waits for it. -/
theorem mem_afterOccasions {t : Timer} {n : Nat} (h : TimedWith b.beginning none b)
    (ht : t ∈ b.timers) (os : List Occasion) (hwait : (b.afterOccasions os).Waits n t.number) :
    t ∈ (b.afterOccasions os).timers := by
  obtain ⟨htimed, holder⟩ := timely_afterOccasions os b h
  obtain ⟨t', ht', hnumber, -⟩ := htimed.armed n t.number nofun hwait
  -- the timer with that number was there before
  have hold : t' ∈ b.timers :=
    holder.old t' ht' (hnumber ▸ h.numbered.lt_next t ht)
  have hsame : t' = t := h.numbered.eq_of_number hold ht hnumber
  exact hsame ▸ ht'

/-- **The timer of a request is armed as long as its run waits for the response.**  A run waits
if and only if its timer is armed, and it is the same timer all the time.  Such a timer is
armed when a credential is posted, for the time that the settings say.  When it rings, its run
fails, and no other run moves. -/
theorem deadline_kept (c : Course) (n : Nat) :
    (∀ k, c.browser.Waits n k ↔ ∃ t ∈ c.browser.timers, t.number = k ∧ t.aborts? = some n) ∧
    (∀ t ∈ c.browser.timers, ∀ os, (c.browser.afterOccasions os).Waits n t.number →
      t ∈ (c.browser.afterOccasions os).timers) ∧
    (∀ o, ∀ t ∈ (Occasion.take c.browser o).timers, t.aborts? = some n →
      t ∈ c.browser.timers ∨ ∃ now answer, o = .happening (.step now (.answer answer)) ∧
        (c.browser.begun now).IsSentBy t) ∧
    ∀ t ∈ c.browser.timers, t.aborts? = some n → ∀ m,
      ((disarm t.number >>= fun _ => ring t.alarm).run c.browser).2.course? m
        = if m = n then (c.browser.course? n).map fun s => (s.1, .done (.failed aborted.failure))
          else c.browser.course? m := by
  have htimed := c.timed
  refine ⟨fun k => ⟨htimed.armed n k nofun, ?_⟩, fun t ht => mem_afterOccasions htimed ht, ?_,
    fun t ht haborts => course?_ring htimed ht haborts⟩
  · rintro ⟨t, ht, rfl, haborts⟩
    exact htimed.waits t ht n haborts
  · intro o t ht haborts
    have htaken : Timely (fun t => ∃ now answer,
        o = .happening (.step now (.answer answer)) ∧ (c.browser.begun now).IsSentBy t)
        c.browser (o.take c.browser) :=
      timely_take o c.browser fun now answer ho t ht => ⟨now, answer, ho, ht⟩
    exact (htaken htimed).2.sent t ht n haborts

/-! ### Where the timer does not help -/

/-- Whether the request of a run was sent and the run waits, for the response or for its body. -/
def isSent (b : Browser) (n : Nat) : Bool :=
  (b.course? n).any fun c => (submitting? c.2).isSome || (reading? c.2).isSome

/-- Whether a timer is armed that aborts the request of a run. -/
def isGuarded (b : Browser) (n : Nat) : Bool :=
  b.timers.any fun t => t.aborts? == some n

/-- The time that the settings of a run give its request. -/
def timeout? (b : Browser) (n : Nat) : Option Nat :=
  (b.run? n).map fun found => found.2.config.requestTimeout

/-- The delay of a timer that is armed in a call. -/
def Call.delay? : Call → Option Nat
  | .setTimeout delay => some delay
  | _ => none

/-- A credential is posted; then occasions follow. -/
def posted (overrides : ScriptValue) (os : List Occasion) : Course where
  surroundings := goodSurroundings
  trees := authenticationPage
  overrides := overrides
  clock := 0
  occasions := [.happening (.step none .refresh),
    .happening (.step none (.event (.number 1) "click" none .undefined)),
    .happening (.step none (.answer
      (.credential ⟨"", [], "public-key", .assertion [] [] [] none⟩)))] ++ os

/-- **The timer is off too early, and it may ring too early.**  While a body is read that does
not end, no timer is armed; and a timer for a long time is armed for none at all. -/
theorem unguarded_body :
    (¬ ∀ (c : Course) (n : Nat), c.browser.isSent n = true → c.browser.isGuarded n = true) ∧
    ∃ c : Course, c.browser.timeout? 0 = some 0x80000000 ∧ c.browser.isSent 0 = true ∧
      c.browser.calls.filterMap (·.delay?) = [0] := by
  constructor
  · intro hall
    have hguarded := hall (posted .undefined [.response ⟨200, .ok ""⟩]) 0 (by decide +kernel)
    revert hguarded
    decide +kernel
  · exact ⟨posted (.object false [("request_timeout_ms", .text "2147483648")]) [],
      by decide +kernel⟩

end Courses

end Passkey.Browser
