/-
Passkey/Proofs/Browser/Attendance.lean

Which ceremony hears keys and clicks.

On a visit anything may happen: load hooks, events, answers, and changes of the
document by whichever script.  Ceremonies are made by load hooks that find a
trigger ready, and all of them are kept, but one at most has listeners: that of
the last ready trigger, unless a later hook found no trigger or options that
cannot be used.  Load hooks add to this record what their verdicts say, and
everything else is an aside (`Served.after_happening`).  So a key feeds the
monitor of that ceremony alone, and a click starts a run of it or none
(`one_ceremony_attends`).

An old trigger is still an element of the page.  If it lies inside the trigger
of the session, a click on it passes that one, and starts a run of the session's
ceremony (`nested_trigger`).
-/
import Passkey.Proofs.Browser.Aside
import Passkey.Proofs.Browser.Keydown
import Passkey.Proofs.Browser.Stay

namespace Passkey.Browser

/-! ### Visits -/

/-- Whether a happening is fair: steps are, and so is any change of the document that gives no
number twice. -/
def Happening.IsFair : Happening → Prop
  | step _ _ => True
  | rearrange change => ∀ d : Document, d.WellNumbered → (change d).WellNumbered

/-- A visit to a page: what does not change, what the page holds at first, what overrides its
settings, the time at first, and what happens. -/
structure Visit where
  surroundings : Surroundings
  trees : Forest
  overrides : ScriptValue
  clock : Float
  happenings : List Happening
  fair : ∀ h ∈ happenings, h.IsFair

namespace Visit

/-- The browser at first. -/
def arrival (v : Visit) : Browser :=
  fresh v.surroundings v.trees v.overrides v.clock

/-- The browser in the end. -/
def browser (v : Visit) : Browser :=
  v.arrival.after v.happenings

/-- The verdicts of all load hooks. -/
def verdicts (v : Visit) : List Verdict :=
  v.arrival.verdictsAlong v.happenings

end Visit

/-! ### What happenings leave to listeners -/

/-- What load hooks with verdicts leave to the session, whatever else happened. -/
structure Served (vs : List Verdict) (b : Browser) : Prop where
  sound : b.Sound
  attended : b.Attended (wiredAfter vs)
  made : b.offers.length = vs.countP (·.isReady)

section Served

variable {vs : List Verdict} {b b' : Browser}

theorem Served.attended_of {t : Option Nat} (h : Served vs b) (ht : wiredAfter vs = t) :
    b.Attended t :=
  ht ▸ h.attended

theorem Aside.served (h : b.Aside b') (hs : Served vs b) : Served vs b' where
  sound := h.sound
  attended := hs.attended.congr h.session h.offers h.attendants
  made := h.offers.trans hs.made

theorem Hooked.served {v : Verdict} (h : b.Hooked v b') (hs : Served vs b) :
    Served (vs ++ [v]) b' where
  sound := h.sound
  attended := by
    rw [wiredAfter_snoc]
    exact h.attended _ hs.attended
  made := by
    rw [h.offers, hs.made, List.countP_append, List.countP_singleton]
    cases v.isReady <;> rfl

theorem isRecord_served : IsRecord Served :=
  ⟨fun h => h.sound, fun h hq => hq.aside.served h, fun h hv => hv.served h⟩

/-! ### Steps -/

/-- Nothing but events of loading runs load hooks. -/
theorem hooks_eq_nil (h : b.Sound) {type : String} (htype : ¬ IsLoading type) :
    b.hooks type = [] := by
  rw [hooks, List.filterMap_eq_nil_iff]
  exact fun l hl => hook?_eq_none_of_mem_events (h.mem_events_of_hearing hl) htype

theorem verdicts_of_not_isPlain (h : b.Sound) {s : Step} (hs : ¬ s.IsPlain) :
    s.verdicts b = [] := by
  cases s
  case start => exact absurd .start hs
  case refresh => exact absurd .refresh hs
  case event target type key detail =>
    have htype : ¬ IsLoading type := fun htype => hs (.event target type key detail htype)
    rw [Step.verdicts]
    split
    · rfl
    · rw [hooks_eq_nil h htype, Browser.verdicts, ite_self]
  all_goals rfl

theorem asidely_atTarget {action : Place → StateM Browser Result}
    (h : ∀ place, Asidely (action place)) (target : Target) : Asidely (atTarget target action) := by
  refine asidely_get.bind fun b => ?_
  split
  · exact asidely_pure _
  · exact h _

/-- **What is not plain is an aside.** -/
theorem asidely_act {s : Step} (hs : ¬ s.IsPlain) : Asidely (act s) := by
  cases s
  case start => exact absurd .start hs
  case refresh => exact absurd .refresh hs
  case insert target trees => exact absurd (.insert target trees) hs
  case remove target => exact absurd (.remove target) hs
  case fill target files value => exact absurd (.fill target files value) hs
  case setGlobal name value => exact absurd (.setGlobal name value) hs
  case event target type key detail =>
    have htype : ¬ IsLoading type := fun htype => hs (.event target type key detail htype)
    exact asidely_atTarget (fun place => (asidely_dispatch htype place key detail).bind fun _ =>
      asidely_pure _) target
  case keys strokes => exact (asidely_press strokes).bind fun _ => asidely_pure _
  case advance milliseconds => exact (asidely_advance milliseconds).bind fun _ => asidely_pure _
  case answer answer => exact (asidely_answerPlatform _).bind fun _ => asidely_pure _
  case reject thrown => exact (asidely_answerPlatform _).bind fun _ => asidely_pure _
  case respond response => exact (asidely_answerRequest response).bind fun _ => asidely_pure _
  case breakRequest fault => exact (asidely_breakRequest fault).bind fun _ => asidely_pure _
  case setAttribute target args =>
    exact asidely_atTarget (fun place => (asidely_callSetAttribute place args).bind fun _ =>
      asidely_pure _) target
  case applyStyle target style =>
    refine asidely_atTarget (fun place => asidely_get.bind fun b => ?_) target
    split
    · exact asidely_pure _
    · exact (asidely_applyStyle _ _).bind fun _ => asidely_pure _

theorem Served.act (h : Served vs b) (s : Step) :
    Served (vs ++ s.verdicts b) ((act s).run b).2 := by
  by_cases hs : s.IsPlain
  · exact adds_act hs b Served isRecord_served vs h
  · rw [verdicts_of_not_isPlain h.sound hs, List.append_nil]
    exact (asidely_act hs b h.sound).served h

/-- **A step adds its verdicts to the record**, and so do the tasks behind it. -/
theorem Served.after_step (h : Served vs b) (now : Option Float) (s : Step) :
    Served (vs ++ s.verdicts { b with clock := now.getD b.clock, calls := [] })
      (step now s b).2 := by
  have hbegun : Served vs { b with clock := now.getD b.clock, calls := [] } :=
    ⟨⟨h.sound.numbered, h.sound.made⟩, h.attended, h.made⟩
  have hacted := hbegun.act s
  -- runs that begin now were started by this step, whichever ceremony they are of
  exact (asidely_settle _ hacted.sound).served hacted

/-- **What happens adds its verdicts to the record.** -/
theorem Served.after_happening (h : Served vs b) {a : Happening} (ha : a.IsFair) :
    Served (vs ++ a.verdicts b) (b.happen a) := by
  cases a with
  | step now s => exact h.after_step now s
  | rearrange change =>
    rw [Happening.verdicts, List.append_nil]
    exact ⟨⟨ha b.document h.sound.numbered, h.sound.made⟩, h.attended, h.made⟩

theorem Visit.served (v : Visit) : Served v.verdicts v.browser := by
  have hfresh : Served [] v.arrival :=
    ⟨sound_fresh v.surroundings v.trees v.overrides v.clock, ⟨rfl, rfl⟩, rfl⟩
  exact record_after (fun h ha => h.after_happening ha) hfresh v.fair

end Served

/-! ### Keys and clicks -/

/-- One ceremony at most has listeners, and neither keys nor clicks reach another one. -/
structure Exclusive (vs : List Verdict) (b : Browser) : Prop where
  /-- The listeners are those of the newest ceremony, if there are any. -/
  attended : b.Attended (wiredAfter vs)
  /-- Ceremonies are made by ready triggers and are never lost, so the newest one belongs to the
  last ready trigger. -/
  made : b.offers.length = vs.countP (·.isReady)
  /-- A key feeds the monitor of the session's ceremony if it gets to the document, and no other
  monitor. -/
  fed : ∀ (place : Place) (key : Option String) (detail : ScriptValue),
    Fed key b
      (if .document ∈ route b.document "keydown" place then b.session.toList else [])
      ((dispatch place "keydown" key detail).run b).2
  /-- A click that passes the trigger of the session starts one run of the session's ceremony. -/
  called : ∀ (place : Place) (key : Option String) (detail : ScriptValue) (n : Nat),
    wiredAfter vs = some n → .element n ∈ route b.document "click" place →
      ∃ c, b.session = some c ∧ b.Called [c] ((dispatch place "click" key detail).run b).2
  /-- Any other click starts no run and leaves every ceremony as it is. -/
  idle : ∀ (place : Place) (key : Option String) (detail : ScriptValue),
    (∀ n, wiredAfter vs = some n → .element n ∉ route b.document "click" place) →
      b.Called [] ((dispatch place "click" key detail).run b).2

section Exclusive

variable {b : Browser} {t : Option Nat}

/-- Keys are watched at the document, for the ceremony of the session. -/
theorem heard_of_attended (h : b.Attended t) (place : Place) :
    b.heard Handler.watched? "keydown" place
      = if place = .document then b.session.toList else [] := by
  rw [heard_watched]
  cases t with
  | none =>
    -- no ceremony has a listener
    obtain ⟨hs, ha⟩ := h
    rw [ha, hs, Option.toList_none, ite_self]
    rfl
  | some n =>
    -- of the two listeners one hears keys, and it is at the document
    obtain ⟨c, hs, -, ha⟩ := h
    rw [ha, hs]
    by_cases hp : place = .document
    · simp [hp, Listener.hears, Handler.watched?]
    · simp [hp, Listener.hears, Ne.symm hp]

theorem fed_of_attended (hb : b.Sound) (h : b.Attended t) (place : Place) (key : Option String)
    (detail : ScriptValue) :
    Fed key b (if .document ∈ route b.document "keydown" place then b.session.toList else [])
      ((dispatch place "keydown" key detail).run b).2 := by
  have hfed := fed_dispatch hb place key detail
  rwa [funext (heard_of_attended h), flatMap_route hb.numbered] at hfed

/-- A run that is started is one more. -/
theorem Called.runs_ne {b' : Browser} {c : Nat} (h : b.Called [c] b') : b'.runs ≠ b.runs := by
  intro hsame
  have hlength := congrArg List.length (h.runs.symm.trans hsame)
  rw [List.length_append, List.length_map, List.length_singleton] at hlength
  exact Nat.succ_ne_self _ hlength

/-- A click that passes the trigger of the session starts one run. -/
theorem called_of_attended {n : Nat} (hb : b.Sound) (h : b.Attended (some n)) {place : Place}
    (hpassed : .element n ∈ route b.document "click" place) (key : Option String)
    (detail : ScriptValue) :
    ∃ c, b.session = some c ∧ b.Called [c] ((dispatch place "click" key detail).run b).2 := by
  obtain ⟨c, hsession, -, hactivations⟩ := h.wired
  have hcalled := (called_passing hb hactivations place key detail).1
  rw [if_pos hpassed] at hcalled
  exact ⟨c, hsession, hcalled⟩

/-- Any other click starts none, whether there is a session or not. -/
theorem called_nil_of_attended (hb : b.Sound) (h : b.Attended t) {place : Place}
    (hmissed : ∀ n, t = some n → .element n ∉ route b.document "click" place)
    (key : Option String) (detail : ScriptValue) :
    b.Called [] ((dispatch place "click" key detail).run b).2 := by
  cases t with
  | none =>
    -- without a session nothing starts runs anywhere
    have hnone : b.clicked = fun _ => [] := by
      funext place
      rw [clicked_eq, h.wired.2]
      rfl
    have hcalled := (called_dispatch hb place key detail).1
    rwa [hnone, List.flatMap_eq_nil_iff.mpr fun _ _ => rfl] at hcalled
  | some n =>
    obtain ⟨c, -, -, hactivations⟩ := h.wired
    have hcalled := (called_passing hb hactivations place key detail).1
    rwa [if_neg (hmissed n rfl)] at hcalled

/-- **One ceremony at most hears keys and clicks**, and it is the one that the last ready trigger
made: whatever happens on a visit, older ceremonies hear nothing any more. -/
theorem one_ceremony_attends (v : Visit) : Exclusive v.verdicts v.browser := by
  obtain ⟨hsound, hattended, hmade⟩ := v.served
  refine ⟨hattended, hmade, fed_of_attended hsound hattended, ?_, ?_⟩
  · intro place key detail n hn hpassed
    exact called_of_attended hsound (v.served.attended_of hn) hpassed key detail
  · intro place key detail hmissed
    exact called_nil_of_attended hsound hattended hmissed key detail

/-! ### A trigger inside another one -/

/-- A page with the trigger of an authentication inside a box, and options that suit both
modes. -/
def nestedPage : Forest :=
  .tree ⟨0, "input", [("id", "webauthn-options")], [], "",
      "\x7b\"challenge\":\"\",\"user\":\x7b\"id\":\"\"\x7d\x7d", false, [], []⟩ .empty
    (.tree ⟨0, "div", [], [], "", "", false, [], []⟩
      (.tree ⟨0, "button", [("id", "webauthn-authenticate")], [], "", "", false, [], []⟩
        .empty .empty) .empty)

/-- The trigger is claimed, and then its box becomes the trigger of a registration. -/
def nested : Visit where
  surroundings := ⟨"https://a.example/", none, true, true, false, true, [], .works, .succeeds⟩
  trees := nestedPage
  overrides := .undefined
  clock := 0
  happenings := [.step none .refresh,
    .step none (.setAttribute (.number 1) [.text "id", .text "webauthn-register"]),
    .step none .refresh]
  fair := by
    simp only [List.forall_mem_cons, Happening.IsFair, true_and]
    exact nofun

/-- **A click on an old trigger can start a run**: it passes the trigger of the session, in which
the old one lies. -/
theorem nested_trigger :
    ¬ ∀ (v : Visit) (n : Nat) (key : Option String) (detail : ScriptValue),
      .ready n ∈ v.verdicts → wiredAfter v.verdicts ≠ some n →
        ((dispatch (.element n) "click" key detail).run v.browser).2.runs = v.browser.runs := by
  intro hall
  have hverdicts : nested.verdicts = [.ready 2, .ready 1] := by decide +kernel
  have hready : .ready 2 ∈ nested.verdicts := by
    rw [hverdicts]
    exact List.mem_cons_self
  have hreplaced : wiredAfter nested.verdicts ≠ some 2 := by
    rw [hverdicts]
    decide
  have hruns := hall nested 2 none .undefined hready hreplaced
  -- the session belongs to the box, and the click passes it
  have hwired : wiredAfter nested.verdicts = some 1 := by
    rw [hverdicts]
    decide
  have hattended := nested.served.attended_of hwired
  have hpassed : .element 1 ∈ route nested.browser.document "click" (.element 2) := by
    decide +kernel
  obtain ⟨c, -, hcalled⟩ :=
    called_of_attended nested.served.sound hattended hpassed none .undefined
  exact hcalled.runs_ne hruns

end Exclusive

end Passkey.Browser
