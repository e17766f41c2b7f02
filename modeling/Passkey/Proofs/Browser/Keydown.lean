/-
Passkey/Proofs/Browser/Keydown.lean

What a key feeds.

A key that goes down is heard like a click on its way: by password toggles,
which may show a password, and by the watch of a ceremony, which records it
and may show an error.  The watch feeds the monitor of its own ceremony; the
other ceremonies, the session and the runs stay as they are.  So what matters
of a key is again counted: one feed for every watch that hears it, in this
order (`fed_dispatch`).
-/
import Passkey.Proofs.Browser.Click

namespace Passkey.Browser

/-! ### Feeding monitors -/

/-- An offer whose ceremony records what is pressed at a time. -/
def Offer.record (key : Option String) (time : Float) (o : Offer) : Offer :=
  match key with
  | none => o
  | some key =>
    { o with ceremony :=
        { o.ceremony with monitor := (o.ceremony.monitor.record key time).2 } }

/-- The monitors of ceremonies are fed with a key, one after the other. -/
inductive Feeds (key : Option String) : List Nat → List Offer → List Offer → Prop
  | nil (os : List Offer) : Feeds key [] os os
  | cons {c : Nat} {cs : List Nat} {os os' : List Offer} (time : Float)
    (h : Feeds key cs (os.modify c (·.record key time)) os') : Feeds key (c :: cs) os os'

section Feeds

variable {key : Option String} {c : Nat} {cs cs' : List Nat} {os os' os'' : List Offer}

theorem Feeds.single (time : Float) (h : os' = os.modify c (·.record key time)) :
    Feeds key [c] os os' :=
  .cons time (h ▸ .nil _)

theorem Feeds.append (h : Feeds key cs os os') (h' : Feeds key cs' os' os'') :
    Feeds key (cs ++ cs') os os'' := by
  induction h with
  | nil => exact h'
  | cons time _ ih => exact .cons time (ih h')

end Feeds

/-- The ceremony that a handler watches keys for. -/
def Handler.watched? : Handler → Option Nat
  | .watch c => some c
  | _ => none

/-- Monitors of ceremonies are fed with a key; nothing else becomes of the session. -/
structure Fed (key : Option String) (b : Browser) (cs : List Nat) (b' : Browser) : Prop where
  sound : b'.Sound
  session : b'.session = b.session
  offers : Feeds key cs b.offers b'.offers
  attendants : b'.attendants = b.attendants
  runs : b'.runs = b.runs
  tasks : b'.tasks = b.tasks

section Fed

variable {key : Option String} {b b' b'' : Browser} {cs cs' : List Nat}

theorem Quiet.fed (h : b.Quiet b') : Fed key b [] b' where
  sound := h.sound
  session := h.session
  offers := h.offers ▸ .nil _
  attendants := h.attendants
  runs := h.runs
  tasks := h.tasks

theorem Fed.trans (h : Fed key b cs b') (h' : Fed key b' cs' b'') : Fed key b (cs ++ cs') b'' where
  sound := h'.sound
  session := h'.session.trans h.session
  offers := h.offers.append h'.offers
  attendants := h'.attendants.trans h.attendants
  runs := h'.runs.trans h.runs
  tasks := h'.tasks.trans h.tasks

/-- What a key feeds is known from the listeners of ceremonies. -/
theorem heard_watched (b : Browser) (place : Place) :
    b.heard Handler.watched? "keydown" place
      = (b.attendants.filter (·.hears place "keydown")).filterMap (·.handler.watched?) := by
  refine heard_eq (·.attends?.isSome) (fun k hk => ?_) b "keydown" place
  cases k
  case watch c => cases hk
  all_goals rfl

/-- A ceremony that hears a key shows an error at most. -/
theorem run_keydown (c : Ceremony) (config : Config) (key : String) (now : Float) (h : b.Sound) :
    ((c.keydown (page config) key now).run b).1.2
        = { c with monitor := (c.monitor.record key now).2 } ∧
      b.Quiet ((c.keydown (page config) key now).run b).2 := by
  rw [Ceremony.keydown]
  generalize c.monitor.record key now = recorded
  obtain ⟨warned, monitor⟩ := recorded
  cases warned
  · exact ⟨rfl, .refl h⟩
  · have hshown : Quietly ((page config).note .burst >>= fun _ =>
        (page config).displayError Failure.typing.key) :=
      (quietly_note .burst).bind fun _ => quietly_displayError config _
    exact ⟨rfl, hshown b h⟩

/-- Changes of an entry that agree on what is there. -/
theorem modify_eq_of_getElem? {α : Type} {f g : α → α} {l : List α} {i : Nat} {a : α}
    (h : l[i]? = some a) (ha : f a = g a) : l.modify i f = l.modify i g := by
  refine List.ext_getElem? fun j => ?_
  rw [List.getElem?_modify, List.getElem?_modify]
  by_cases hj : i = j
  · subst hj
    rw [h, Option.map_eq_map, Option.map_some, Option.map_eq_map, Option.map_some, if_pos rfl,
      if_pos rfl, ha]
  · simp only [if_neg hj]

/-- **The watch of a ceremony feeds its monitor**, if the event is one of a key. -/
theorem fed_watch (h : b.Sound) (ev : Event) (c : Nat) :
    Fed ev.key b [c] ((handle ev (.watch c)).run b).2 ∧
      ((handle ev (.watch c)).run b).1.key = ev.key := by
  rw [handle, StateT.run_bind, StateT.run_get, pure_bind]
  rcases hkey : ev.key with - | key
  · -- no key, nothing to record
    have hsame : b.offers = b.offers.modify c (·.record none b.clock) :=
      (List.modify_id c b.offers).symm
    exact ⟨⟨h, rfl, .single b.clock hsame, rfl, rfl, rfl⟩, hkey⟩
  rcases ho : b.offers[c]? with - | o
  · -- no such ceremony, nobody to record it
    have hsame : b.offers = b.offers.modify c (·.record (some key) b.clock) :=
      (List.modify_eq_self (List.getElem?_eq_none_iff.mp ho)).symm
    exact ⟨⟨h, rfl, .single b.clock hsame, rfl, rfl, rfl⟩, hkey⟩
  · -- the ceremony is put back with its monitor changed, into offers that are as they were
    obtain ⟨hceremony, hq⟩ := run_keydown o.ceremony o.config key b.clock h
    dsimp only
    rw [StateT.run_bind]
    generalize (o.ceremony.keydown (page o.config) key b.clock).run b = heard at hceremony hq ⊢
    obtain ⟨⟨warned, ceremony⟩, b'⟩ := heard
    have hrecorded : b'.offers.modify c (fun o => { o with ceremony })
        = b.offers.modify c (·.record (some key) b.clock) := by
      rw [hq.offers]
      refine modify_eq_of_getElem? ho ?_
      rw [show ceremony = _ from hceremony]
      rfl
    exact ⟨⟨⟨hq.sound.numbered, hq.sound.made⟩, hq.session, .single b.clock hrecorded,
      hq.attendants, hq.runs, hq.tasks⟩, hkey⟩

theorem quietly_press (icon : Nat) (ev : Event) : Quietly (handle ev (.press icon)) := by
  rw [handle]
  split
  · exact quietly_pure _
  · split
    · exact (quietly_togglePassword icon).bind fun _ => quietly_pure _
    · exact quietly_pure _

theorem key_press (icon : Nat) (ev : Event) (b : Browser) :
    ((handle ev (.press icon)).run b).1.key = ev.key := by
  rw [handle]
  split
  · rfl
  · split
    · rw [StateT.run_bind]
      rfl
    · rfl

/-- **A handler of keys feeds a monitor if it is a watch.** -/
theorem fed_handle (h : b.Sound) {k : Handler} (hk : "keydown" ∈ k.events) (ev : Event) :
    Fed ev.key b k.watched?.toList ((handle ev k).run b).2 ∧
      ((handle ev k).run b).1.key = ev.key := by
  cases k
  case watch c => exact fed_watch h ev c
  case press icon => exact ⟨(quietly_press icon ev b h).fed, key_press icon ev b⟩
  all_goals simp [Handler.events] at hk

/-- **Keys add up**: a monitor is fed for every watch that hears them. -/
theorem addsUp_keydown : AddsUp Handler.watched? "keydown" fun cs x y =>
    Fed x.1.key x.2 cs y.2 ∧ y.1.key = x.1.key where
  sound h := h.1.sound
  heard h := by
    funext place
    rw [heard_watched, heard_watched, h.1.attendants]
  quiet _ _ _ h := ⟨h.fed, rfl⟩
  trans := by
    rintro cs cs' x y z ⟨hfirst, hkey⟩ ⟨hrest, hlast⟩
    rw [hkey] at hrest hlast
    exact ⟨hfirst.trans hrest, hlast⟩
  handle ev _ _ h hk := fed_handle h hk ev

theorem fed_dispatch (h : b.Sound) (place : Place) (key : Option String) (detail : ScriptValue) :
    Fed key b
      ((route b.document "keydown" place).flatMap (b.heard Handler.watched? "keydown"))
      ((dispatch place "keydown" key detail).run b).2 :=
  (addsUp_keydown.dispatch place key detail h).1

end Fed

end Passkey.Browser
