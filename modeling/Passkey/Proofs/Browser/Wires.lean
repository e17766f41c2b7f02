/-
Passkey/Proofs/Browser/Wires.lean

What listens at a widget, however often the load hook comes.

A visit is a sequence of load hooks and of changes that scripts make to the
page.  Scripts may do what they like as long as they leave marks alone: no
element loses one, and none comes with one.  The hooks that find an element
playing a part are a ledger of the visit, and the ledger alone says what
listens at the element: nothing before the first of them, and the listeners of
the part once from then on (`Tour.wires`).
-/
import Passkey.Proofs.Browser.Binding
import Passkey.Proofs.Browser.Stay

namespace Passkey.Browser

/-! ### One load hook -/

/-- The page on which a load hook binds the widgets: the ceremony is offered before. -/
def offered (b : Browser) (config : Config) : Document :=
  ((offerCeremony config).run b).2.document

/-- A load hook finds an element playing a part. -/
def Finds (b : Browser) (config : Config) (n : Nat) (part : Part) : Prop :=
  b.missingPart? = none ∧ (b.offered config).Plays n part

/-- A load hook has to do with an element because of one part only: the element is not the
trigger, it plays no other part, and it can be marked. -/
structure Singles (b : Browser) (config : Config) (n : Nat) (part : Part) : Prop where
  trigger : ∀ mode e, b.document.trigger? config = some (mode, e) → e.number ≠ n
  only : PlaysOnly (b.offered config) n part
  markable : (b.offered config).Markable n

instance (b : Browser) (config : Config) (n : Nat) (part : Part) :
    Decidable (b.Finds config n part) :=
  inferInstanceAs (Decidable (_ ∧ _))

instance (b : Browser) (config : Config) (n : Nat) (part : Part) :
    Decidable (b.Singles config n part) :=
  decidable_of_iff
    ((∀ found ∈ b.document.trigger? config, found.2.number ≠ n) ∧
      PlaysOnly (b.offered config) n part ∧ (b.offered config).Markable n)
    ⟨fun h => ⟨fun mode e ht => h.1 (mode, e) ht, h.2.1, h.2.2⟩,
      fun h => ⟨fun found ht => h.trigger found.1 found.2 ht, h.only, h.markable⟩⟩

section Hook

variable {b b' : Browser} {config : Config} {n : Nat} {part : Part}

/-- A load hook that lacks something does nothing. -/
theorem spared_load_of_missing (config : Config) (hb : b.document.WellNumbered)
    (hm : b.missingPart?.isSome = true) : Spared n b ((load config).run b).2 := by
  obtain ⟨failure, hfailure⟩ := Option.isSome_iff_exists.mp hm
  have hR := isFrame_keepsMarkOf n
  have hlogs : Stays (Along (Document.Alike (KeepsMarkOf n)))
      (log .loading .error ("WebAuthn setup failed: " ++ failure.message) [] >>= fun _ =>
        log .loading .error ("Widget setup failed: " ++ noDocument.message) []) :=
    stays_bind hR (stays_log hR _ _ _ _) fun _ => stays_log hR _ _ _ _
  rw [run_load_unavailable hfailure]
  exact spared_of_along hb (hlogs b)

/-- A load hook binds the widgets behind the offer. -/
theorem exists_load_eq (hb : (b.offered config).WellNumbered) (hm : b.missingPart? = none) :
    ∃ b', ((load config).run b).2 = (bindAll.run b').2 ∧ b'.document = b.offered config ∧
      Spared n ((offerCeremony config).run b).2 b' := by
  rw [run_load hm, StateT.run_bind]
  rcases hoffer : (offerCeremony config).run b with ⟨failure, b₁⟩
  have hdocument : b₁.document = b.offered config := by
    rw [offered, hoffer]
  cases failure with
  | none => exact ⟨b₁, rfl, hdocument, spared_of_same rfl rfl rfl⟩
  | some failure =>
    have hlog := stays_log (isFrame_keepsMarkOf n) .loading .error
      ("WebAuthn setup failed: " ++ failure.message) [] b₁
    refine ⟨_, ?_, (document_log _ _ _ _ b₁).trans hdocument,
      spared_of_along (hdocument ▸ hb) hlog⟩
    show (StateT.run (finish (some failure)) b₁).2 = _
    rw [finish, StateT.run_bind]
    rfl

/-- **What bears the mark is passed over** by a load hook. -/
theorem load_of_marked (config : Config) (h : b.Sound) (hyes : b.document.Marked n)
    (hunattended : b.IsUnattended n) :
    ((load config).run b).2.document.Marked n ∧
      ((load config).run b).2.wires n = b.wires n ∧
      ((load config).run b).2.resendTimers n = b.resendTimers n := by
  cases hm : b.missingPart? with
  | some failure =>
    have hspared := spared_load_of_missing (n := n) config h.numbered
      (Option.isSome_of_eq_some hm)
    exact ⟨hspared.marked hyes, hspared.wires, hspared.timers⟩
  | none =>
    have hoffer := spared_offerCeremony config h hunattended fun mode e ht hn =>
      hyes.2 e (List.mem_append_left _ (mem_of_trigger? ht)) hn
    have hb := hoffer.document.wellNumbered (isLikeness_keepsMarkOf n) h.numbered
    obtain ⟨b', hload, hdocument, hspared⟩ := exists_load_eq (n := n) hb hm
    have hall := hoffer.trans hspared
    have hbind := bindAll_of_marked (hdocument ▸ hb) (hall.marked hyes)
    rw [hload]
    exact ⟨hbind.marked (hall.marked hyes), hbind.wires.trans hall.wires,
      hbind.timers.trans hall.timers⟩

/-- **A load hook that finds an element binds it**, and no other load hook touches it. -/
theorem load_of_unmarked (h : b.Sound) (hno : b.document.Unmarked n)
    (hunattended : b.IsUnattended n) (hsingles : b.Singles config n part) :
    (b.Finds config n part →
        ((load config).run b).2.document.Marked n ∧
          ((load config).run b).2.wires n = b.wires n ++ part.wires n ∧
          ∃ ts : List Timer, ((load config).run b).2.resendTimers n = b.resendTimers n ++ ts ∧
            ts.length ≤ part.timers) ∧
      (¬ b.Finds config n part →
        ((load config).run b).2.document.Unmarked n ∧
          ((load config).run b).2.wires n = b.wires n ∧
          ((load config).run b).2.resendTimers n = b.resendTimers n) := by
  cases hm : b.missingPart? with
  | some failure =>
    have hspared := spared_load_of_missing (n := n) config h.numbered
      (Option.isSome_of_eq_some hm)
    refine ⟨fun hfinds => ?_, fun _ => ⟨hspared.unmarked hno, hspared.wires, hspared.timers⟩⟩
    rw [Finds, hm] at hfinds
    cases hfinds.1
  | none =>
    have hoffer := spared_offerCeremony config h hunattended fun mode e ht hn =>
      absurd hn (hsingles.trigger mode e ht)
    have hb := hoffer.document.wellNumbered (isLikeness_keepsMarkOf n) h.numbered
    obtain ⟨b', hload, hdocument, hspared⟩ := exists_load_eq (n := n) hb hm
    have hall := hoffer.trans hspared
    have honly := hsingles.only
    have hmay := hsingles.markable
    rw [← hdocument] at honly hmay
    obtain ⟨hbound, huntouched⟩ :=
      bindAll_of_unmarked (hdocument ▸ hb) honly (hall.unmarked hno) hmay
    rw [hload, Finds, ← hdocument]
    refine ⟨fun hfinds => ?_, fun hnone => ?_⟩
    · have hhere := hbound hfinds.2
      have htimers := hhere.timers
      rw [hall.timers] at htimers
      exact ⟨hhere.marked, hhere.wires.trans (congrArg (· ++ _) hall.wires), htimers⟩
    · have hhere := huntouched fun hplays => hnone ⟨hm, hplays⟩
      exact ⟨hhere.unmarked (hall.unmarked hno), hhere.wires.trans hall.wires,
        hhere.timers.trans hall.timers⟩

theorem isUnattended_of_wires (h : b.IsUnattended n) (hwires : b'.wires n = b.wires n) :
    b'.IsUnattended n := by
  intro w hw
  rw [hwires] at hw
  exact h w hw

theorem attends?_eq_none_of_part (part : Part) {w : String × Handler} (h : w ∈ part.wires n) :
    w.2.attends? = none := by
  cases part with
  | resendButton => cases h
  | widget role =>
    cases role
    case passwordToggle =>
      rcases List.mem_cons.mp h with rfl | h
      · rfl
      · rw [List.mem_singleton.mp h]
        rfl
    all_goals
      rw [List.mem_singleton.mp h]
      rfl

end Hook

/-! ### Visits -/

/-- What happens on a visit. -/
inductive Turn where
  /-- A load hook runs, with settings. -/
  | hook (config : Config)
  /-- Scripts change the page. -/
  | change (edit : Document → Document)

/-- A change of the page that leaves marks alone: what was there keeps its mark or its lack of
one, and nothing comes with a mark. -/
structure Document.RespectsMarks (d d' : Document) : Prop where
  wellNumbered : d'.WellNumbered
  next_le : d.next ≤ d'.next
  old : ∀ e' ∈ d'.elements, e'.number < d.next →
    ∃ e ∈ d.elements, e.number = e'.number ∧ e'.isClaimed = e.isClaimed
  fresh : ∀ e' ∈ d'.elements, d.next ≤ e'.number → e'.isClaimed = false

instance (d d' : Document) : Decidable (d.RespectsMarks d') :=
  decidable_of_iff
    (d'.WellNumbered ∧ d.next ≤ d'.next ∧
      (∀ e' ∈ d'.elements, e'.number < d.next →
        ∃ e ∈ d.elements, e.number = e'.number ∧ e'.isClaimed = e.isClaimed) ∧
      ∀ e' ∈ d'.elements, d.next ≤ e'.number → e'.isClaimed = false)
    ⟨fun h => ⟨h.1, h.2.1, h.2.2.1, h.2.2.2⟩,
      fun h => ⟨h.wellNumbered, h.next_le, h.old, h.fresh⟩⟩

namespace Turn

variable {b : Browser} {n : Nat} {part : Part}

/-- The browser after a turn. -/
def take (b : Browser) : Turn → Browser
  | hook config => ((load config).run b).2
  | change edit => { b with document := edit b.document }

/-- A turn that leaves marks alone, and has to do with an element because of one part only as long
as the element bears no mark. -/
def Suits (n : Nat) (part : Part) (b : Browser) : Turn → Prop
  | hook config => b.document.Unmarked n → b.Singles config n part
  | change edit => b.document.RespectsMarks (edit b.document)

/-- A load hook that finds an element playing a part. -/
def Finds (n : Nat) (part : Part) (b : Browser) : Turn → Prop
  | hook config => b.Finds config n part
  | change _ => False

instance (n : Nat) (part : Part) (b : Browser) : (t : Turn) → Decidable (t.Suits n part b)
  | hook config => inferInstanceAs (Decidable (_ → b.Singles config n part))
  | change edit => inferInstanceAs (Decidable (b.document.RespectsMarks (edit b.document)))

instance (n : Nat) (part : Part) (b : Browser) : (t : Turn) → Decidable (t.Finds n part b)
  | hook config => inferInstanceAs (Decidable (b.Finds config n part))
  | change _ => inferInstanceAs (Decidable False)

end Turn

/-- The browser after turns. -/
def afterTurns (b : Browser) (turns : List Turn) : Browser :=
  turns.foldl Turn.take b

/-- Every turn has a property, at the moment when it comes. -/
def EachTurn (P : Browser → Turn → Prop) (b : Browser) : List Turn → Prop
  | [] => True
  | t :: rest => P b t ∧ (t.take b).EachTurn P rest

/-- Some turn has a property, at the moment when it comes. -/
def SomeTurn (P : Browser → Turn → Prop) (b : Browser) : List Turn → Prop
  | [] => False
  | t :: rest => P b t ∨ (t.take b).SomeTurn P rest

instance decidableEachTurn (P : Browser → Turn → Prop) [∀ b t, Decidable (P b t)] (b : Browser) :
    (turns : List Turn) → Decidable (b.EachTurn P turns)
  | [] => inferInstanceAs (Decidable True)
  | t :: rest =>
    have := decidableEachTurn P (t.take b) rest
    inferInstanceAs (Decidable (P b t ∧ (t.take b).EachTurn P rest))

instance decidableSomeTurn (P : Browser → Turn → Prop) [∀ b t, Decidable (P b t)] (b : Browser) :
    (turns : List Turn) → Decidable (b.SomeTurn P turns)
  | [] => inferInstanceAs (Decidable False)
  | t :: rest =>
    have := decidableSomeTurn P (t.take b) rest
    inferInstanceAs (Decidable (P b t ∨ (t.take b).SomeTurn P rest))

section Visits

variable {b : Browser} {n : Nat} {part : Part} {turns : List Turn}

theorem Document.RespectsMarks.unmarked {d d' : Document} (h : d.RespectsMarks d')
    (hno : d.Unmarked n) : d'.Unmarked n := by
  intro e' he' hn
  by_cases hold : e'.number < d.next
  · obtain ⟨e, he, hnumber, hmark⟩ := h.old e' he' hold
    rw [hmark]
    exact hno e he (hnumber.trans hn)
  · exact h.fresh e' he' (Nat.le_of_not_lt hold)

theorem Document.RespectsMarks.marked {d d' : Document} (h : d.RespectsMarks d')
    (hyes : d.Marked n) : d'.Marked n := by
  refine ⟨Nat.lt_of_lt_of_le hyes.1 h.next_le, fun e' he' hn => ?_⟩
  obtain ⟨e, he, hnumber, hmark⟩ := h.old e' he' (hn.symm ▸ hyes.1)
  rw [hmark]
  exact hyes.2 e he (hnumber.trans hn)

/-- A turn keeps browsers sound. -/
theorem Turn.sound_take {t : Turn} (h : b.Sound) (ht : t.Suits n part b) : (t.take b).Sound := by
  cases t with
  | hook config => exact (hooked_load h config).sound
  | change edit => exact ⟨ht.wellNumbered, h.made⟩

/-- **What bears the mark gets no more listeners**, whatever comes. -/
theorem afterTurns_of_marked (h : b.Sound) (hyes : b.document.Marked n)
    (hunattended : b.IsUnattended n) (hsuits : b.EachTurn (Turn.Suits n part) turns) :
    (b.afterTurns turns).document.Marked n ∧ (b.afterTurns turns).wires n = b.wires n ∧
      (b.afterTurns turns).resendTimers n = b.resendTimers n := by
  induction turns generalizing b with
  | nil => exact ⟨hyes, rfl, rfl⟩
  | cons t turns ih =>
    obtain ⟨hfirst, hrest⟩ := hsuits
    have hkept : (t.take b).document.Marked n ∧ (t.take b).wires n = b.wires n ∧
        (t.take b).resendTimers n = b.resendTimers n := by
      cases t with
      | hook config => exact load_of_marked config h hyes hunattended
      | change edit => exact ⟨hfirst.marked hyes, rfl, rfl⟩
    obtain ⟨hmarked, hwires, htimers⟩ := hkept
    obtain ⟨hmarked', hwires', htimers'⟩ := ih (Turn.sound_take h hfirst) hmarked
      (isUnattended_of_wires hunattended hwires) hrest
    exact ⟨hmarked', hwires'.trans hwires, htimers'.trans htimers⟩

/-- **An element is bound when it is found first**, and not before. -/
theorem afterTurns_of_unmarked (h : b.Sound) (hno : b.document.Unmarked n)
    (hunattended : b.IsUnattended n) (hsuits : b.EachTurn (Turn.Suits n part) turns) :
    (b.SomeTurn (Turn.Finds n part) turns →
        (b.afterTurns turns).document.Marked n ∧
          (b.afterTurns turns).wires n = b.wires n ++ part.wires n ∧
          ∃ ts : List Timer, (b.afterTurns turns).resendTimers n = b.resendTimers n ++ ts ∧
            ts.length ≤ part.timers) ∧
      (¬ b.SomeTurn (Turn.Finds n part) turns →
        (b.afterTurns turns).wires n = b.wires n ∧
          (b.afterTurns turns).resendTimers n = b.resendTimers n) := by
  induction turns generalizing b with
  | nil => exact ⟨nofun, fun _ => ⟨rfl, rfl⟩⟩
  | cons t turns ih =>
    obtain ⟨hfirst, hrest⟩ := hsuits
    have hsound := Turn.sound_take h hfirst
    have hunmarked : ¬ t.Finds n part b → (t.take b).document.Unmarked n ∧
        (t.take b).wires n = b.wires n ∧ (t.take b).resendTimers n = b.resendTimers n := by
      intro hnone
      cases t with
      | hook config =>
        exact (load_of_unmarked h hno hunattended (hfirst hno)).2 hnone
      | change edit => exact ⟨hfirst.unmarked hno, rfl, rfl⟩
    by_cases hfinds : t.Finds n part b
    · -- bound now, and left alone from now on
      cases t with
      | change edit => cases hfinds
      | hook config =>
        obtain ⟨hmarked', hwires, ts, hts, hlength⟩ :=
          (load_of_unmarked h hno hunattended (hfirst hno)).1 hfinds
        have hunattended' : IsUnattended ((Turn.hook config).take b) n := by
          intro w hw
          have hw' : w ∈ b.wires n ++ part.wires n := hwires ▸ hw
          rcases List.mem_append.mp hw' with hw | hw
          · exact hunattended w hw
          · exact attends?_eq_none_of_part part hw
        obtain ⟨hmarked'', hwires', htimers'⟩ :=
          afterTurns_of_marked hsound hmarked' hunattended' hrest
        refine ⟨fun _ => ⟨hmarked'', hwires'.trans hwires, ts, htimers'.trans hts, hlength⟩, ?_⟩
        intro hnone
        exact absurd (.inl hfinds) hnone
    · obtain ⟨hno', hwires, htimers⟩ := hunmarked hfinds
      obtain ⟨hfound, hnever⟩ := ih hsound hno' (isUnattended_of_wires hunattended hwires) hrest
      rw [hwires, htimers] at hfound hnever
      refine ⟨?_, ?_⟩
      · rintro (hthis | hlater)
        · exact absurd hthis hfinds
        · exact hfound hlater
      · intro hnone
        exact hnever fun hlater => hnone (.inr hlater)

theorem sound_afterTurns (h : b.Sound) (hsuits : b.EachTurn (Turn.Suits n part) turns) :
    (b.afterTurns turns).Sound := by
  induction turns generalizing b with
  | nil => exact h
  | cons t turns ih => exact ih (Turn.sound_take h hsuits.1) hsuits.2

end Visits

/-- A visit from its first page on. -/
structure Tour where
  surroundings : Surroundings
  trees : Forest
  overrides : ScriptValue
  clock : Float
  turns : List Turn

namespace Tour

/-- The browser at the arrival. -/
def arrival (t : Tour) : Browser :=
  fresh t.surroundings t.trees t.overrides t.clock

/-- The browser after all that happened. -/
def browser (t : Tour) : Browser :=
  t.arrival.afterTurns t.turns

/-- Some load hook found an element playing a part. -/
def Finds (t : Tour) (n : Nat) (part : Part) : Prop :=
  t.arrival.SomeTurn (Turn.Finds n part) t.turns

/-- Scripts leave the marks alone, and the load hooks have to do with an element because of one
part only. -/
structure Spares (t : Tour) (n : Nat) (part : Part) : Prop where
  unmarked : (Document.ofTrees t.trees).Unmarked n
  turns : t.arrival.EachTurn (Turn.Suits n part) t.turns

instance (t : Tour) (n : Nat) (part : Part) : Decidable (t.Finds n part) :=
  inferInstanceAs (Decidable (SomeTurn _ _ _))

instance (t : Tour) (n : Nat) (part : Part) : Decidable (t.Spares n part) :=
  decidable_of_iff
    ((Document.ofTrees t.trees).Unmarked n ∧ t.arrival.EachTurn (Turn.Suits n part) t.turns)
    ⟨fun h => ⟨h.1, h.2⟩, fun h => ⟨h.unmarked, h.turns⟩⟩

section Tours

variable {t : Tour} {n : Nat} {part : Part}

theorem sound_arrival (t : Tour) : t.arrival.Sound :=
  sound_fresh t.surroundings t.trees t.overrides t.clock

/-- **A widget is bound once.**  On a visit on which scripts leave marks alone, an element that
load hooks have to do with because of one part has the listeners of that part once if some hook
found it, and none otherwise; a resend button has one timer at most. -/
theorem wires (h : t.Spares n part) :
    (t.Finds n part → t.browser.document.Marked n ∧ t.browser.wires n = part.wires n) ∧
      (¬ t.Finds n part → t.browser.wires n = []) ∧
      (t.browser.resendTimers n).length ≤ part.timers := by
  obtain ⟨hfound, hnever⟩ := afterTurns_of_unmarked t.sound_arrival h.unmarked nofun h.turns
  refine ⟨fun hsome => ?_, fun hnone => (hnever hnone).1, ?_⟩
  · obtain ⟨hmarked, hwires, -⟩ := hfound hsome
    exact ⟨hmarked, hwires⟩
  · by_cases hsome : t.Finds n part
    · obtain ⟨-, -, ts, hts, hlength⟩ := hfound hsome
      rw [browser, hts]
      exact hlength
    · rw [browser, (hnever hsome).2]
      exact Nat.zero_le _

end Tours

end Tour

end Passkey.Browser
