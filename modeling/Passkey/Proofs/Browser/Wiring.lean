/-
Passkey/Proofs/Browser/Wiring.lean

Which trigger the session belongs to.

The verdicts of the load hooks say to which trigger the session belongs: the
last one that is not idle decides.  A trigger is claimed once, because its mark
stays wherever it goes.  So a trigger that was ready at some hook is wired
afterwards exactly if no later hook found the page without a trigger or claimed
another one, and a click on it starts a run then (`trigger_wired_iff`).

The condition cannot be dropped: a trigger that was hidden behind another one
during a hook keeps its mark and loses its wires (`shadowed_trigger`).
-/
import Passkey.Proofs.Browser.Click
import Passkey.Proofs.Browser.Stay

namespace Passkey.Browser

/-! ### The last verdict that is not idle -/

/-- A verdict that leaves the session as it is. -/
def Verdict.IsIdle (v : Verdict) : Prop :=
  v = .skipped ∨ v = .unavailable

section Verdicts

variable {vs : List Verdict} {b : Browser} {t : Option Nat} {n : Nat}

theorem effect_of_isIdle {v : Verdict} (h : v.IsIdle) (t : Option Nat) : v.effect t = t := by
  rcases h with rfl | rfl <;> rfl

theorem foldl_effect_of_isIdle (h : ∀ v ∈ vs, v.IsIdle) (t : Option Nat) :
    vs.foldl Verdict.effect t = t := by
  induction vs generalizing t with
  | nil => rfl
  | cons v vs ih =>
    rw [List.foldl_cons, effect_of_isIdle (h v List.mem_cons_self),
      ih fun w hw => h w (List.mem_cons_of_mem v hw)]

/-- A trigger is wired at the end because nothing happened, or because it was ready. -/
theorem isIdle_or_mem_of_foldl_effect (h : vs.foldl Verdict.effect t = some n) :
    (∀ v ∈ vs, v.IsIdle) ∨ .ready n ∈ vs := by
  induction vs generalizing t with
  | nil => exact .inl nofun
  | cons v vs ih =>
    rw [List.foldl_cons] at h
    rcases ih h with hidle | hmem
    · -- the first verdict is the last one that is not idle
      rw [foldl_effect_of_isIdle hidle] at h
      cases v with
      | unavailable => exact .inl (List.forall_mem_cons.mpr ⟨.inr rfl, hidle⟩)
      | absent => cases h
      | skipped => exact .inl (List.forall_mem_cons.mpr ⟨.inl rfl, hidle⟩)
      | failed m => cases h
      | ready m =>
        cases h
        exact .inr List.mem_cons_self
    · exact .inr (List.mem_cons_of_mem v hmem)

theorem Wired.unique {t' : Option Nat} (h : b.Wired t) (h' : b.Wired t') : t = t' := by
  have htarget {s : Option Nat} (hs : b.Wired s) :
      b.activations.map (·.place) = s.toList.map .element := by
    cases s with
    | none => rw [hs.2]; rfl
    | some m =>
      obtain ⟨c, -, -, ha⟩ := hs
      rw [ha]
      rfl
  have heq := (htarget h).symm.trans (htarget h')
  rcases t with - | m
  · rcases t' with - | m'
    · rfl
    · cases heq
  · rcases t' with - | m'
    · cases heq
    · cases heq
      rfl

/-- A trigger that was ready is wired exactly if every later verdict is idle. -/
theorem Stay.ready_wired_iff {s : Stay} {before later : List Verdict}
    (h : s.verdicts = before ++ .ready n :: later) :
    s.browser.Wired (some n) ↔ ∀ v ∈ later, v.IsIdle := by
  have hwired := s.wired
  have honce := s.kept.once
  have hclaimed : (Verdict.ready n).claimed? = some n := rfl
  rw [h, wiredAfter, List.foldl_append, List.foldl_cons] at hwired
  rw [h, claimedBy, List.filterMap_append, List.filterMap_cons_some hclaimed,
    List.nodup_append] at honce
  constructor
  · intro hn
    have hfold : later.foldl Verdict.effect (some n) = some n := hwired.unique hn
    rcases isIdle_or_mem_of_foldl_effect hfold with hidle | hmem
    · exact hidle
    · -- nothing is claimed twice
      have hagain : n ∈ later.filterMap Verdict.claimed? := List.mem_filterMap.mpr ⟨_, hmem, rfl⟩
      exact absurd hagain (List.nodup_cons.mp honce.2.1).1
  · intro hidle
    rw [show Verdict.effect _ (.ready n) = some n from rfl, foldl_effect_of_isIdle hidle] at hwired
    exact hwired

end Verdicts

/-! ### The trigger of the page -/

/-- Every click on an element starts one run of the session's ceremony, and is kept from what the
browser would do by itself. -/
def RunsOnClick (b : Browser) (n : Nat) : Prop :=
  ∀ (key : Option String) (detail : ScriptValue), ∃ c, b.session = some c ∧
    b.Started [c] ((dispatch (.element n) "click" key detail).run b).2 ∧
    ((dispatch (.element n) "click" key detail).run b).1.prevented = true

/-- **The trigger of the page is wired as long as later hooks are idle**, and
a click on it starts a run then. -/
theorem trigger_wired_iff (s : Stay) {before later : List Verdict} {config : Config} {mode : Mode}
    {e : Element} (hready : s.verdicts = before ++ .ready e.number :: later)
    (ht : s.browser.document.trigger? config = some (mode, e)) :
    (s.browser.Wired (some e.number) ↔ ∀ v ∈ later, v.IsIdle) ∧
      (s.browser.Wired (some e.number) → s.browser.RunsOnClick e.number) := by
  refine ⟨Stay.ready_wired_iff hready, ?_⟩
  rintro ⟨c, hsession, -, hactivations⟩ key detail
  have hn : e.number ∈ s.browser.document.tree.numbers := List.mem_map_of_mem (mem_of_trigger? ht)
  exact ⟨c, hsession, started_click s.kept.sound hn hactivations key detail⟩

/-! ### Taken out and put back, and hidden by another trigger -/

/-- Puts an element with everything below it to the end of the page. -/
def Document.putBack (d : Document) (n : Nat) : Document :=
  let (tree, out) := d.tree.extract n
  let (detached, out') := d.detached.extract n
  { d with tree := tree.append (out.append out'), detached }

theorem Document.elements_putBack (d : Document) (n : Nat) :
    (d.putBack n).elements.Perm d.elements := by
  show ((Forest.append _ (Forest.append _ _)).elements ++ _).Perm (_ ++ _)
  rw [Forest.elements_append, Forest.elements_append, ← List.append_assoc, List.append_assoc]
  refine .trans (List.perm_append_comm.append_left _) ?_
  exact (Forest.elements_extract n d.tree).append (Forest.elements_extract n d.detached)

/-- The trigger of a mode, as it comes to a page. -/
def buttonOf (mode : Mode) : Element :=
  ⟨0, "button", [("id", Config.default.text (buttonSetting mode))], [], "", "", false, [], []⟩

/-- The trigger of a mode with a number, when it was claimed. -/
def claimedButton (number : Nat) (mode : Mode) : Element :=
  { (buttonOf mode).withAttribute "data-initialized" "true" with number }

/-- A page with the trigger of an authentication, and options that suit both modes. -/
def authenticationPage : Forest :=
  .tree ⟨0, "input", [("id", "webauthn-options")], [], "",
      "\x7b\"challenge\":\"\",\"user\":\x7b\"id\":\"\"\x7d\x7d", false, [], []⟩ .empty
    (.tree (buttonOf .authentication) .empty .empty)

/-- Surroundings in which everything works. -/
def goodSurroundings : Surroundings :=
  ⟨"https://a.example/", none, true, true, false, true, [], .works, .succeeds⟩

/-- A trigger is claimed, taken out and put back. -/
def returned : Stay where
  surroundings := goodSurroundings
  trees := authenticationPage
  overrides := .undefined
  clock := 0
  happenings := [.step none .refresh, .step none (.remove (.number 1)), .rearrange (·.putBack 1),
    .step none .refresh]
  plain := by
    simp only [List.forall_mem_cons, Happening.IsPlain]
    exact ⟨.refresh, .remove _, fun d _ => ⟨d.elements_putBack 1, rfl⟩, .refresh, nofun⟩

theorem trigger_wired_returned :
    returned.browser.Wired (some 1) ∧ returned.browser.RunsOnClick 1 := by
  have hready : returned.verdicts = [] ++ .ready 1 :: [.skipped] := by decide +kernel
  have ht : returned.browser.document.trigger? Config.default
      = some (.authentication, claimedButton 1 .authentication) := by decide +kernel
  have hnumber : (claimedButton 1 .authentication).number = 1 := rfl
  obtain ⟨hwired, hclick⟩ := @trigger_wired_iff returned [] [.skipped] Config.default
    .authentication (claimedButton 1 .authentication) hready ht
  rw [hnumber] at hwired hclick
  have hw := hwired.mpr (List.forall_mem_singleton.mpr (.inl rfl))
  exact ⟨hw, hclick hw⟩

/-- Elements that come to the page in a happening. -/
def Happening.newcomers : Happening → List Element
  | step _ (.insert _ trees) => trees.elements
  | _ => []

/-- No element comes to the page with a mark. -/
def Stay.Unmarked (s : Stay) : Prop :=
  ∀ e ∈ s.trees.elements ++ s.happenings.flatMap (·.newcomers), e.isClaimed = false

instance (s : Stay) : Decidable s.Unmarked :=
  inferInstanceAs (Decidable (∀ e ∈ _, _))

/-- While a trigger is on the page, the trigger of a registration comes, a load hook runs, and
it goes again. -/
def shadowed : Stay where
  surroundings := goodSurroundings
  trees := authenticationPage
  overrides := .undefined
  clock := 0
  happenings := [.step none .refresh,
    .step none (.insert .document (.tree (buttonOf .registration) .empty .empty)),
    .step none .refresh, .step none (.remove (.number 2)), .step none .refresh]
  plain := by
    simp only [List.forall_mem_cons, Happening.IsPlain]
    exact ⟨.refresh, .insert _ _, .refresh, .remove _, .refresh, nofun⟩

/-- **A trigger that was hidden behind another one is never wired again**: the load hook passes
it over because of its mark, and the session still belongs to the other one. -/
theorem shadowed_trigger :
    ¬ ∀ (s : Stay) (earlier : List Happening) (now : Option Float) (mode : Mode) (e : Element),
      s.Unmarked → s.happenings = earlier ++ [.step now .refresh] →
        .ready e.number ∈ s.verdicts →
          s.browser.document.trigger? s.browser.settings = some (mode, e) →
            s.browser.Wired (some e.number) := by
  intro hall
  have hsteps : shadowed.happenings
      = shadowed.happenings.dropLast ++ [.step none .refresh] := rfl
  have hverdicts : shadowed.verdicts = [] ++ .ready 1 :: [.ready 2, .skipped] := by
    decide +kernel
  have hready : .ready (claimedButton 1 .authentication).number ∈ shadowed.verdicts := by
    rw [hverdicts]
    exact List.mem_cons_self
  have ht : shadowed.browser.document.trigger? shadowed.browser.settings
      = some (.authentication, claimedButton 1 .authentication) := by decide +kernel
  have hunmarked : shadowed.Unmarked := by decide +kernel
  have hclaim := hall shadowed shadowed.happenings.dropLast none .authentication
    (claimedButton 1 .authentication) hunmarked hsteps hready ht
  have hlater := (Stay.ready_wired_iff hverdicts).mp hclaim
  -- the other trigger was ready in between
  rcases hlater (.ready 2) List.mem_cons_self with h | h
  · cases h
  · cases h

end Passkey.Browser
