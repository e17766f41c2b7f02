/-
Passkey/Proofs/Browser/Uses.lean

Widgets in use.

A visit binds widgets: whatever scripts do to the page, an element that plays
one part has the listeners of that part once.  From then on toggles are used:
load hooks keep coming, and activations flip the field.  Every activation
counts and nothing else does, so the type of the field is known from its first
type and the number of activations (`widgets_bound_once`).  The icon follows the
type unless the settings hide or mark elements by one of its own classes: then
a run may dress it anew (`slash_of_settings`).
-/
import Passkey.Proofs.Browser.Toggling

namespace Passkey.Browser

/-! ### Load hooks leave fields alone -/

/-- Elements are alike afterwards, and listeners are where they belong if they were before. -/
structure Settled (K : Element → Element → Prop) (b b' : Browser) : Prop where
  document : b.document.WellNumbered →
    b.document.Alike K b'.document ∧ b'.document.WellNumbered
  placed : (∀ l ∈ b.listeners, l.Placed) → ∀ l ∈ b'.listeners, l.Placed

section Hooks

variable {K : Element → Element → Prop} {icon field : Nat} {calm : Prop} {b b' : Browser}
  {config : Config}

theorem settled_of_document_eq (hK : IsLikeness K) (hdocument : b'.document = b.document)
    (hplaced : (∀ l ∈ b.listeners, l.Placed) → ∀ l ∈ b'.listeners, l.Placed) :
    Settled K b b' := by
  refine ⟨fun hb => ?_, hplaced⟩
  rw [hdocument]
  exact ⟨(Document.InPlace.refl hK _).alike, hb⟩

theorem isFrame_settled (hK : IsLikeness K) : IsFrame (Settled K) (Likens K) where
  refl b := settled_of_document_eq hK rfl id
  trans := by
    intro b b' b'' h h'
    refine ⟨fun hb => ?_, fun hplaced => h'.placed (h.placed hplaced)⟩
    obtain ⟨halike, hb'⟩ := h.document hb
    obtain ⟨halike', hb''⟩ := h'.document hb'
    exact ⟨halike.trans hK halike', hb''⟩
  calls b calls span := settled_of_document_eq hK rfl id
  change := by
    intro n operation hmay b
    refine ⟨fun hb => ?_, fun hplaced => ?_⟩
    · obtain ⟨halike, hb', -⟩ := (isFrame_alike hK).change hmay b hb
      exact ⟨halike, hb'⟩
    · have hrun : change n operation b = (change n operation).run b := rfl
      rw [← hrun, change]
      split
      · exact hplaced
      · split <;> exact hplaced

theorem allowsText_settled (hK : IsLikeness K)
    (htext : ∀ (e : Element) (ownText : String), K e { e with ownText }) :
    AllowsText (Settled K) := by
  intro b n text
  refine ⟨fun hb => ?_, id⟩
  obtain ⟨halike, hb', -⟩ := allowsText_alike hK htext b n text hb
  exact ⟨halike, hb'⟩

theorem settled_dropSession (hK : IsLikeness K) (b : Browser) : Settled K b b.dropSession := by
  obtain ⟨ls, hls, heq⟩ := exists_dropSession_eq b
  rw [heq]
  exact settled_of_document_eq hK rfl fun hplaced l hl => hplaced l (hls hl)

/-- The listeners of a part are attached where they belong. -/
theorem placed_of_role {role : Role} {n : Nat} {w : String × Handler}
    (hw : w ∈ role.listeners n) : Listener.Placed ⟨.element n, w.1, w.2⟩ := by
  refine ⟨fun icon hicon => ?_, fun c hc => ?_⟩
  · cases role
    case passwordToggle =>
      rcases List.mem_cons.mp hw with rfl | hw
      · cases hicon
        rfl
      · rw [List.mem_singleton.mp hw] at hicon
        cases hicon
        rfl
    all_goals
      rw [List.mem_singleton.mp hw] at hicon
      cases hicon
  · have hnone := attends?_eq_none_of_part (.widget role) hw
    dsimp only at hc
    rw [hc] at hnone
    cases hnone

/-- The listeners of a load hook are attached where they belong. -/
theorem allowsLoading_settled (hK : IsLikeness K) (config : Config) :
    AllowsLoading (Settled K) config where
  endSession := by
    intro b
    have hR := isFrame_settled hK
    have hdropped := settled_dropSession hK b
    simp only [endSession, StateT.run_bind, StateT.run_get, StateT.run_set, pure_bind]
    split
    · exact hR.trans hdropped (stays_log hR _ _ _ _ _)
    · exact hdropped
  beginSession c trigger := by
    intro b
    have hdropped := settled_dropSession hK b
    refine ⟨hdropped.document, fun hplaced l hl => ?_⟩
    rcases List.mem_append.mp hl with hl | hl
    · exact hdropped.placed hplaced l hl
    · rcases List.mem_cons.mp hl with rfl | hl
      · refine ⟨fun icon hicon => ?_, fun _ _ => rfl⟩
        cases hicon
      · rw [List.mem_singleton.mp hl]
        refine ⟨fun icon hicon => ?_, fun c hc => ?_⟩
        · cases hicon
        · cases hc
  bindElement role n := by
    intro b
    rw [run_bindElement]
    refine settled_of_document_eq hK rfl fun hplaced l hl => ?_
    rcases List.mem_append.mp hl with hl | hl
    · exact hplaced l hl
    · obtain ⟨w, hw, rfl⟩ := List.mem_map.mp hl
      exact placed_of_role hw
  arm delay button icon := fun b => settled_of_document_eq hK rfl id

/-- **A load hook** leaves fields and icons at rest. -/
theorem settled_load (icon field : Nat) (calm : Prop) (hcalm : calm → IsCalm config) :
    Stays (Settled (Rests icon field calm)) (load config) := by
  have hK := isLikeness_rests icon field calm
  refine stays_load (isFrame_settled hK) (allowsLoading_settled hK config) likens_rests_mark
    (mayClass_rests fun hc => (hcalm hc).hidden) ?_
  exact allowsText_settled hK fun _ _ => rests_of_attributes rfl rfl rfl id fun _ _ => rfl

theorem attends?_eq_none_of_toggle {w : String × Handler}
    (hw : w ∈ Role.passwordToggle.listeners icon) : w.2.attends? = none :=
  attends?_eq_none_of_part (.widget .passwordToggle) hw

/-- **A load hook does not disturb a toggle that is bound**: it stays bound, its field keeps its
type, and it stays dressed. -/
theorem boundToggle_load (field : Nat) (h : b.BoundToggle icon) (hcalm : calm → IsCalm config) :
    ((load config).run b).2.BoundToggle icon ∧
      ((load config).run b).2.document.inputType field = b.document.inputType field ∧
      (calm → b.document.Dressed icon field →
        ((load config).run b).2.document.Dressed icon field) := by
  have hb := h.sound.numbered
  have hunattended : b.IsUnattended icon := fun w hw =>
    attends?_eq_none_of_toggle (h.wires ▸ hw)
  have hsettled := settled_load icon field calm hcalm b
  obtain ⟨halike, -⟩ := hsettled.document hb
  obtain ⟨hmarked, hwires, -⟩ := load_of_marked config h.sound h.marked hunattended
  refine ⟨⟨(hooked_load h.sound config).sound, hsettled.placed h.placed, hmarked,
    hwires.trans h.wires⟩, inputType_of_rests halike hb, dressed_of_rests halike hb⟩

end Hooks

/-! ### Using a toggle -/

/-- What happens to a toggle that is bound. -/
inductive Use where
  /-- A load hook runs, with settings. -/
  | hook (config : Config)
  /-- An event happens, and the tasks that it leaves are done. -/
  | event (place : Place) (type : String) (key : Option String) (detail : ScriptValue)

namespace Use

/-- The browser after a use. -/
def take (b : Browser) : Use → Browser
  | hook config => ((load config).run b).2
  | event place type key detail =>
    ((dispatch place type key detail >>= fun _ => settle).run b).2

/-- An event that activates a toggle, which is ready then. -/
def Suits (icon field : Nat) (b : Browser) : Use → Prop
  | hook _ => True
  | event place type key _ =>
    Activates type key ∧ .element icon ∈ route b.document type place ∧ b.Ready icon field

/-- The settings leave the classes of icons alone. -/
def Calm (b : Browser) : Use → Prop
  | hook config => IsCalm config
  | event _ _ _ _ => b.AllCalm

instance (icon field : Nat) (b : Browser) : (u : Use) → Decidable (u.Suits icon field b)
  | hook _ => inferInstanceAs (Decidable True)
  | event _ _ _ _ => inferInstanceAs (Decidable (_ ∧ _))

instance (b : Browser) : (u : Use) → Decidable (u.Calm b)
  | hook config => inferInstanceAs (Decidable (IsCalm config))
  | event _ _ _ _ => inferInstanceAs (Decidable b.AllCalm)

/-- Whether it is an activation. -/
def isActivation : Use → Bool
  | hook _ => false
  | event _ _ _ _ => true

end Use

/-- The browser after uses. -/
def afterUses (b : Browser) (uses : List Use) : Browser :=
  uses.foldl Use.take b

/-- How often the type of a field changes. -/
def flips (b : Browser) (field : Nat) : List Use → Nat
  | [] => 0
  | u :: rest =>
    (u.take b).flips field rest
      + if (u.take b).document.inputType field = b.document.inputType field then 0 else 1

/-- Every use has a property, at the moment when it comes. -/
def EachUse (P : Browser → Use → Prop) (b : Browser) : List Use → Prop
  | [] => True
  | u :: rest => P b u ∧ (u.take b).EachUse P rest

instance decidableEachUse (P : Browser → Use → Prop) [∀ b u, Decidable (P b u)] (b : Browser) :
    (uses : List Use) → Decidable (b.EachUse P uses)
  | [] => inferInstanceAs (Decidable True)
  | u :: rest =>
    have := decidableEachUse P (u.take b) rest
    inferInstanceAs (Decidable (P b u ∧ (u.take b).EachUse P rest))

section Uses

variable {b : Browser} {icon field : Nat} {uses : List Use} {calm : Prop}

/-- **The type of a field is flipped as often as its toggle is activated**, and the icon is dressed
for it from the first activation on. -/
theorem flipped_afterUses (h : b.BoundToggle icon) (hsuits : b.EachUse (Use.Suits icon field) uses)
    (hcalm : calm → b.EachUse Use.Calm uses) :
    (b.afterUses uses).BoundToggle icon ∧
      b.flips field uses = uses.countP (·.isActivation) ∧
      (b.afterUses uses).document.inputType field
        = otherType^[uses.countP (·.isActivation)] (b.document.inputType field) ∧
      (calm → 0 < uses.countP (·.isActivation) ∨ b.document.Dressed icon field →
        (b.afterUses uses).document.Dressed icon field) := by
  induction uses generalizing b with
  | nil => exact ⟨h, rfl, rfl, fun _ hdressed => hdressed.resolve_left (Nat.lt_irrefl 0)⟩
  | cons u uses ih =>
    obtain ⟨hfirst, hrest⟩ := hsuits
    cases u with
    | hook config =>
      obtain ⟨hbound, htype, hdressed⟩ :=
        boundToggle_load field h fun hc => (hcalm hc).1
      obtain ⟨hbound', hflips, htype', hdressed'⟩ := ih hbound hrest fun hc => (hcalm hc).2
      have hkept : ((Use.hook config).take b).document.inputType field
          = b.document.inputType field := htype
      rw [List.countP_cons_of_neg Bool.false_ne_true]
      refine ⟨hbound', ?_, ?_, fun hc hor => hdressed' hc (hor.imp_right (hdressed hc))⟩
      · rw [flips, if_pos hkept]
        exact hflips
      · rw [← htype]
        exact htype'
    | event place type key detail =>
      obtain ⟨hactivates, hroute, hready⟩ := hfirst
      have hflipped := flipped_activation h hready (fun hc => (hcalm hc).1) hactivates hroute detail
      obtain ⟨hbound', hflips, htype', hdressed'⟩ :=
        ih hflipped.bound hrest fun hc => (hcalm hc).2
      have hchanged : ((Use.event place type key detail).take b).document.inputType field
          ≠ b.document.inputType field := hflipped.type.trans_ne (otherType_ne _)
      rw [List.countP_cons_of_pos rfl]
      refine ⟨hbound', ?_, ?_, fun hc _ => hdressed' hc (.inr (hflipped.dressed hc))⟩
      · rw [flips, if_neg hchanged]
        exact congrArg (· + 1) hflips
      · rw [Function.iterate_succ_apply, ← hflipped.type]
        exact htype'

/-- Listeners are where they belong, whatever happens on a visit. -/
theorem placed_afterTurns {turns : List Turn} (h : ∀ l ∈ b.listeners, l.Placed) :
    ∀ l ∈ (b.afterTurns turns).listeners, l.Placed := by
  induction turns generalizing b with
  | nil => exact h
  | cons t turns ih =>
    refine ih ?_
    cases t with
    | hook config => exact (settled_load 0 0 False nofun b).placed h
    | change edit => exact h

/-- **Widgets are bound once, and toggles flip.**  On a visit on which scripts leave marks alone, an
element that load hooks have to do with because of one part has the listeners of that part once
from the first hook on that finds it, and none before; a resend button has one timer at most.  If
the part is that of a toggle, the type of its field changes as often as it is activated from then
on, and is the other one of two each time.  The icon is dressed for it, if the settings of that time
hide and mark elements by other classes than its own. -/
theorem widgets_bound_once {t : Tour} {n : Nat} {part : Part} (h : t.Spares n part) :
    (t.Finds n part → t.browser.wires n = part.wires n) ∧
      (¬ t.Finds n part → t.browser.wires n = []) ∧
      (t.browser.resendTimers n).length ≤ part.timers ∧
      (part = .widget .passwordToggle → t.Finds n part →
        ∀ (field : Nat) (uses : List Use), t.browser.EachUse (Use.Suits n field) uses →
          (t.browser.afterUses uses).wires n = part.wires n ∧
          t.browser.flips field uses = uses.countP (·.isActivation) ∧
          (t.browser.afterUses uses).document.inputType field
            = otherType^[uses.countP (·.isActivation)] (t.browser.document.inputType field) ∧
          (t.browser.EachUse Use.Calm uses → 0 < uses.countP (·.isActivation) →
            (t.browser.afterUses uses).document.Dressed n field)) := by
  obtain ⟨hfound, hnever, htimers⟩ := Tour.wires h
  refine ⟨fun hsome => (hfound hsome).2, hnever, htimers, ?_⟩
  rintro rfl hsome field uses hsuits
  obtain ⟨hmarked, hwires⟩ := hfound hsome
  have hbound : t.browser.BoundToggle n :=
    ⟨sound_afterTurns t.sound_arrival h.turns, placed_afterTurns nofun, hmarked, hwires⟩
  obtain ⟨hbound', hflips, htype, hdressed⟩ := flipped_afterUses hbound hsuits id
  exact ⟨hbound'.wires, hflips, htype, fun hcalm hcount => hdressed hcalm (.inl hcount)⟩

end Uses

/-- A page with the icon of a toggle beside a password field. -/
def passwordPage : Forest :=
  .tree ⟨0, "div", [], [], "", "", false, [], []⟩
    (.tree ⟨0, "i", [("class", "toggle-password-visibility")], [], "", "", false, [], []⟩ .empty
      (.tree ⟨0, "input", [("type", "password")], [], "", "", false, [], []⟩ .empty .empty))
    .empty

/-- Load hooks come before and after a script adds another toggle. -/
def passwordTour : Tour where
  surroundings := goodSurroundings
  trees := passwordPage
  overrides := .undefined
  clock := 0
  turns := [.hook Config.default, .change (·.insert none passwordPage), .hook Config.default]

/-- A click, a load hook, the Enter key and another click. -/
def passwordUses : List Use :=
  [.event (.element 1) "click" none .undefined, .hook Config.default,
    .event (.element 1) "keydown" (some "Enter") .undefined,
    .event (.element 1) "click" none .undefined]

/-- Three activations show the password. -/
theorem toggle_flips_passwordTour :
    passwordTour.Spares 1 (.widget .passwordToggle) ∧
      passwordTour.Finds 1 (.widget .passwordToggle) ∧
      passwordTour.browser.EachUse (Use.Suits 1 2) passwordUses ∧
      passwordTour.browser.EachUse Use.Calm passwordUses ∧
      passwordTour.browser.flips 2 passwordUses = 3 ∧
      (passwordTour.browser.afterUses passwordUses).document.inputType 2 = "text" ∧
      (passwordTour.browser.afterUses passwordUses).document.Dressed 1 2 := by
  have hspares : passwordTour.Spares 1 (.widget .passwordToggle) := by decide +kernel
  have hfinds : passwordTour.Finds 1 (.widget .passwordToggle) := by decide +kernel
  have hsuits : passwordTour.browser.EachUse (Use.Suits 1 2) passwordUses := by decide +kernel
  have hcalm : passwordTour.browser.EachUse Use.Calm passwordUses := by decide +kernel
  obtain ⟨-, -, -, htoggle⟩ := widgets_bound_once hspares
  obtain ⟨-, hflips, htype, hdressed⟩ := htoggle rfl hfinds 2 passwordUses hsuits
  refine ⟨hspares, hfinds, hsuits, hcalm, hflips, htype.trans ?_, hdressed hcalm (by decide)⟩
  decide +kernel

/-! ### Settings that use the class of a slash -/

/-- A click on an icon. -/
def clickOn (icon : Nat) : List Use :=
  [.event (.element icon) "click" none .undefined]

/-- A toggle is bound, and a click on its icon leaves that undressed. -/
def Tour.Undresses (t : Tour) (icon field : Nat) : Prop :=
  t.Spares icon (.widget .passwordToggle) ∧ t.Finds icon (.widget .passwordToggle) ∧
    t.browser.EachUse (Use.Suits icon field) (clickOn icon) ∧
    ¬ (t.browser.afterUses (clickOn icon)).document.Dressed icon field

instance (t : Tour) (icon field : Nat) : Decidable (t.Undresses icon field) :=
  inferInstanceAs (Decidable (_ ∧ _ ∧ _ ∧ ¬ _))

/-- A page on which a toggle is an area for errors, too, and lies in the trigger beside a field that
shows its text. -/
def slashPage : Forest :=
  .tree ⟨0, "input", [("id", "webauthn-options")], [], "",
      "\x7b\"challenge\":\"\"\x7d", false, [], []⟩ .empty
    (.tree ⟨0, "div", [("id", "webauthn-authenticate")], [], "", "", false, [], []⟩
      (.tree ⟨0, "i", [("class", "toggle-password-visibility error-message")], [], "", "", false,
          [], []⟩ .empty
        (.tree ⟨0, "input", [("type", "text")], [], "", "", false, [], []⟩ .empty .empty))
      .empty)

/-- A load hook comes to the page, and then scripts change it. -/
def slashTour (overrides : ScriptValue) (edits : List Turn) : Tour where
  surroundings := goodSurroundings
  trees := slashPage
  overrides := overrides
  clock := 0
  turns := .hook (fresh goodSurroundings slashPage overrides 0).settings :: edits

/-- **Settings can give the icon a slash.**  A click on it hides the text of the field and takes the
slash away, but the run that it starts hides the icon by that class; or it marks the icon busy by
that class, if the icon got the id of a button in the meantime. -/
theorem slash_of_settings :
    (slashTour (.object false [("hidden_class", .text "slash")]) []).Undresses 2 3 ∧
      (slashTour (.object false [("busy_class", .text "slash")])
        [.change (·.update 2 (·.withAttribute "id" "webauthn-register"))]).Undresses 2 3 := by
  decide +kernel

end Passkey.Browser
