/-
Passkey/Proofs/Browser/Hook.lean

What a load hook does to the session.

A load hook looks for the trigger of the page and claims it.  Its verdict says
what it found: nothing, a trigger that was claimed before, one whose options
cannot be used, or one that is ready.  The verdict alone decides what becomes
of the session (`hooked_load`): the first two differ, because a page without
trigger ends the session while a claimed trigger leaves it as it is, whichever
trigger the session belongs to.
-/
import Mathlib.Data.List.Find
import Passkey.Proofs.Browser.Quiet

namespace Passkey.Browser

/-! ### The verdict -/

/-- The text of the options in a document. -/
def Document.optionsText? (d : Document) (config : Config) : Option String :=
  (d.byId? (config.text .optionsInput)).map fun e => if e.isInput then e.value else d.textOf e

/-- What a load hook finds. -/
inductive Verdict where
  /-- There is no window or no document. -/
  | unavailable
  /-- The document has no trigger. -/
  | absent
  /-- The trigger was claimed before, or it cannot be marked. -/
  | skipped
  /-- The trigger with a number is claimed, but its options cannot be used. -/
  | failed (trigger : Nat)
  /-- The trigger with a number is claimed, and its options can be used. -/
  | ready (trigger : Nat)
deriving DecidableEq

/-- The verdict of a load hook with given settings. -/
def verdict (b : Browser) (config : Config) : Verdict :=
  if b.missingPart?.isSome then .unavailable
  else
    match b.document.trigger? config with
    | none => .absent
    | some (mode, e) =>
      if e.isClaimed then .skipped
      else
        match e.setData claimEntry claimMark with
        | .error _ => .skipped
        | .ok e' =>
          match Ceremony.decodeOptions mode ((b.document.put e').optionsText? config) with
          | .error _ => .failed e.number
          | .ok _ => .ready e.number

/-- The trigger that a verdict claims. -/
def Verdict.claimed? : Verdict → Option Nat
  | failed n => some n
  | ready n => some n
  | _ => none

/-- The trigger to which the session belongs after a verdict, given the one before. -/
def Verdict.effect (wired : Option Nat) : Verdict → Option Nat
  | unavailable => wired
  | absent => none
  | skipped => wired
  | failed _ => none
  | ready n => some n

/-- The session belongs to the trigger with a number: runs of its ceremony, the
newest one, start when that trigger is clicked, and no other run does; or there
is no session, and nothing starts runs. -/
def Wired (b : Browser) : Option Nat → Prop
  | none => b.session = none ∧ b.activations = []
  | some n => ∃ c, b.session = some c ∧ c + 1 = b.offers.length ∧
      b.activations = [⟨.element n, "click", .activate c⟩]

/-- The session belongs to the trigger with a number, and the listeners of ceremonies are those of
the newest ceremony alone: one hears keys, and one hears clicks on the trigger.  Or there is no
session, and no ceremony has a listener. -/
def Attended (b : Browser) : Option Nat → Prop
  | none => b.session = none ∧ b.attendants = []
  | some n => ∃ c, b.session = some c ∧ c + 1 = b.offers.length ∧
      b.attendants = [⟨.document, "keydown", .watch c⟩, ⟨.element n, "click", .activate c⟩]

theorem Attended.wired {b : Browser} {t : Option Nat} (h : b.Attended t) : b.Wired t := by
  cases t with
  | none =>
    obtain ⟨hs, ha⟩ := h
    exact ⟨hs, by rw [activations_eq, ha]; rfl⟩
  | some n =>
    obtain ⟨c, hs, hc, ha⟩ := h
    exact ⟨c, hs, hc, by rw [activations_eq, ha]; rfl⟩

/-- Whether a verdict makes a ceremony. -/
def Verdict.isReady : Verdict → Bool
  | ready _ => true
  | _ => false

/-- What a load hook with a verdict makes of a browser. -/
structure Hooked (b : Browser) (v : Verdict) (b' : Browser) : Prop where
  sound : b'.Sound
  edit : b.document.Edit b'.document
  surroundings : b'.surroundings = b.surroundings
  runs : b'.runs = b.runs
  tasks : b'.tasks = b.tasks
  offers : b'.offers.length = b.offers.length + v.isReady.toNat
  attended : ∀ t, b.Attended t → b'.Attended (v.effect t)
  claimed : ∀ n, v.claimed? = some n → ¬ b.document.Marked n ∧ b'.document.Marked n

section Hooked

variable {b b' b'' : Browser} {v : Verdict} {t : Option Nat}

/-- The listeners of ceremonies and the session decide. -/
theorem Attended.congr (hw : b.Attended t) (hsession : b'.session = b.session)
    (hoffers : b'.offers.length = b.offers.length) (hattendants : b'.attendants = b.attendants) :
    b'.Attended t := by
  cases t with
  | none =>
    obtain ⟨hs, ha⟩ := hw
    exact ⟨hsession.trans hs, hattendants.trans ha⟩
  | some n =>
    obtain ⟨c, hs, hc, ha⟩ := hw
    exact ⟨c, hsession.trans hs, hoffers ▸ hc, hattendants.trans ha⟩

theorem Quiet.attended (h : b.Quiet b') (hw : b.Attended t) : b'.Attended t :=
  hw.congr h.session (h.offers ▸ rfl) h.attendants

theorem Hooked.quiet (h : b.Hooked v b') (hq : b'.Quiet b'') : b.Hooked v b'' where
  sound := hq.sound
  edit := h.edit.trans hq.edit
  surroundings := hq.surroundings.trans h.surroundings
  runs := hq.runs.trans h.runs
  tasks := hq.tasks.trans h.tasks
  offers := hq.offers ▸ h.offers
  attended t hw := hq.attended (h.attended t hw)
  claimed n hn := ⟨(h.claimed n hn).1, hq.edit.marked_of (h.claimed n hn).2⟩

/-- A verdict that claims nothing and leaves the session as it is. -/
theorem Quiet.hooked (hq : b.Quiet b') (hv : ∀ t, v.effect t = t) (hc : v.claimed? = none) :
    b.Hooked v b' where
  sound := hq.sound
  edit := hq.edit
  surroundings := hq.surroundings
  runs := hq.runs
  tasks := hq.tasks
  offers := by
    rw [hq.offers]
    cases v with
    | ready n => cases hc
    | _ => rfl
  attended t hw := by
    rw [hv t]
    exact hq.attended hw
  claimed n hn := by
    rw [hc] at hn
    cases hn

/-! ### Ending and beginning sessions -/

/-- Dropping a session takes listeners off and does nothing else. -/
theorem exists_dropSession_eq (b : Browser) :
    ∃ ls, ls ⊆ b.listeners ∧ b.dropSession = { b with session := none, listeners := ls } := by
  rw [dropSession]
  split
  · next h => exact ⟨b.listeners, List.Subset.refl _, h ▸ rfl⟩
  · exact ⟨_, List.filter_subset_self _, rfl⟩

theorem sound_dropSession (h : b.Sound) : b.dropSession.Sound := by
  obtain ⟨ls, hls, heq⟩ := exists_dropSession_eq b
  rw [heq]
  exact ⟨h.numbered, fun l hl => h.made l (hls hl)⟩

/-- **Dropping a session takes off every listener of a ceremony.** -/
theorem attended_dropSession (hw : b.Attended t) : b.dropSession.Attended none := by
  cases t with
  | none =>
    obtain ⟨hs, ha⟩ := hw
    rw [dropSession, hs]
    exact ⟨hs, ha⟩
  | some n =>
    obtain ⟨c, hs, -, ha⟩ := hw
    rw [dropSession, hs]
    refine ⟨rfl, ?_⟩
    -- the only listeners of ceremonies serve the session that goes
    show (b.listeners.filter _).filter _ = []
    rw [List.filter_comm]
    show b.attendants.filter _ = []
    rw [ha]
    simp [Listener.serves]

theorem hooked_dropSession (hq : b.Quiet b') (hv : ∀ t, v.effect t = none)
    (hc : ∀ n, v.claimed? = some n → ¬ b.document.Marked n ∧ b'.document.Marked n) :
    b.Hooked v b'.dropSession := by
  have hsound := sound_dropSession hq.sound
  have hdrop (t : Option Nat) (hw : b.Attended t) : b'.dropSession.Attended (v.effect t) := by
    rw [hv t]
    exact attended_dropSession (hq.attended hw)
  have hoffers : b'.offers.length = b.offers.length + v.isReady.toNat := by
    rw [hq.offers]
    cases v with
    | ready n => cases hv none
    | _ => rfl
  obtain ⟨ls, -, heq⟩ := exists_dropSession_eq b'
  rw [heq] at hsound hdrop ⊢
  exact ⟨hsound, hq.edit, hq.surroundings, hq.runs, hq.tasks, hoffers, hdrop, hc⟩

theorem hooked_endSession (hq : b.Quiet b') (hv : ∀ t, v.effect t = none)
    (hc : ∀ n, v.claimed? = some n → ¬ b.document.Marked n ∧ b'.document.Marked n) :
    b.Hooked v (endSession.run b').2 := by
  have hdrop := hooked_dropSession hq hv hc
  simp only [endSession, StateT.run_bind, StateT.run_get, StateT.run_set, pure_bind]
  split
  · exact hdrop.quiet (quietly_log _ _ _ _ _ hdrop.sound)
  · exact hdrop

/-- A session begins, whichever went before. -/
theorem hooked_beginSession (hq : b.Quiet b') (c : Ceremony) (config : Config) {n : Nat}
    (hc : ¬ b.document.Marked n ∧ b'.document.Marked n) :
    b.Hooked (.ready n) ((beginSession c config n).run b').2 := by
  have hsound := sound_dropSession hq.sound
  have hdrop (t : Option Nat) (hw : b.Attended t) := attended_dropSession (hq.attended hw)
  have hclaimed (m : Nat) (hm : (Verdict.ready n).claimed? = some m) :
      ¬ b.document.Marked m ∧ b'.document.Marked m := by
    cases hm
    exact hc
  have hlength : (b'.offers ++ [Offer.mk c config]).length = b'.offers.length + 1 :=
    List.length_append
  obtain ⟨ls, -, heq⟩ := exists_dropSession_eq b'
  simp only [beginSession, StateT.run_modify, heq] at hsound hdrop ⊢
  refine ⟨⟨hsound.numbered, ?_⟩, hq.edit, hq.surroundings, hq.runs, hq.tasks, ?_, ?_, hclaimed⟩
  · intro l hl
    rcases List.mem_append.mp hl with hl | hl
    · exact hsound.made l hl
    · rcases List.mem_cons.mp hl with rfl | hl
      · exact ⟨List.mem_cons_self, nofun⟩
      · rw [List.mem_singleton.mp hl]
        exact ⟨List.mem_cons_self, nofun⟩
  · exact hlength.trans (congrArg (·.length + 1) hq.offers)
  · intro t hw
    refine ⟨b'.offers.length, rfl, hlength.symm, ?_⟩
    show (ls ++ _).filter _ = _
    rw [List.filter_append, show ls.filter _ = [] from (hdrop t hw).2]
    rfl

end Hooked

/-! ### Finding the trigger again -/

section Trigger

variable {d : Document} {config : Config} {mode : Mode} {e e' : Element} {n : Nat}

theorem mem_of_byId? {id : String} (h : d.byId? id = some e) : e ∈ d.tree.elements := by
  rw [Document.byId?] at h
  split at h
  · cases h
  · exact List.mem_of_find?_eq_some h

theorem mem_of_trigger? (h : d.trigger? config = some (mode, e)) : e ∈ d.tree.elements := by
  obtain ⟨m, -, hm⟩ := List.exists_of_findSome?_eq_some h
  obtain ⟨e₁, he, heq⟩ := Option.map_eq_some_iff.mp hm
  cases heq
  exact mem_of_byId? (Option.eq_some_of_filter_eq_some he)

/-- A change of an element that is looked up as before. -/
theorem byId?_update {change : Element → Element} (id : String)
    (h : ∀ x ∈ d.tree.elements, x.number = n →
      (change x).attribute? "id" = x.attribute? "id") :
    (d.update n change).byId? id
      = (d.byId? id).map fun x => if x.number = n then change x else x := by
  rw [Document.byId?, Document.byId?]
  split
  · exact rfl
  · show (Forest.update n change d.tree).elements.find? _ = _
    rw [Forest.elements_update, List.find?_map]
    refine congrArg _ (List.find?_congr ?_)
    intro x hx
    show ((if x.number = n then change x else x).attribute? "id" == some id) = _
    split
    · next hn => rw [h x hx hn]
    · rfl

/-- The trigger is looked up by ids and tags, so other changes do not move it. -/
theorem trigger?_update {change : Element → Element}
    (h : ∀ x ∈ d.tree.elements, x.number = n →
      (change x).attribute? "id" = x.attribute? "id" ∧ (change x).tag = x.tag) :
    (d.update n change).trigger? config
      = (d.trigger? config).map fun (m, x) => (m, if x.number = n then change x else x) := by
  have hbutton (m : Mode) : (d.update n change).button? config m
      = (d.button? config m).map fun x => if x.number = n then change x else x := by
    rw [Document.button?, Document.button?, byId?_update _ fun x hx hn => (h x hx hn).1]
    rcases hfind : d.byId? (config.text (buttonSetting m)) with - | x
    · rfl
    · have hhtml : (if x.number = n then change x else x).isHtml = x.isHtml := by
        split
        · next hn => rw [Element.isHtml, Element.hasTag, (h x (mem_of_byId? hfind) hn).2]; rfl
        · rfl
      rw [Option.map_some, Option.filter_some, Option.filter_some, hhtml]
      split <;> rfl
  rw [Document.trigger?, Document.trigger?, List.findSome?_cons, List.findSome?_cons, hbutton,
    List.findSome?_cons, List.findSome?_cons, hbutton]
  rcases d.button? config .registration with - | x
  · rcases d.button? config .authentication with - | y
    · rfl
    · rfl
  · rfl

/-- **A trigger that was claimed is still the trigger.** -/
theorem trigger?_put_claimed (hd : d.WellNumbered) (ht : d.trigger? config = some (mode, e))
    (he : e.setData claimEntry claimMark = .ok e') :
    (d.put e').trigger? config = some (mode, e') := by
  have heq := Element.setData_claim_eq_ok he
  have hnumber : e'.number = e.number := by
    rw [heq]
    rfl
  have hmem : e ∈ d.elements := List.mem_append_left _ (mem_of_trigger? ht)
  rw [Document.put, trigger?_update, ht]
  · show some (mode, if e.number = e'.number then e' else e) = _
    rw [if_pos hnumber.symm]
  · intro x hx hn
    -- the number belongs to one element only
    have hsame : x = e := List.inj_on_of_nodup_map hd.nodup (List.mem_append_left _ hx) hmem
      (hn.trans hnumber)
    rw [hsame, heq, Element.attribute?_withAttribute, if_neg (by decide)]
    exact ⟨rfl, rfl⟩

end Trigger

/-! ### Setting up -/

section SetUp

variable {b : Browser} {config : Config} {mode : Mode} {e e' : Element}

theorem document_log (source : Source) (level : Level) (message : String)
    (details : List (String × String)) (b : Browser) :
    ((log source level message details).run b).2.document = b.document := by
  show (if _ then _ else _ : Browser).document = _
  split <;> rfl

theorem document_note (notice : Notice) (b : Browser) :
    ((note notice).run b).2.document = b.document := by
  cases notice <;> exact document_log _ _ _ _ b

theorem run_named? (config : Config) (setting : TextSetting) (b : Browser) :
    ((named? config setting).run b).1 = b.document.byId? (config.text setting) ∧
      ((named? config setting).run b).2.document = b.document := by
  simp only [named?, StateT.run_bind, StateT.run_get, pure_bind]
  split
  · exact ⟨rfl, document_log _ _ _ _ b⟩
  · exact ⟨rfl, rfl⟩

theorem run_optionsText (config : Config) (b : Browser) :
    ((optionsText config).run b).1 = b.document.optionsText? config ∧
      ((optionsText config).run b).2.document = b.document := by
  obtain ⟨helement, hdocument⟩ := run_named? config .optionsInput b
  have hrun : (optionsText config).run b = (((named? config .optionsInput).run b).1.map fun e =>
      if e.isInput then e.value else ((named? config .optionsInput).run b).2.document.textOf e,
      ((named? config .optionsInput).run b).2) := rfl
  rw [hrun, helement, hdocument]
  exact ⟨rfl, rfl⟩

theorem run_setUp_absent (h : b.Sound) (ht : b.document.trigger? config = none) :
    ((Ceremony.setUp (page config)).run b).1 = .absent ∧
      b.Quiet ((Ceremony.setUp (page config)).run b).2 := by
  have hq := quietly_note .noTrigger b h
  simp only [Ceremony.setUp, page, StateT.run_bind, StateT.run_get, StateT.run_pure, pure_bind, ht,
    Option.map_none]
  exact ⟨rfl, hq⟩

/-- Claiming a trigger that was not claimed and can be marked. -/
theorem run_claim (h : b.document.WellNumbered) (he : e ∈ b.document.elements)
    (hno : e.isClaimed = false)
    (hok : e.setData claimEntry claimMark = .ok e') :
    (claim e).run b = (true, { b with document := b.document.put e' }) := by
  have hchange : (change e.number (·.setData claimEntry claimMark)).run b
      = (none, { b with document := b.document.put e' }) := by
    show change _ _ b = _
    rw [change, Document.element?_number h he]
    dsimp only
    rw [hok]
  rw [claim, hno]
  show (((change e.number _).run b).1.isNone, ((change e.number _).run b).2) = _
  rw [hchange]
  rfl

theorem run_claim_refused (h : b.Sound) (he : e ∈ b.document.elements)
    (hno : e.isClaimed = true ∨ ∃ thrown, e.setData claimEntry claimMark = .error thrown) :
    (claim e).run b = (false, b) := by
  rcases hc : e.isClaimed with - | -
  · rcases hno with hno | ⟨thrown, hno⟩
    · rw [hc] at hno
      cases hno
    · have hchange : (change e.number (·.setData claimEntry claimMark)).run b
          = (some thrown, b) := by
        show change _ _ b = _
        rw [change, Document.element?_number h.numbered he]
        dsimp only
        rw [hno]
      rw [claim, hc]
      show (((change e.number _).run b).1.isNone, ((change e.number _).run b).2) = _
      rw [hchange]
      rfl
  · rw [claim, hc]
    rfl

/-- A trigger that is not claimed now is passed over. -/
theorem run_setUp_skipped (h : b.Sound) (ht : b.document.trigger? config = some (mode, e))
    (he : e.isClaimed = true ∨ ∃ thrown, e.setData claimEntry claimMark = .error thrown) :
    ((Ceremony.setUp (page config)).run b).1 = .skipped ∧
      b.Quiet ((Ceremony.setUp (page config)).run b).2 := by
  have hq := quietly_note (.claimedBefore mode) b h
  have hclaim := run_claim_refused h (List.mem_append_left _ (mem_of_trigger? ht)) he
  simp only [Ceremony.setUp, page, claimTrigger, StateT.run_bind, StateT.run_get, StateT.run_pure,
    pure_bind, ht, Option.map_some, hclaim]
  exact ⟨rfl, hq⟩

/-- What happens on any page behind a trigger that was claimed. -/
theorem run_setUp_claimed {σ : Type} {p : Page σ} {s s' : σ} {mode : Mode}
    (ht : p.trigger.run s = (some mode, s)) (hc : p.claimTrigger.run s = (true, s')) :
    (Ceremony.setUp p).run s =
      match Ceremony.decodeOptions mode (p.optionsText.run s').1 with
      | .error f => (.failed f, ((do p.note (.undecodable mode f); p.displayError f.key).run
          (p.optionsText.run s').2).2)
      | .ok o => (.ready (.fresh o), ((p.note (.ready mode)).run (p.optionsText.run s').2).2) := by
  rw [Ceremony.setUp, StateT.run_bind, ht]
  show StateT.run (p.claimTrigger >>= _) s = _
  rw [StateT.run_bind, hc]
  show StateT.run (p.optionsText >>= _) s' = _
  rw [StateT.run_bind]
  show StateT.run (match Ceremony.decodeOptions mode (p.optionsText.run s').1 with
    | .error f => _
    | .ok o => _) (p.optionsText.run s').2 = _
  split
  · rfl
  · rfl

end SetUp

/-! ### The load hook -/

section Load

variable {b : Browser} {config : Config}

/-- What becomes of the session after a setup. -/
def follow (config : Config) : Setup → StateM Browser (Option Failure)
  | .skipped => return none
  | .absent => do
    endSession
    return none
  | .failed failure => do
    log .loading .debug "Ceremony not offered" [("key", failure.key)]
    endSession
    return none
  | .ready c => do
    match (← get).document.trigger? config with
    | none => return some (.page "Trigger button disappeared")
    | some (_, e) =>
      beginSession c config e.number
      return none

theorem offerCeremony_eq (config : Config) :
    offerCeremony config = Ceremony.setUp (page config) >>= follow config := by
  refine congrArg (Ceremony.setUp (page config) >>= ·) (funext fun s => ?_)
  cases s <;> rfl

theorem run_offerCeremony {s : Setup} {b' : Browser}
    (hs : (Ceremony.setUp (page config)).run b = (s, b')) :
    (offerCeremony config).run b = (follow config s).run b' := by
  rw [offerCeremony_eq, StateT.run_bind, hs]
  rfl

/-- A ceremony that is ready gets the session, because its trigger is found again. -/
theorem run_follow_ready {mode : Mode} {e : Element} (c : Ceremony)
    (ht : b.document.trigger? config = some (mode, e)) :
    ((follow config (.ready c)).run b).2 = ((beginSession c config e.number).run b).2 := by
  simp only [follow, StateT.run_bind, StateT.run_get, pure_bind, ht]
  rfl

/-- Whatever is claimed bears the mark. -/
theorem marked_put {d : Document} {e e' : Element} (hd : d.WellNumbered) (he : e ∈ d.elements)
    (hok : e.setData claimEntry claimMark = .ok e') : (d.put e').Marked e.number := by
  refine ⟨hd.lt_next e he, ?_⟩
  intro x hx hn
  rw [Document.put, Document.elements_update] at hx
  obtain ⟨y, hy, rfl⟩ := List.mem_map.mp hx
  have hnumber : e'.number = e.number := (Element.keepsMark_claim e e' hok).1
  split at hn
  · next hy => exact if_pos hy ▸ Element.isClaimed_of_setData hok
  · next hy => exact absurd (hn.trans hnumber.symm) hy

/-- Claiming the trigger marks it. -/
theorem marked_claimed {mode : Mode} {e e' : Element} (h : b.Sound)
    (ht : b.document.trigger? config = some (mode, e)) (hno : e.isClaimed = false)
    (hok : e.setData claimEntry claimMark = .ok e') :
    b.Quiet { b with document := b.document.put e' } ∧ ¬ b.document.Marked e.number ∧
      (b.document.put e').Marked e.number := by
  have hmem : e ∈ b.document.elements := List.mem_append_left _ (mem_of_trigger? ht)
  have hq : b.Quiet { b with document := b.document.put e' } := by
    have hq := quietly_claim e b h
    rwa [run_claim h.numbered hmem hno hok] at hq
  refine ⟨hq, ?_, marked_put h.numbered hmem hok⟩
  rintro ⟨-, hmark⟩
  rw [hmark e hmem rfl] at hno
  cases hno

section Claimed

variable {mode : Mode} {e e' : Element}

/-- The setup behind a trigger that is claimed. -/
theorem run_setUp_put (h : b.Sound) (ht : b.document.trigger? config = some (mode, e))
    (hno : e.isClaimed = false) (hok : e.setData claimEntry claimMark = .ok e') :
    ∃ b', Quiet { b with document := b.document.put e' } b' ∧
      b'.document = b.document.put e' ∧
      (Ceremony.setUp (page config)).run b =
        match Ceremony.decodeOptions mode ((b.document.put e').optionsText? config) with
        | .error f =>
          (.failed f, ((do note (.undecodable mode f); (page config).displayError f.key :
            StateM Browser Unit).run b').2)
        | .ok o => (.ready (.fresh o), ((note (.ready mode)).run b').2) := by
  have hclaim : (claimTrigger config).run b = (true, { b with document := b.document.put e' }) := by
    have hrun := run_claim h.numbered (List.mem_append_left _ (mem_of_trigger? ht)) hno hok
    simp only [claimTrigger, StateT.run_bind, StateT.run_get, pure_bind, ht, hrun]
  have htrigger : (page config).trigger.run b = (some mode, b) := by
    show ((b.document.trigger? config).map (·.1), b) = _
    rw [ht]
    rfl
  obtain ⟨hq, -, -⟩ := marked_claimed h ht hno hok
  obtain ⟨htext, hdocument⟩ := run_optionsText config { b with document := b.document.put e' }
  have hrun := run_setUp_claimed htrigger hclaim
  refine ⟨_, quietly_optionsText config _ hq.sound, hdocument, hrun.trans ?_⟩
  show (match Ceremony.decodeOptions mode ((optionsText config).run _).1 with
    | .error f => _
    | .ok o => _) = _
  rw [htext]
  rfl

/-- A trigger that is claimed gets the session, or ends it if its options cannot be used. -/
theorem hooked_claimed (h : b.Sound) (ht : b.document.trigger? config = some (mode, e))
    (hno : e.isClaimed = false) (hok : e.setData claimEntry claimMark = .ok e') :
    b.Hooked
      (match Ceremony.decodeOptions mode ((b.document.put e').optionsText? config) with
        | .error _ => .failed e.number
        | .ok _ => .ready e.number)
      ((offerCeremony config).run b).2 := by
  -- claiming and reading the options are quiet; what follows depends on the options alone
  obtain ⟨b', hq', hdocument, hrun⟩ := run_setUp_put h ht hno hok
  obtain ⟨hq, hnot, hmarked⟩ := marked_claimed h ht hno hok
  have hq := hq.trans hq'
  rw [← hdocument] at hmarked
  rcases hd : Ceremony.decodeOptions mode ((b.document.put e').optionsText? config) with f | o
  · rw [hd] at hrun
    have hshown := ((quietly_note (.undecodable mode f)).bind fun _ =>
      quietly_displayError config f.key) b' hq.sound
    have hlogged := quietly_log .loading .debug "Ceremony not offered" [("key", f.key)] _
      hshown.sound
    rw [run_offerCeremony hrun]
    refine hooked_endSession (hq.trans (hshown.trans hlogged)) (fun _ => rfl) ?_
    intro n hn
    cases hn
    exact ⟨hnot, (hshown.trans hlogged).edit.marked_of hmarked⟩
  · rw [hd] at hrun
    have hnoted := quietly_note (.ready mode) b' hq.sound
    have hfound : ((note (.ready mode)).run b').2.document.trigger? config = some (mode, e') := by
      rw [document_note, hdocument]
      exact trigger?_put_claimed h.numbered ht hok
    have hnumber : e'.number = e.number := (Element.keepsMark_claim e e' hok).1
    rw [run_offerCeremony hrun, run_follow_ready _ hfound, hnumber]
    exact hooked_beginSession (hq.trans hnoted) _ _ ⟨hnot, hnoted.edit.marked_of hmarked⟩

end Claimed

/-- **Offering the ceremony of the page does what the verdict says.** -/
theorem hooked_offerCeremony (h : b.Sound) (hparts : b.missingPart? = none) :
    b.Hooked (b.verdict config) ((offerCeremony config).run b).2 := by
  have hno : b.missingPart?.isSome = false := by rw [hparts]; rfl
  rcases hsetup : (Ceremony.setUp (page config)).run b with ⟨s, b'⟩
  rw [verdict, hno, run_offerCeremony hsetup]
  simp only [Bool.false_eq_true, if_false]
  rcases ht : b.document.trigger? config with - | ⟨mode, e⟩
  · obtain ⟨hs, hq⟩ := run_setUp_absent h ht
    rw [hsetup] at hs hq
    cases hs
    exact hooked_endSession hq (fun _ => rfl) nofun
  dsimp only
  split
  · next hc =>
    obtain ⟨hs, hq⟩ := run_setUp_skipped h ht (.inl hc)
    rw [hsetup] at hs hq
    cases hs
    exact hq.hooked (fun _ => rfl) rfl
  next hc =>
  rw [Bool.not_eq_true] at hc
  split
  · next thrown he =>
    obtain ⟨hs, hq⟩ := run_setUp_skipped h ht (.inr ⟨thrown, he⟩)
    rw [hsetup] at hs hq
    cases hs
    exact hq.hooked (fun _ => rfl) rfl
  · next e' he => exact run_offerCeremony hsetup ▸ hooked_claimed h ht hc he

/-- What a load hook does behind the ceremony. -/
def finish (failure : Option Failure) : StateM Browser Unit := do
  if let some failure := failure then
    log .loading .error ("WebAuthn setup failed: " ++ failure.message) []
  bindAll

theorem quietly_finish (failure : Option Failure) : Quietly (finish failure) := by
  cases failure with
  | none => exact quietly_bindAll
  | some f => exact (quietly_log _ _ _ _).bind fun _ => quietly_bindAll

theorem run_load (hm : b.missingPart? = none) :
    (load config).run b = (offerCeremony config >>= finish).run b := by
  rw [load, StateT.run_bind, StateT.run_get, pure_bind]
  dsimp only
  rw [hm]
  rfl

theorem run_load_unavailable {failure : Failure} (hm : b.missingPart? = some failure) :
    (load config).run b = StateT.run (do
      log .loading .error ("WebAuthn setup failed: " ++ failure.message) []
      log .loading .error ("Widget setup failed: " ++ noDocument.message) []) b := by
  rw [load, StateT.run_bind, StateT.run_get, pure_bind]
  dsimp only
  rw [hm]
  rfl

/-- **A load hook does to the session what its verdict says**, and leaves runs
and tasks alone. -/
theorem hooked_load (h : b.Sound) (config : Config) :
    b.Hooked (b.verdict config) ((load config).run b).2 := by
  rcases hm : b.missingPart? with - | failure
  · have hoffer : b.Hooked (b.verdict config) ((offerCeremony config).run b).2 :=
      hooked_offerCeremony h hm
    rw [run_load hm, StateT.run_bind]
    exact hoffer.quiet (quietly_finish _ _ hoffer.sound)
  · have hv : b.verdict config = .unavailable := by
      rw [verdict, hm]
      rfl
    have hq : Quietly (log .loading .error ("WebAuthn setup failed: " ++ failure.message) [] >>=
        fun _ => log .loading .error ("Widget setup failed: " ++ noDocument.message) []) :=
      (quietly_log _ _ _ _).bind fun _ => quietly_log _ _ _ _
    rw [hv, run_load_unavailable hm]
    exact (hq b h).hooked (fun _ => rfl) rfl

end Load

end Passkey.Browser
