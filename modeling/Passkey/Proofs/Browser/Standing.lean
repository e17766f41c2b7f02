/-
Passkey/Proofs/Browser/Standing.lean

How buttons stand.

A button stands by whether it is disabled and whether it is marked as busy.
Clearing errors and showing one leave every element standing as it did.  Taking
the trigger and handing it back change how one element stands, and that is
the trigger of the moment: it is looked up by its id each time.
-/
import Passkey.Proofs.Browser.Likeness

namespace Passkey.Browser

/-- Whether an element is disabled, and whether it has a class. -/
def Element.standing (mark : String) (e : Element) : Bool × Bool :=
  ((e.attribute? "disabled").isSome, e.classes.contains mark)

/-- What takes a button and hands it back works on an element. -/
structure Element.Obeys (e : Element) : Prop where
  setAttribute : .setAttribute ∉ e.faults
  removeAttribute : .removeAttribute ∉ e.faults
  classList : .classList ∉ e.faults

instance (e : Element) : Decidable e.Obeys :=
  decidable_of_iff
    (.setAttribute ∉ e.faults ∧ .removeAttribute ∉ e.faults ∧ .classList ∉ e.faults)
    ⟨fun h => ⟨h.1, h.2.1, h.2.2⟩, fun h => ⟨h.setAttribute, h.removeAttribute, h.classList⟩⟩

/-- An element is looked up as before and stands as it did, unless it has a certain number. -/
structure Element.Stands (mark : String) (k : Option Nat) (e e' : Element) : Prop where
  number : e'.number = e.number
  tag : e'.tag = e.tag
  faults : e'.faults = e.faults
  id : e'.attribute? "id" = e.attribute? "id"
  standing : k ≠ some e.number → e'.standing mark = e.standing mark

namespace Document

/-- The number of the trigger. -/
def triggerNumber? (d : Document) (config : Config) : Option Nat :=
  (d.trigger? config).map (·.2.number)

/-- The trigger can be taken and handed back, if there is one. -/
def TriggerObeys (d : Document) (config : Config) : Prop :=
  ∀ found ∈ d.trigger? config, found.2.Obeys

instance (d : Document) (config : Config) : Decidable (d.TriggerObeys config) :=
  inferInstanceAs (Decidable (∀ found ∈ d.trigger? config, found.2.Obeys))

/-- Every element was there and stands as it did, but for the one with a number, if any, which
stands in a certain way. -/
def Restood (mark : String) (k : Option Nat) (s : Bool × Bool) (d d' : Document) : Prop :=
  ∀ e' ∈ d'.elements, ∃ e ∈ d.elements, e.number = e'.number ∧
    e'.standing mark = if k = some e'.number then s else e.standing mark

end Document

section Elements

variable {mark name : String} {k : Option Nat} {e e' : Element} {n : Nat}

theorem isLikeness_stands (mark : String) (k : Option Nat) :
    IsLikeness (Element.Stands mark k) where
  refl _ := ⟨rfl, rfl, rfl, rfl, fun _ => rfl⟩
  trans h h' := ⟨h'.number.trans h.number, h'.tag.trans h.tag, h'.faults.trans h.faults,
    h'.id.trans h.id, fun hk => (h'.standing (h.number ▸ hk)).trans (h.standing hk)⟩
  number h := h.number

theorem Element.Obeys.of_faults (h : e.Obeys) (hfaults : e'.faults = e.faults) : e'.Obeys :=
  ⟨hfaults ▸ h.setAttribute, hfaults ▸ h.removeAttribute, hfaults ▸ h.classList⟩

/-- The mark is one of the classes. -/
theorem standing_of_reclassed (h : e.Reclassed e')
    (hclass : mark ∈ e'.classes ↔ mark ∈ e.classes) : e'.standing mark = e.standing mark := by
  have hcontains : e'.classes.contains mark = e.classes.contains mark := by
    rw [Bool.eq_iff_iff, List.contains_iff_mem, List.contains_iff_mem]
    exact hclass
  rw [Element.standing, h.attribute? _ (by decide), hcontains, Element.standing]

theorem stands_of_reclassed (h : e.Reclassed e')
    (hclass : k ≠ some e.number → (mark ∈ e'.classes ↔ mark ∈ e.classes)) :
    Element.Stands mark k e e' :=
  ⟨h.number, h.tag, h.faults, h.attribute? _ (by decide), fun hk =>
    standing_of_reclassed h (hclass hk)⟩

/-- **Other classes than the mark** do not change how elements stand. -/
theorem mayClass_stands (hname : name ≠ mark) : MayClass (Likens (Element.Stands mark k)) name := by
  refine fun n => ⟨fun e e' _ he' => ?_, fun e e' _ he' => ?_⟩
  · refine stands_of_reclassed (Element.reclassed_of_addClass he') fun _ => ?_
    rw [Element.mem_classes_of_addClass he']
    exact or_iff_right (Ne.symm hname)
  · refine stands_of_reclassed (Element.reclassed_of_removeClass he') fun _ => ?_
    rw [Element.mem_classes_of_removeClass he']
    exact and_iff_right (Ne.symm hname)

/-- Disabling an element and enabling it again leave its id and its tag. -/
theorem stands_disabled (mark : String) (e : Element) :
    Element.Stands mark (some e.number) e (e.withAttribute "disabled" "") :=
  ⟨rfl, rfl, rfl, by rw [Element.attribute?_withAttribute, if_neg (by decide)], (absurd rfl ·)⟩

theorem stands_enabled (mark : String) (e : Element) :
    Element.Stands mark (some e.number) e
      { e with attributes := dropEntry "disabled" e.attributes } :=
  ⟨rfl, rfl, rfl, (lookup_dropEntry _ _ _).trans (if_neg (by decide)), (absurd rfl ·)⟩

/-- Whatever is done to the element with the number. -/
theorem likens_stands_taken (mark name : String) (n : Nat) :
    Likens (Element.Stands mark (some n)) n (·.setAttribute [.text "disabled", .text ""]) ∧
      Likens (Element.Stands mark (some n)) n (·.removeAttribute "disabled") ∧
      Likens (Element.Stands mark (some n)) n (·.addClass name) ∧
      Likens (Element.Stands mark (some n)) n (·.removeClass name) := by
  refine ⟨?_, ?_, ?_, ?_⟩
  · rintro e e' rfl he'
    rw [setAttribute_eq_ok (by decide +kernel) he']
    exact stands_disabled mark e
  · rintro e e' rfl he'
    rw [eq_of_guarded he']
    exact stands_enabled mark e
  · rintro e e' rfl he'
    exact stands_of_reclassed (Element.reclassed_of_addClass he') (absurd rfl ·)
  · rintro e e' rfl he'
    exact stands_of_reclassed (Element.reclassed_of_removeClass he') (absurd rfl ·)

end Elements

section Documents

variable {mark : String} {k : Option Nat} {s : Bool × Bool} {d d' d'' : Document} {config : Config}

/-- The trigger is looked up by its id and its tag. -/
theorem trigger?_map {g : Element → Element} (hg : ∀ e, Element.Stands mark k e (g e))
    (d : Document) (config : Config) :
    (d.map g).trigger? config = (d.trigger? config).map fun found => (found.1, g found.2) := by
  have hbutton (mode : Mode) :
      (d.map g).button? config mode = (d.button? config mode).map g := by
    rw [Document.button?, Document.button?, Document.byId?_map _ fun e _ => (hg e).id]
    cases d.byId? (config.text (buttonSetting mode)) with
    | none => rfl
    | some e =>
      have hhtml : (g e).isHtml = e.isHtml := by
        rw [Element.isHtml, Element.hasTag, (hg e).tag]
        rfl
      rw [Option.map_some, Option.filter_some, Option.filter_some, hhtml]
      split <;> rfl
  rw [Document.trigger?, Document.trigger?, List.findSome?_cons, List.findSome?_cons, hbutton,
    List.findSome?_cons, List.findSome?_cons, hbutton]
  cases d.button? config .registration with
  | some e => rfl
  | none => cases d.button? config .authentication <;> rfl

theorem triggerNumber?_of_inPlace (h : d.InPlace (Element.Stands mark k) d') (config : Config) :
    d'.triggerNumber? config = d.triggerNumber? config := by
  obtain ⟨g, hg, rfl⟩ := h
  rw [Document.triggerNumber?, trigger?_map hg, Option.map_map, Document.triggerNumber?]
  exact Option.map_congr fun found _ => (hg found.2).number

theorem triggerObeys_of_inPlace (h : d.InPlace (Element.Stands mark k) d') :
    d'.TriggerObeys config ↔ d.TriggerObeys config := by
  obtain ⟨g, hg, rfl⟩ := h
  rw [Document.TriggerObeys, trigger?_map hg, Document.TriggerObeys]
  cases d.trigger? config with
  | none => exact iff_of_true nofun nofun
  | some found =>
    have hfaults := (hg found.2).faults
    simp only [Option.map_some, Option.mem_def, Option.some.injEq, forall_eq']
    exact ⟨fun ho => ho.of_faults hfaults.symm, fun ho => ho.of_faults hfaults⟩

/-! ### Documents one after the other -/

/-- What is like before stands as it did. -/
theorem Document.Restood.of_alike (hlike : d.Alike (Element.Stands mark none) d')
    (h : d'.Restood mark k s d'') : d.Restood mark k s d'' := by
  intro e'' he''
  obtain ⟨e', he', hnumber, hstanding⟩ := h e'' he''
  obtain ⟨e, he, hstands⟩ := hlike.like he'
  refine ⟨e, he, hstands.number.symm.trans hnumber, ?_⟩
  rw [hstanding, hstands.standing nofun]

theorem restood_of_inPlace {e' : Element} (h : d.InPlace (Element.Stands mark (some e'.number)) d')
    (hd' : d'.WellNumbered) (he' : e' ∈ d'.elements) (hs : e'.standing mark = s) :
    d.Restood mark (some e'.number) s d' := by
  intro x' hx'
  obtain ⟨x, hx, hstands⟩ := h.alike.like hx'
  refine ⟨x, hx, hstands.number.symm, ?_⟩
  split
  · next hn =>
    -- the number belongs to one element only
    have hsame := List.inj_on_of_nodup_map hd'.nodup he' hx' (Option.some.inj hn)
    rw [← hsame, hs]
  · next hn => exact hstands.standing fun hsame => hn (hsame.trans (by rw [hstands.number]))

end Documents

/-! ### Taking the trigger and handing it back -/

section Actions

variable {mark : String} {b : Browser} {config : Config} {e : Element}

/-- **The trigger of the moment** is the only element that is changed. -/
theorem along_setBusy (config : Config) (mark : String) (busy : Bool) (b : Browser) :
    Along (Document.InPlace (Element.Stands mark (b.document.triggerNumber? config))) b
      ((setBusy config busy).run b).2 := by
  refine setBusy_stays (isFrame_inPlace (isLikeness_stands mark _)) busy fun mode e ht => ?_
  have hnumber : b.document.triggerNumber? config = some e.number := by
    rw [Document.triggerNumber?, ht]
    rfl
  rw [hnumber]
  exact likens_stands_taken mark _ e.number

/-- A button is disabled or enabled. -/
theorem exists_disabling (hb : b.document.WellNumbered) (he : e ∈ b.document.elements)
    (hobeys : e.Obeys) (busy : Bool) (hset : busy = true → b.hasSetAttribute = true) :
    ∃ e₁, Element.Stands mark (some e.number) e e₁ ∧ (e₁.attribute? "disabled").isSome = busy ∧
      (if busy then writeAttribute e.number "disabled" ""
        else change e.number (·.removeAttribute "disabled")).run b
        = (none, { b with document := b.document.put e₁ }) := by
  cases busy with
  | true =>
    have hwritten : e.setAttribute [.text "disabled", .text ""]
        = .ok (e.withAttribute "disabled" "") := by
      rw [Element.setAttribute, if_neg (by simpa using hobeys.setAttribute)]
      rfl
    refine ⟨_, stands_disabled mark e, ?_, ?_⟩
    · rw [Element.attribute?_withAttribute, if_pos rfl]
      rfl
    · rw [if_pos rfl, run_writeAttribute (by decide), hset rfl, if_pos rfl,
        run_change hb he hwritten]
  | false =>
    have hremoved : e.removeAttribute "disabled"
        = .ok { e with attributes := dropEntry "disabled" e.attributes } := by
      rw [Element.removeAttribute, Element.guarded, if_neg (by simpa using hobeys.removeAttribute)]
    refine ⟨_, stands_enabled mark e, ?_, ?_⟩
    · rw [Element.attribute?, lookup_dropEntry, if_pos rfl]
      rfl
    · rw [if_neg Bool.false_ne_true, run_change hb he hremoved]

/-- A button is marked or unmarked. -/
theorem exists_marking (hobeys : e.Obeys) (hmark : Element.IsToken mark) (busy : Bool) :
    ∃ e₁, (if busy then e.addClass mark else e.removeClass mark) = .ok e₁ ∧ e.Reclassed e₁ ∧
      e₁.classes.contains mark = busy := by
  obtain ⟨⟨added, hadd⟩, removed, hremove⟩ := Element.exists_class_eq_ok hobeys.classList hmark
  cases busy with
  | true =>
    refine ⟨added, hadd, Element.reclassed_of_addClass hadd, ?_⟩
    rw [List.contains_iff_mem, Element.mem_classes_of_addClass hadd]
    exact .inl rfl
  | false =>
    refine ⟨removed, hremove, Element.reclassed_of_removeClass hremove, ?_⟩
    rw [Bool.eq_false_iff, Ne, List.contains_iff_mem, Element.mem_classes_of_removeClass hremove]
    exact fun hmem => hmem.1 rfl

/-- A browser with a button that was taken or handed back. -/
theorem run_setBusy {mode : Mode} (hb : b.document.WellNumbered)
    (ht : b.document.trigger? config = some (mode, e)) (hobeys : e.Obeys)
    (hmark : Element.IsToken (config.text .busyClass)) (busy : Bool)
    (hset : busy = true → b.hasSetAttribute = true) :
    ∃ e', e'.number = e.number ∧ e'.standing (config.text .busyClass) = (busy, busy) ∧
      e' ∈ ((setBusy config busy).run b).2.document.elements := by
  have he : e ∈ b.document.elements := List.mem_append_left _ (mem_of_trigger? ht)
  obtain ⟨e₁, hstands, hdisabled, hrun₁⟩ := exists_disabling hb he hobeys busy hset
  obtain ⟨hplace, hb₁, -⟩ := along_put (isLikeness_stands (config.text .busyClass) _) he hstands hb
  have he₁ := mem_put e₁ he hstands.number
  obtain ⟨e₂, hmarked, hreclassed, hclass⟩ :=
    exists_marking (hobeys.of_faults hstands.faults) hmark busy
  have hrun₂ : (change e.number fun e => if busy then e.addClass (config.text .busyClass)
      else e.removeClass (config.text .busyClass)).run { b with document := b.document.put e₁ }
      = (none, { b with document := (b.document.put e₁).put e₂ }) := by
    rw [← hstands.number]
    exact run_change hb₁ he₁ hmarked
  have hdone : ((setBusy config busy).run b).2
      = { b with document := (b.document.put e₁).put e₂ } := by
    rw [setBusy, StateT.run_bind, StateT.run_get, pure_bind, ht]
    dsimp only
    cases busy
    on_goal 1 => rw [if_neg Bool.false_ne_true] at hrun₁ ⊢
    on_goal 2 => rw [if_pos rfl] at hrun₁ ⊢
    -- whichever it is, the mark comes second
    all_goals
      rw [StateT.run_bind, hrun₁]
      show (StateT.run (change e.number _ >>= _) _).2 = _
      rw [StateT.run_bind, hrun₂]
      rfl
  refine ⟨e₂, hreclassed.number.trans hstands.number, ?_, ?_⟩
  · rw [Element.standing, hclass, hreclassed.attribute? _ (by decide), hdisabled]
  · rw [hdone]
    exact mem_put e₂ he₁ hreclassed.number

/-- **Taking the trigger or handing it back** changes how that one button stands. -/
theorem restood_setBusy (hb : b.document.WellNumbered) (hobeys : b.document.TriggerObeys config)
    (hmark : Element.IsToken (config.text .busyClass)) (busy : Bool)
    (hset : busy = true → b.hasSetAttribute = true) :
    b.document.Restood (config.text .busyClass) (b.document.triggerNumber? config) (busy, busy)
      ((setBusy config busy).run b).2.document := by
  obtain ⟨hplace, hb', -⟩ := along_setBusy config (config.text .busyClass) busy b hb
  cases ht : b.document.trigger? config with
  | none =>
    intro e' he'
    obtain ⟨e, he, hstands⟩ := hplace.alike.like he'
    rw [Document.triggerNumber?, ht] at hstands ⊢
    exact ⟨e, he, hstands.number.symm, hstands.standing nofun⟩
  | some found =>
    obtain ⟨mode, e⟩ := found
    obtain ⟨e', hnumber, hstanding, he'⟩ :=
      run_setBusy hb ht (hobeys _ ht) hmark busy hset
    have htrigger : b.document.triggerNumber? config = some e'.number := by
      rw [Document.triggerNumber?, ht, hnumber]
      rfl
    rw [htrigger] at hplace ⊢
    exact restood_of_inPlace hplace hb' he' hstanding

end Actions

/-! ### Beginning and failing -/

section Ends

variable {b : Browser} {config : Config} {c : Ceremony}

/-- What the settings have to say for buttons to be marked and unmarked: the mark is the name of a
class, and it is not the class that hides. -/
structure Marks (config : Config) : Prop where
  token : Element.IsToken (config.text .busyClass)
  hidden : config.text .hiddenClass ≠ config.text .busyClass

instance (config : Config) : Decidable (Marks config) :=
  decidable_of_iff
    (Element.IsToken (config.text .busyClass) ∧ config.text .hiddenClass ≠ config.text .busyClass)
    ⟨fun h => ⟨h.1, h.2⟩, fun h => ⟨h.token, h.hidden⟩⟩

/-- **A run that begins takes the trigger**, and every other element stands as it did. -/
theorem restood_start (hmark : Marks config) (hb : b.document.WellNumbered)
    (hobeys : b.document.TriggerObeys config) (hset : b.hasSetAttribute = true)
    (hfree : c.inFlight = false) :
    b.document.Restood (config.text .busyClass) (b.document.triggerNumber? config) (true, true)
        ((c.start (page config)).run b).2.document ∧
      ((c.start (page config)).run b).2.document.WellNumbered := by
  have hclear := stays_clearErrors
    (isFrame_inPlace (isLikeness_stands (config.text .busyClass) none))
    (mayClass_stands hmark.hidden) b
  have hrun : ((c.start (page config)).run b).2
      = ((setBusy config true).run ((page config).clearErrors.run b).2).2 := by
    rw [Ceremony.start, hfree]
    rfl
  rw [hrun]
  generalize ((page config).clearErrors.run b).2 = b₁ at hclear ⊢
  obtain ⟨hplace, hb₁, haround⟩ := hclear hb
  have hset₁ : b₁.hasSetAttribute = true := by
    rw [hasSetAttribute, lacks, lacks, haround.surroundings]
    exact hset
  have htaken := restood_setBusy hb₁ ((triggerObeys_of_inPlace hplace).mpr hobeys) hmark.token true
    fun _ => hset₁
  rw [triggerNumber?_of_inPlace hplace] at htaken
  exact ⟨htaken.of_alike hplace.alike,
    (along_setBusy config (config.text .busyClass) true b₁ hb₁).2.1⟩

/-- **A run that fails hands back the trigger of that moment**, and every other element stands
as it did. -/
theorem restood_fail (hmark : Marks config) (hb : b.document.WellNumbered) (c : Ceremony)
    (failure : Failure)
    (hobeys : ((c.fail (page config) failure).run b).2.document.TriggerObeys config) :
    b.document.Restood (config.text .busyClass)
      (((c.fail (page config) failure).run b).2.document.triggerNumber? config) (false, false)
      ((c.fail (page config) failure).run b).2.document := by
  have hframe := isFrame_alike (isLikeness_stands (config.text .busyClass) none)
  have hshown : Stays (Along (Document.Alike (Element.Stands (config.text .busyClass) none)))
      ((page config).note (.failed failure) >>= fun _ => (page config).displayError failure.key) :=
    stays_bind hframe (stays_note hframe _) fun _ =>
      stays_displayError hframe (mayClass_stands hmark.hidden)
        (allowsText_alike (isLikeness_stands _ none)
          fun _ _ => ⟨rfl, rfl, rfl, rfl, fun _ => rfl⟩) _
  have hrun : ((c.fail (page config) failure).run b).2 = ((setBusy config false).run
      (((page config).note (.failed failure) >>= fun _ =>
        (page config).displayError failure.key).run b).2).2 := rfl
  obtain ⟨halike, hb₁, -⟩ := hshown b hb
  rw [hrun] at hobeys ⊢
  generalize (((page config).note (.failed failure) >>= fun _ =>
    (page config).displayError failure.key).run b).2 = b₁ at halike hb₁ hobeys ⊢
  -- the trigger is looked up once the error is shown
  obtain ⟨hplace, -, -⟩ := along_setBusy config (config.text .busyClass) false b₁ hb₁
  rw [triggerNumber?_of_inPlace hplace]
  have hfreed := restood_setBusy hb₁ ((triggerObeys_of_inPlace hplace).mp hobeys) hmark.token false
    nofun
  exact hfreed.of_alike halike

end Ends

end Passkey.Browser
