/-
Passkey/Proofs/Browser/Binding.lean

Widgets are bound once.

A load hook binds the widgets that it finds: it claims an element and attaches
the listeners of its part, and what bears the mark already is passed over.  So
an element that plays one part has exactly one set of listeners from the first
hook on that finds it (`Tour.wires`), however often hooks come and whatever
becomes of the page in between, as long as scripts leave the marks alone.

A hook first offers the ceremony and binds the widgets then, on the page that
the first part leaves behind (`offered`).  The trigger of the page is marked in
the first part, so an element that is the trigger as well would be passed over
in the second.
-/
import Passkey.Proofs.Browser.Likeness

namespace Passkey.Browser

/-! ### Parts and wires -/

/-- The events that listeners at an element hear, and what they do. -/
def wires (b : Browser) (n : Nat) : List (String × Handler) :=
  (b.listeners.filter (·.place == .element n)).map fun l => (l.event, l.handler)

/-- What an element can be to the load hook, beside the trigger. -/
inductive Part where
  | widget (role : Role)
  | resendButton
deriving DecidableEq

namespace Part

/-- The elements of a page that play a part. -/
def players (d : Document) : Part → List Element
  | widget role => d.selectHtml (ofClass role.className)
  | resendButton => ((d.byId? resendButtonId).filter (·.isHtml)).toList

/-- All parts. -/
def all : List Part :=
  Role.all.map .widget ++ [.resendButton]

theorem mem_all (part : Part) : part ∈ all := by
  cases part with
  | resendButton => decide
  | widget role => cases role <;> decide

/-- The listeners of a part.  The resend button has a timer instead. -/
def wires (n : Nat) : Part → List (String × Handler)
  | widget role => role.listeners n
  | resendButton => []

end Part

/-- An element of a page plays a part. -/
def Document.Plays (d : Document) (n : Nat) (part : Part) : Prop :=
  n ∈ (part.players d).map (·.number)

instance (d : Document) (n : Nat) (part : Part) : Decidable (d.Plays n part) :=
  inferInstanceAs (Decidable (_ ∈ _))

/-- Whether a timer is there to enable a resend button. -/
def Timer.enables (t : Timer) (n : Nat) : Bool :=
  match t.alarm with
  | .enableResend button _ => button == n
  | .abort _ => false

/-- The timers that will enable a resend button. -/
def resendTimers (b : Browser) (n : Nat) : List Timer :=
  b.timers.filter (·.enables n)

/-- What bears a number bears no mark. -/
def Document.Unmarked (d : Document) (n : Nat) : Prop :=
  ∀ e ∈ d.elements, e.number = n → e.isClaimed = false

instance (d : Document) (n : Nat) : Decidable (d.Unmarked n) :=
  inferInstanceAs (Decidable (∀ e ∈ _, _))

/-- An element can be marked. -/
def Document.Markable (d : Document) (n : Nat) : Prop :=
  ∀ e ∈ d.elements, e.number = n → .dataset ∉ e.faults ∧ .setAttribute ∉ e.faults

instance (d : Document) (n : Nat) : Decidable (d.Markable n) :=
  inferInstanceAs (Decidable (∀ e ∈ _, _))

theorem wires_eq_of_listeners {b b' : Browser} (h : b'.listeners = b.listeners) (n : Nat) :
    b'.wires n = b.wires n := by
  rw [wires, wires, h]

/-! ### Marks in place -/

/-- An element that differs from another one in its mark at most. -/
structure Element.Remarked (e e' : Element) : Prop where
  number : e'.number = e.number
  tag : e'.tag = e.tag
  faults : e'.faults = e.faults
  attribute? : ∀ name, name ≠ "data-initialized" → e'.attribute? name = e.attribute? name

/-- Elements keep everything but their marks, and the one with a number keeps that, too. -/
def SparesMark (n : Nat) (e e' : Element) : Prop :=
  e.Remarked e' ∧ (e.number = n → e' = e)

section Marks

variable {n : Nat} {e e' : Element} {d d' : Document} {part : Part}

theorem isLikeness_remarked : IsLikeness Element.Remarked where
  refl _ := ⟨rfl, rfl, rfl, fun _ _ => rfl⟩
  trans h h' := ⟨h'.number.trans h.number, h'.tag.trans h.tag, h'.faults.trans h.faults,
    fun name hname => (h'.attribute? name hname).trans (h.attribute? name hname)⟩
  number h := h.number

theorem isLikeness_sparesMark (n : Nat) : IsLikeness (SparesMark n) where
  refl e := ⟨isLikeness_remarked.refl e, fun _ => rfl⟩
  trans := by
    intro e e' e'' h h'
    refine ⟨isLikeness_remarked.trans h.1 h'.1, fun hn => ?_⟩
    rw [h'.2 (h.1.number.trans hn), h.2 hn]
  number h := h.1.number

theorem remarked_of_setData (h : e.setData claimEntry claimMark = .ok e') : e.Remarked e' := by
  rw [Element.setData_claim_eq_ok h]
  refine ⟨rfl, rfl, rfl, fun name hname => ?_⟩
  rw [Element.attribute?_withAttribute, if_neg hname]

theorem exists_setData_eq_ok (h : .dataset ∉ e.faults ∧ .setAttribute ∉ e.faults) :
    ∃ e', e.setData claimEntry claimMark = .ok e' := by
  have hguard {fault : ElementFault} (hno : fault ∉ e.faults) (thrown : ScriptValue)
      (changed : Element) : e.guarded fault thrown changed = .ok changed := by
    rw [Element.guarded, if_neg]
    simpa using hno
  rw [Element.setData, hguard h.1]
  dsimp only
  rw [hguard h.2]
  exact ⟨_, rfl⟩

/-- Claiming another element spares the mark of this one. -/
theorem likens_sparesMark {m : Nat} (h : m ≠ n) :
    Likens (SparesMark n) m (·.setData claimEntry claimMark) := by
  rintro e e' rfl he'
  exact ⟨remarked_of_setData he', fun hn => absurd hn h⟩

theorem isHtml_of_remarked (h : e.Remarked e') : e'.isHtml = e.isHtml := by
  rw [Element.isHtml, Element.isHtml, Element.hasTag, Element.hasTag, h.tag]

/-- Marks do not matter for the parts that elements play. -/
theorem players_of_inPlace (h : d.InPlace Element.Remarked d') (part : Part) :
    ∃ g : Element → Element, (∀ e : Element, e.Remarked (g e)) ∧
      part.players d' = (part.players d).map g := by
  obtain ⟨g, hg, rfl⟩ := h
  refine ⟨g, hg, ?_⟩
  cases part with
  | widget role =>
    have hclasses (e : Element) :
        (g e).classes.contains role.className = e.classes.contains role.className := by
      rw [Element.classes, (hg e).attribute? "class" (by decide), Element.classes]
    have hhtml (e : Element) : (g e).isHtml = e.isHtml := isHtml_of_remarked (hg e)
    show ((d.map g).select _).filter _ = ((d.select _).filter _).map g
    rw [Document.select_ofClass, Document.select_ofClass, Document.map, Forest.elements_map,
      List.filter_map, List.filter_map]
    simp only [Function.comp_def, hclasses, hhtml]
  | resendButton =>
    have hid (e : Element) : (g e).attribute? "id" = e.attribute? "id" :=
      (hg e).attribute? "id" (by decide)
    show (((d.map g).byId? _).filter _).toList = ((d.byId? _).filter _).toList.map g
    rw [Document.byId?_map _ fun e _ => hid e]
    cases d.byId? resendButtonId with
    | none => rfl
    | some e =>
      rw [Option.map_some, Option.filter_some, Option.filter_some, isHtml_of_remarked (hg e)]
      split <;> rfl

theorem plays_of_inPlace (part : Part) (h : d.InPlace Element.Remarked d') :
    d'.Plays n part ↔ d.Plays n part := by
  obtain ⟨g, hg, hplayers⟩ := players_of_inPlace h part
  have hnumbers : ((part.players d).map g).map (·.number) = (part.players d).map (·.number) := by
    rw [List.map_map]
    exact List.map_congr_left fun e _ => (hg e).number
  rw [Document.Plays, Document.Plays, hplayers, hnumbers]

/-- Players are elements of the page, each of them once. -/
theorem sublist_players (d : Document) (part : Part) :
    (part.players d).Sublist d.tree.elements := by
  cases part with
  | widget role =>
    show ((d.select _).filter _).Sublist _
    rw [Document.select_ofClass]
    exact List.filter_sublist.trans List.filter_sublist
  | resendButton =>
    show ((d.byId? _).filter _).toList.Sublist _
    cases hfind : (d.byId? resendButtonId).filter (·.isHtml) with
    | none => exact List.nil_sublist _
    | some e =>
      have hmem := mem_of_byId? (Option.eq_some_of_filter_eq_some hfind)
      exact List.singleton_sublist.mpr hmem

end Marks

/-! ### Binding one element -/

/-- Nothing becomes of an element, of what listens at it, or of its timer. -/
structure Untouched (n : Nat) (b b' : Browser) : Prop where
  document : b.document.InPlace (SparesMark n) b'.document
  wires : b'.wires n = b.wires n
  timers : b'.resendTimers n = b.resendTimers n

/-- An element is marked and gets listeners, and at most so many timers. -/
structure Bound (n : Nat) (ws : List (String × Handler)) (count : Nat) (b b' : Browser) : Prop where
  document : b.document.InPlace Element.Remarked b'.document
  marked : b'.document.Marked n
  wires : b'.wires n = b.wires n ++ ws
  timers : ∃ ts : List Timer, b'.resendTimers n = b.resendTimers n ++ ts ∧ ts.length ≤ count

section Bound

variable {n count : Nat} {ws : List (String × Handler)} {b b' b'' : Browser} {e e' : Element}

theorem Untouched.refl (n : Nat) (b : Browser) : Untouched n b b :=
  ⟨.refl (isLikeness_sparesMark n) _, rfl, rfl⟩

theorem Untouched.trans (h : Untouched n b b') (h' : Untouched n b' b'') : Untouched n b b'' where
  document := h.document.trans (isLikeness_sparesMark n) h'.document
  wires := h'.wires.trans h.wires
  timers := h'.timers.trans h.timers

theorem Untouched.inPlace (h : Untouched n b b') :
    b.document.InPlace Element.Remarked b'.document :=
  h.document.mono fun _ _ hspared => hspared.1

theorem Untouched.wellNumbered (h : Untouched n b b') (hb : b.document.WellNumbered) :
    b'.document.WellNumbered :=
  h.document.alike.wellNumbered (isLikeness_sparesMark n) hb

/-- The element itself is as it was. -/
theorem Untouched.mem (h : Untouched n b b') (he' : e' ∈ b'.document.elements)
    (hn : e'.number = n) : e' ∈ b.document.elements := by
  obtain ⟨e, he, hspared⟩ := h.document.alike.like he'
  rw [hspared.2 (hspared.1.number.symm.trans hn)]
  exact he

theorem Untouched.mem' (h : Untouched n b b') (he : e ∈ b.document.elements)
    (hn : e.number = n) : e ∈ b'.document.elements := by
  obtain ⟨e', he', hspared⟩ := h.document.alike.exists_like he
  exact hspared.2 hn ▸ he'

theorem Untouched.unmarked (h : Untouched n b b') (hno : b.document.Unmarked n) :
    b'.document.Unmarked n :=
  fun e he hn => hno e (h.mem he hn) hn

theorem Untouched.marked (h : Untouched n b b') (hyes : b.document.Marked n) :
    b'.document.Marked n :=
  ⟨h.document.alike.1 ▸ hyes.1, fun e he hn => hyes.2 e (h.mem he hn) hn⟩

theorem Untouched.markable (h : Untouched n b b') (hmay : b.document.Markable n) :
    b'.document.Markable n :=
  fun e he hn => hmay e (h.mem he hn) hn

theorem Untouched.bound (h : Untouched n b b') (h' : Bound n ws count b' b'') :
    Bound n ws count b b'' where
  document := h.inPlace.trans isLikeness_remarked h'.document
  marked := h'.marked
  wires := h'.wires.trans (congrArg (· ++ _) h.wires)
  timers := by
    rw [← h.timers]
    exact h'.timers

theorem Bound.untouched (h : Bound n ws count b b') (h' : Untouched n b' b'') :
    Bound n ws count b b'' where
  document := h.document.trans isLikeness_remarked h'.inPlace
  marked := h'.marked h.marked
  wires := h'.wires.trans h.wires
  timers := by
    rw [h'.timers]
    exact h.timers

/-- Whatever changes no listeners and no timers. -/
theorem untouched_of_along (hb : b.document.WellNumbered)
    (h : Along (Document.InPlace (SparesMark n)) b b') : Untouched n b b' := by
  obtain ⟨hplace, -, haround⟩ := h hb
  exact ⟨hplace, wires_eq_of_listeners haround.listeners n,
    congrArg (List.filter _) haround.timers⟩

end Bound

section Claims

variable {n : Nat} {b : Browser} {e : Element} {es : List Element} {role : Role}

theorem sublist_claimAll (es : List Element) (b : Browser) :
    ((claimAll es).run b).1.Sublist (es.map (·.number)) := by
  induction es generalizing b with
  | nil => exact .refl _
  | cons e es ih =>
    have hrest := ih ((claim e).run b).2
    show (if ((claim e).run b).1 then _ else _ : List Nat).Sublist (e.number :: _)
    split
    · exact hrest.cons_cons _
    · exact hrest.cons _

/-- **Claiming passes over what is claimed already.** -/
theorem claimAll_of_claimed {es : List Element} (hb : b.document.WellNumbered)
    (h : ∀ e ∈ es, e.number = n → e.isClaimed = true) :
    n ∉ ((claimAll es).run b).1 ∧ Untouched n b ((claimAll es).run b).2 := by
  induction es generalizing b with
  | nil => exact ⟨List.not_mem_nil, .refl n b⟩
  | cons e es ih =>
    have hrest : ∀ e ∈ es, e.number = n → e.isClaimed = true :=
      fun e he => h e (List.mem_cons_of_mem _ he)
    have hfirst : (((claim e).run b).1 = true → e.number ≠ n) ∧
        Untouched n b ((claim e).run b).2 := by
      by_cases hn : e.number = n
      · have hrun : (claim e).run b = (false, b) := by
          rw [claim, h e List.mem_cons_self hn]
          rfl
        rw [hrun]
        exact ⟨fun hfresh => absurd hfresh Bool.false_ne_true, .refl n b⟩
      · have hstays := stays_claim (isFrame_inPlace (isLikeness_sparesMark n))
          (likens_sparesMark hn) b
        exact ⟨fun _ => hn, untouched_of_along hb hstays⟩
    obtain ⟨hnot, huntouched⟩ := ih (hfirst.2.wellNumbered hb) hrest
    refine ⟨?_, hfirst.2.trans huntouched⟩
    show n ∉ (if ((claim e).run b).1 then _ else _ : List Nat)
    split
    · next hfresh =>
      rw [List.mem_cons, not_or]
      exact ⟨Ne.symm (hfirst.1 hfresh), hnot⟩
    · exact hnot

/-- Claiming what was not claimed. -/
theorem bound_claim (hb : b.document.WellNumbered) (he : e ∈ b.document.elements)
    (hno : e.isClaimed = false) (hmay : b.document.Markable e.number) :
    ((claim e).run b).1 = true ∧ Bound e.number [] 0 b ((claim e).run b).2 := by
  obtain ⟨e', he'⟩ := exists_setData_eq_ok (hmay e he rfl)
  have hplace := stays_claim (isFrame_inPlace isLikeness_remarked) (e := e)
    (fun x x' _ hx' => remarked_of_setData hx') b hb
  rw [run_claim hb he hno he'] at hplace ⊢
  exact ⟨rfl, hplace.1, marked_put hb he he', (List.append_nil _).symm, [],
    (List.append_nil _).symm, Nat.le_refl 0⟩

/-- **Claiming marks what was not claimed**, and answers it. -/
theorem claimAll_of_unclaimed (hb : b.document.WellNumbered) (hnodup : (es.map (·.number)).Nodup)
    (hmem : e ∈ es) (he : e ∈ b.document.elements) (hno : e.isClaimed = false)
    (hmay : b.document.Markable e.number) :
    e.number ∈ ((claimAll es).run b).1 ∧ Bound e.number [] 0 b ((claimAll es).run b).2 := by
  induction es generalizing b with
  | nil => cases hmem
  | cons x es ih =>
    rw [List.map_cons, List.nodup_cons] at hnodup
    by_cases hx : x.number = e.number
    · -- the other ones bear other numbers
      have hsame : x = e := by
        rcases List.mem_cons.mp hmem with rfl | hmem
        · rfl
        · exact absurd (hx ▸ List.mem_map_of_mem hmem) hnodup.1
      subst hsame
      obtain ⟨hfresh, hbound⟩ := bound_claim hb he hno hmay
      have hb' := hbound.document.alike.wellNumbered isLikeness_remarked hb
      have hothers : ∀ y ∈ es, y.number = x.number → y.isClaimed = true := fun y hy hn =>
        absurd (hn ▸ List.mem_map_of_mem hy) hnodup.1
      obtain ⟨-, hrest⟩ := claimAll_of_claimed hb' hothers
      refine ⟨?_, hbound.untouched hrest⟩
      show x.number ∈ (if ((claim x).run b).1 then _ else _ : List Nat)
      rw [hfresh]
      exact List.mem_cons_self
    · have hmem : e ∈ es := by
        refine List.mem_of_ne_of_mem ?_ hmem
        rintro rfl
        exact hx rfl
      have hfirst := untouched_of_along hb (stays_claim
        (isFrame_inPlace (isLikeness_sparesMark e.number)) (likens_sparesMark hx) b)
      obtain ⟨hfresh, hbound⟩ := ih (hfirst.wellNumbered hb) hnodup.2 hmem (hfirst.mem' he rfl)
        (hfirst.markable hmay)
      refine ⟨?_, hfirst.bound hbound⟩
      show e.number ∈ (if ((claim x).run b).1 then _ else _ : List Nat)
      split
      · exact List.mem_cons_of_mem _ hfresh
      · exact hfresh

end Claims

/-! ### Binding all widgets -/

section Bind

variable {n m count : Nat} {ws : List (String × Handler)} {b b' : Browser} {e : Element}
  {role : Role} {part : Part}

/-- Binding an element attaches the listeners of its part. -/
theorem run_bindElement (role : Role) (m : Nat) (b : Browser) :
    ((bindElement role m).run b).2 =
      { b with listeners := b.listeners ++
          (role.listeners m).map fun w => ⟨.element m, w.1, w.2⟩ } := by
  cases role
  case passwordToggle =>
    show { b with listeners := (b.listeners ++ [_]) ++ [_] } = _
    rw [List.append_assoc]
    rfl
  all_goals rfl

theorem wires_bindElement (role : Role) (m : Nat) (b : Browser) (n : Nat) :
    ((bindElement role m).run b).2.wires n
      = b.wires n ++ if m = n then role.listeners n else [] := by
  rw [run_bindElement, wires, List.filter_append, List.map_append, List.filter_map]
  refine congrArg (b.wires n ++ ·) ?_
  split
  · next h =>
    subst h
    simp [Function.comp_def]
  · next h =>
    have hplace : (Place.element m == .element n) = false := by simpa using h
    simp [Function.comp_def, hplace]

/-- Binding elements changes listeners alone, and an element among them gets those of its part. -/
theorem run_bindElements {fresh : List Nat} (hnodup : fresh.Nodup) (role : Role) (b : Browser)
    (n : Nat) :
    ((fresh.forM (bindElement role)).run b).2.document = b.document ∧
      ((fresh.forM (bindElement role)).run b).2.timers = b.timers ∧
      ((fresh.forM (bindElement role)).run b).2.wires n
        = b.wires n ++ if n ∈ fresh then role.listeners n else [] := by
  induction fresh generalizing b with
  | nil => exact ⟨rfl, rfl, (List.append_nil _).symm⟩
  | cons m fresh ih =>
    obtain ⟨hnot, hnodup⟩ := List.nodup_cons.mp hnodup
    obtain ⟨hdocument, htimers, hwires⟩ := ih hnodup ((bindElement role m).run b).2
    have hfirst := run_bindElement role m b
    rw [wires_bindElement] at hwires
    refine ⟨hdocument.trans (congrArg (·.document) hfirst),
      htimers.trans (congrArg (·.timers) hfirst), hwires.trans ?_⟩
    by_cases hm : m = n
    · -- it is not among the others
      subst hm
      rw [if_pos rfl, if_neg hnot, List.append_nil, if_pos List.mem_cons_self]
    · rw [if_neg hm, List.append_nil]
      exact congrArg (b.wires n ++ ·) (if_congr (by rw [List.mem_cons, or_iff_right (Ne.symm hm)])
        rfl rfl)

theorem nodup_players (hb : b.document.WellNumbered) (part : Part) :
    ((part.players b.document).map (·.number)).Nodup :=
  hb.nodup_tree.sublist ((sublist_players b.document part).map _)

theorem mem_elements_of_players (h : e ∈ part.players b.document) : e ∈ b.document.elements :=
  List.mem_append_left _ ((sublist_players b.document part).subset h)

/-- **A part is bound once**: the elements that play it and are claimed already are passed over. -/
theorem bindRole_of_claimed (role : Role) (hb : b.document.WellNumbered)
    (h : ∀ e ∈ (Part.widget role).players b.document, e.number = n → e.isClaimed = true) :
    Untouched n b ((bindRole role).run b).2 := by
  obtain ⟨hnot, huntouched⟩ := claimAll_of_claimed hb h
  have hnodup := (nodup_players hb (.widget role)).sublist (sublist_claimAll _ b)
  obtain ⟨hdocument, htimers, hwires⟩ := run_bindElements hnodup role
    ((claimAll ((Part.widget role).players b.document)).run b).2 n
  rw [if_neg hnot, List.append_nil] at hwires
  refine huntouched.trans ⟨?_, hwires, congrArg (List.filter _) htimers⟩
  exact hdocument ▸ .refl (isLikeness_sparesMark n) _

/-- **Who plays a part and is not claimed is bound.** -/
theorem bindRole_of_plays (hb : b.document.WellNumbered)
    (hplays : b.document.Plays n (.widget role)) (hno : b.document.Unmarked n)
    (hmay : b.document.Markable n) :
    Bound n (role.listeners n) 0 b ((bindRole role).run b).2 := by
  obtain ⟨e, he, rfl⟩ := List.mem_map.mp hplays
  have hmem := mem_elements_of_players he
  obtain ⟨hfresh, hbound⟩ :=
    claimAll_of_unclaimed hb (nodup_players hb _) he hmem (hno e hmem rfl) hmay
  have hnodup := (nodup_players hb (.widget role)).sublist (sublist_claimAll _ b)
  obtain ⟨hdocument, htimers, hwires⟩ := run_bindElements hnodup role
    ((claimAll ((Part.widget role).players b.document)).run b).2 e.number
  rw [if_pos hfresh, hbound.wires, List.append_nil] at hwires
  obtain ⟨ts, hts, hlength⟩ := hbound.timers
  refine ⟨?_, ?_, hwires, ts, ?_, hlength⟩
  · exact hdocument ▸ hbound.document
  · exact hdocument ▸ hbound.marked
  · exact (congrArg (List.filter _) htimers).trans hts

/-- The parts that an element plays are no others than one. -/
def PlaysOnly (d : Document) (n : Nat) (part : Part) : Prop :=
  ∀ other, d.Plays n other → other = part

instance (d : Document) (n : Nat) (part : Part) : Decidable (PlaysOnly d n part) :=
  decidable_of_iff (∀ other ∈ Part.all, d.Plays n other → other = part)
    ⟨fun h other => h other (Part.mem_all other), fun h other _ => h other⟩

/-- Binding roles passes over what bears the mark. -/
theorem bindRoles_of_marked (hb : b.document.WellNumbered) (hyes : b.document.Marked n)
    (roles : List Role) : Untouched n b ((roles.forM bindRole).run b).2 := by
  induction roles generalizing b with
  | nil => exact .refl n b
  | cons role roles ih =>
    have hfirst := bindRole_of_claimed role hb fun e he =>
      hyes.2 e (mem_elements_of_players he)
    exact hfirst.trans (ih (hfirst.wellNumbered hb) (hfirst.marked hyes))

/-- **Binding roles binds an element that plays one of them and no other part**, once. -/
theorem bindRoles_of_unmarked (hb : b.document.WellNumbered) (honly : PlaysOnly b.document n part)
    (hno : b.document.Unmarked n) (hmay : b.document.Markable n) (roles : List Role) :
    (∀ role ∈ roles, part = .widget role → b.document.Plays n part →
        Bound n (role.listeners n) 0 b ((roles.forM bindRole).run b).2) ∧
      ((∀ role ∈ roles, part = .widget role → ¬ b.document.Plays n part) →
        Untouched n b ((roles.forM bindRole).run b).2) := by
  induction roles generalizing b with
  | nil => exact ⟨nofun, fun _ => .refl n b⟩
  | cons first roles ih =>
    by_cases hplays : b.document.Plays n (.widget first)
    · -- bound here, and passed over later
      have hpart := honly _ hplays
      have hfirst := bindRole_of_plays hb hplays hno hmay
      have hrest := bindRoles_of_marked
        (hfirst.document.alike.wellNumbered isLikeness_remarked hb) hfirst.marked roles
      have hbound := hfirst.untouched hrest
      refine ⟨?_, ?_⟩
      · intro role _ hrole _
        rw [← hpart] at hrole
        cases hrole
        exact hbound
      · intro hnone
        exact absurd (hpart ▸ hplays) (hnone first List.mem_cons_self hpart.symm)
    · have hfirst := bindRole_of_claimed (n := n) first hb fun e he hn =>
        absurd (List.mem_map.mpr ⟨e, he, hn⟩) hplays
      have hsame {other : Part} := plays_of_inPlace (n := n) other hfirst.inPlace
      obtain ⟨hbound, huntouched⟩ := ih (hfirst.wellNumbered hb)
        (fun other hother => honly other (hsame.mp hother)) (hfirst.unmarked hno)
        (hfirst.markable hmay)
      refine ⟨?_, ?_⟩
      · intro role hrole hpart hthis
        rcases List.mem_cons.mp hrole with rfl | hrole
        · exact absurd (hpart ▸ hthis) hplays
        · exact hfirst.bound (hbound role hrole hpart (hsame.mpr hthis))
      · intro hnone
        refine hfirst.trans (huntouched fun role hrole hpart hthis => ?_)
        exact hnone role (List.mem_cons_of_mem _ hrole) hpart (hsame.mp hthis)

/-- Arms the timer of a resend button, if there is something to wait for. -/
def armResend (e : Element) : StateM Browser Unit := do
  match Widget.resendDelay (e.data? "delay") with
  | none => return
  | some delay =>
    let icon := ((← get).document.byId? resendIconId).map (·.number)
    log .widgets .debug "Resend button armed" [("delay", toString delay)]
    let _ ← arm delay (.enableResend e.number icon)

theorem run_armResend (e : Element) (b : Browser) :
    ((armResend e).run b).2.document = b.document ∧
      ((armResend e).run b).2.listeners = b.listeners ∧
      ∃ ts : List Timer, ((armResend e).run b).2.timers = b.timers ++ ts ∧ ts.length ≤ 1 ∧
        ∀ t ∈ ts, ∃ icon, t.alarm = .enableResend e.number icon := by
  rw [armResend]
  split
  · exact ⟨rfl, rfl, [], (List.append_nil _).symm, Nat.zero_le 1, nofun⟩
  · next delay _ =>
    rw [StateT.run_bind, StateT.run_get, pure_bind, StateT.run_bind]
    -- a line on the console changes none of these
    have hlog (source : Source) (level : Level) (message : String)
        (details : List (String × String)) :
        ((log source level message details).run b).2.document = b.document ∧
          ((log source level message details).run b).2.listeners = b.listeners ∧
          ((log source level message details).run b).2.timers = b.timers := by
      show (if _ then _ else _ : Browser).document = _ ∧
        (if _ then _ else _ : Browser).listeners = _ ∧ (if _ then _ else _ : Browser).timers = _
      split <;> exact ⟨rfl, rfl, rfl⟩
    obtain ⟨hdocument, hlisteners, htimers⟩ :=
      hlog .widgets .debug "Resend button armed" [("delay", toString delay)]
    refine ⟨hdocument, hlisteners, [_], congrArg (· ++ [_]) htimers, Nat.le_refl 1, ?_⟩
    intro t ht
    rw [List.mem_singleton.mp ht]
    exact ⟨_, rfl⟩

theorem run_bindResend (h : (b.document.byId? resendButtonId).filter (·.isHtml) = some e) :
    (bindResend.run b).2 =
      if ((claim e).run b).1 then ((armResend e).run ((claim e).run b).2).2
      else ((claim e).run b).2 := by
  have hrun : bindResend.run b = (claim e >>= fun fresh =>
      if fresh then armResend e else pure ()).run b := by
    rw [bindResend, StateT.run_bind, StateT.run_get, pure_bind, h]
    rfl
  rw [hrun, StateT.run_bind]
  rcases (claim e).run b with ⟨fresh, b'⟩
  cases fresh <;> rfl

/-- A timer for another button is none for this one. -/
theorem untouched_armResend (h : e.number ≠ n) (b : Browser) :
    Untouched n b ((armResend e).run b).2 := by
  obtain ⟨hdocument, hlisteners, ts, htimers, -, halarms⟩ := run_armResend e b
  refine ⟨hdocument ▸ .refl (isLikeness_sparesMark n) _, wires_eq_of_listeners hlisteners n, ?_⟩
  have hnone : ts.filter (·.enables n) = [] := by
    refine List.filter_eq_nil_iff.mpr fun t ht => ?_
    obtain ⟨icon, halarm⟩ := halarms t ht
    rw [Timer.enables, halarm]
    simpa using h
  rw [resendTimers, htimers, List.filter_append, hnone, List.append_nil]
  rfl

theorem bindResend_of_claimed (hb : b.document.WellNumbered)
    (h : ∀ e ∈ Part.resendButton.players b.document, e.number = n → e.isClaimed = true) :
    Untouched n b (bindResend.run b).2 := by
  cases hfind : (b.document.byId? resendButtonId).filter (·.isHtml) with
  | none =>
    have hrun : (bindResend.run b).2 = b := by
      rw [bindResend, StateT.run_bind, StateT.run_get, pure_bind, hfind]
      rfl
    rw [hrun]
    exact .refl n b
  | some e =>
    have hplayers : Part.resendButton.players b.document = [e] := by
      rw [Part.players, hfind, Option.toList_some]
    rw [run_bindResend hfind]
    by_cases hn : e.number = n
    · have hrun : (claim e).run b = (false, b) := by
        rw [claim, h e (hplayers ▸ List.mem_cons_self) hn]
        rfl
      rw [hrun]
      exact .refl n b
    · have hclaim := untouched_of_along hb (stays_claim
        (isFrame_inPlace (isLikeness_sparesMark n)) (likens_sparesMark hn) b)
      split
      · exact hclaim.trans (untouched_armResend hn _)
      · exact hclaim

/-- **The resend button is bound**, and one timer is armed at most. -/
theorem bindResend_of_plays (hb : b.document.WellNumbered)
    (hplays : b.document.Plays n .resendButton) (hno : b.document.Unmarked n)
    (hmay : b.document.Markable n) : Bound n [] 1 b (bindResend.run b).2 := by
  obtain ⟨e, he, rfl⟩ := List.mem_map.mp hplays
  have hmem := mem_elements_of_players he
  obtain ⟨hfresh, hbound⟩ := bound_claim hb hmem (hno e hmem rfl) hmay
  obtain ⟨hdocument, hlisteners, ts, htimers, hlength, -⟩ :=
    run_armResend e ((claim e).run b).2
  rw [run_bindResend (Option.mem_toList.mp he), if_pos hfresh]
  obtain ⟨ts', hts', hlength'⟩ := hbound.timers
  rw [List.length_eq_zero_iff.mp (Nat.le_zero.mp hlength'), List.append_nil] at hts'
  refine ⟨hdocument ▸ hbound.document, hdocument ▸ hbound.marked,
    (wires_eq_of_listeners hlisteners _).trans hbound.wires, ts.filter (·.enables e.number), ?_,
    (List.length_filter_le _ _).trans hlength⟩
  rw [resendTimers, htimers, List.filter_append]
  exact congrArg (· ++ _) hts'

theorem run_bindAll (b : Browser) :
    (bindAll.run b).2 = (bindResend.run ((Role.all.forM bindRole).run b).2).2 := by
  rw [bindAll, StateT.run_bind]
  rfl

theorem bindAll_of_marked (hb : b.document.WellNumbered) (hyes : b.document.Marked n) :
    Untouched n b (bindAll.run b).2 := by
  have hroles := bindRoles_of_marked hb hyes Role.all
  rw [run_bindAll]
  exact hroles.trans (bindResend_of_claimed (hroles.wellNumbered hb) fun e he =>
    (hroles.marked hyes).2 e (mem_elements_of_players he))

/-- How many timers a part is given at most. -/
def Part.timers : Part → Nat
  | widget _ => 0
  | resendButton => 1

/-- **Binding the widgets binds an element that plays one part**, once. -/
theorem bindAll_of_unmarked (hb : b.document.WellNumbered) (honly : PlaysOnly b.document n part)
    (hno : b.document.Unmarked n) (hmay : b.document.Markable n) :
    (b.document.Plays n part → Bound n (part.wires n) part.timers b (bindAll.run b).2) ∧
      (¬ b.document.Plays n part → Untouched n b (bindAll.run b).2) := by
  obtain ⟨hbound, huntouched⟩ := bindRoles_of_unmarked hb honly hno hmay Role.all
  rw [run_bindAll]
  cases part with
  | widget role =>
    refine ⟨fun hplays => ?_, fun hnone => ?_⟩
    · have hrole : role ∈ Role.all := by cases role <;> decide
      have hroles := hbound role hrole rfl hplays
      have hb' := hroles.document.alike.wellNumbered isLikeness_remarked hb
      exact hroles.untouched (bindResend_of_claimed hb' fun e he =>
        hroles.marked.2 e (mem_elements_of_players he))
    · have hroles := huntouched fun _ _ _ => hnone
      refine hroles.trans (bindResend_of_claimed (hroles.wellNumbered hb) fun e he hn => ?_)
      -- the resend button is another element, because it would be its only part
      have hplays := (plays_of_inPlace _ hroles.inPlace).mp (List.mem_map.mpr ⟨e, he, hn⟩)
      cases honly .resendButton hplays
  | resendButton =>
    have hroles := huntouched fun _ _ hpart => nomatch hpart
    have hsame := plays_of_inPlace (n := n) .resendButton hroles.inPlace
    refine ⟨fun hplays => ?_, fun hnone => ?_⟩
    · exact hroles.bound (bindResend_of_plays (hroles.wellNumbered hb) (hsame.mpr hplays)
        (hroles.unmarked hno) (hroles.markable hmay))
    · refine hroles.trans (bindResend_of_claimed (hroles.wellNumbered hb) fun e he hn => ?_)
      exact absurd (hsame.mp (List.mem_map.mpr ⟨e, he, hn⟩)) hnone

end Bind

/-! ### Offering the ceremony -/

/-- Elements keep their numbers, and the one with a number keeps its mark or its lack of one. -/
def KeepsMarkOf (n : Nat) (e e' : Element) : Prop :=
  e'.number = e.number ∧ (e.number = n → e'.isClaimed = e.isClaimed)

/-- An element keeps its mark, its listeners and its timer. -/
structure Spared (n : Nat) (b b' : Browser) : Prop where
  document : b.document.Alike (KeepsMarkOf n) b'.document
  wires : b'.wires n = b.wires n
  timers : b'.resendTimers n = b.resendTimers n

/-- No ceremony has a listener at an element. -/
def IsUnattended (b : Browser) (n : Nat) : Prop :=
  ∀ w ∈ b.wires n, w.2.attends? = none

section Offering

variable {n : Nat} {b b' b'' : Browser} {config : Config}

theorem isLikeness_keepsMarkOf (n : Nat) : IsLikeness (KeepsMarkOf n) where
  refl _ := ⟨rfl, fun _ => rfl⟩
  trans h h' := ⟨h'.1.trans h.1, fun hn => (h'.2 (h.1.trans hn)).trans (h.2 hn)⟩
  number h := h.1

theorem keepsMarkOf_of_reclassed {e e' : Element} (h : e.Reclassed e') : KeepsMarkOf n e e' := by
  refine ⟨h.number, fun _ => ?_⟩
  rw [Element.isClaimed_eq, Element.isClaimed_eq, h.attribute? _ (by decide)]

theorem mayClass_keepsMarkOf (n : Nat) (name : String) :
    MayClass (Likens (KeepsMarkOf n)) name :=
  fun _ => ⟨fun _ _ _ h => keepsMarkOf_of_reclassed (Element.reclassed_of_addClass h),
    fun _ _ _ h => keepsMarkOf_of_reclassed (Element.reclassed_of_removeClass h)⟩

theorem isFrame_keepsMarkOf (n : Nat) :
    IsFrame (Along (Document.Alike (KeepsMarkOf n))) (Likens (KeepsMarkOf n)) :=
  isFrame_alike (isLikeness_keepsMarkOf n)

theorem allowsText_keepsMarkOf (n : Nat) :
    AllowsText (Along (Document.Alike (KeepsMarkOf n))) :=
  allowsText_alike (isLikeness_keepsMarkOf n) fun _ _ => ⟨rfl, fun _ => rfl⟩

theorem Spared.trans (h : Spared n b b') (h' : Spared n b' b'') : Spared n b b'' where
  document := h.document.trans (isLikeness_keepsMarkOf n) h'.document
  wires := h'.wires.trans h.wires
  timers := h'.timers.trans h.timers

theorem spared_of_along (hb : b.document.WellNumbered)
    (h : Along (Document.Alike (KeepsMarkOf n)) b b') : Spared n b b' := by
  obtain ⟨halike, -, haround⟩ := h hb
  exact ⟨halike, wires_eq_of_listeners haround.listeners n,
    congrArg (List.filter _) haround.timers⟩

theorem spared_of_same (hdocument : b'.document = b.document)
    (hwires : b'.wires n = b.wires n) (htimers : b'.timers = b.timers) : Spared n b b' := by
  have hrefl := (Document.InPlace.refl (isLikeness_keepsMarkOf n) b.document).alike
  exact ⟨hdocument ▸ hrefl, hwires, congrArg (List.filter _) htimers⟩

theorem Spared.unmarked (h : Spared n b b') (hno : b.document.Unmarked n) :
    b'.document.Unmarked n := by
  intro e' he' hn
  obtain ⟨e, he, hnumber, hmark⟩ := h.document.like he'
  rw [hmark (hnumber.symm.trans hn)]
  exact hno e he (hnumber.symm.trans hn)

theorem Spared.marked (h : Spared n b b') (hyes : b.document.Marked n) : b'.document.Marked n := by
  refine ⟨h.document.1 ▸ hyes.1, fun e' he' hn => ?_⟩
  obtain ⟨e, he, hnumber, hmark⟩ := h.document.like he'
  rw [hmark (hnumber.symm.trans hn)]
  exact hyes.2 e he (hnumber.symm.trans hn)

theorem wires_dropSession (h : b.IsUnattended n) : b.dropSession.wires n = b.wires n := by
  rw [dropSession]
  split
  · rfl
  · next c _ =>
    rw [wires, wires]
    refine congrArg (List.map _) ?_
    rw [List.filter_filter]
    refine List.filter_congr fun l hl => ?_
    -- nothing that is taken off listens here
    rcases hplace : l.place == .element n with - | -
    · rfl
    · have hno : l.handler.attends? = none :=
        h (l.event, l.handler) (List.mem_map.mpr ⟨l, List.mem_filter.mpr ⟨hl, hplace⟩, rfl⟩)
      have hserves : l.serves c = false := by
        rw [Listener.serves]
        cases hk : l.handler <;> simp_all [Handler.attends?]
      rw [hserves]
      rfl

theorem spared_dropSession (h : b.IsUnattended n) : Spared n b b.dropSession := by
  obtain ⟨ls, -, heq⟩ := exists_dropSession_eq b
  refine spared_of_same ?_ (wires_dropSession h) ?_
  · rw [heq]
  · rw [heq]

theorem spared_endSession (hb : b.document.WellNumbered) (h : b.IsUnattended n) :
    Spared n b (endSession.run b).2 := by
  have hdrop := spared_dropSession h
  rw [endSession, StateT.run_bind, StateT.run_get, pure_bind, StateT.run_bind, StateT.run_set,
    pure_bind]
  split
  · have hnumbered := hdrop.document.wellNumbered (isLikeness_keepsMarkOf n) hb
    exact hdrop.trans (spared_of_along hnumbered (stays_log (isFrame_keepsMarkOf n) _ _ _ _ _))
  · exact hdrop

theorem spared_beginSession (h : b.IsUnattended n) (c : Ceremony) {trigger : Nat}
    (hne : trigger ≠ n) : Spared n b ((beginSession c config trigger).run b).2 := by
  have hdrop := spared_dropSession h
  obtain ⟨ls, -, heq⟩ := exists_dropSession_eq b
  refine spared_of_same ?_ ?_ ?_
  · show b.dropSession.document = _
    rw [heq]
  · rw [← hdrop.wires, wires, wires]
    refine congrArg (List.map _) ?_
    show (b.dropSession.listeners ++ _).filter _ = _
    have hother : (Place.element trigger == .element n) = false := by simpa using hne
    rw [List.filter_append, List.filter_cons, List.filter_singleton, hother]
    exact List.append_nil _
  · show b.dropSession.timers = _
    rw [heq]

/-- The trigger of a ceremony that is ready was not claimed before the setup, and is the trigger
still. -/
theorem trigger?_of_setUp_ready (h : b.Sound) {c : Ceremony}
    (hs : (Ceremony.setUp (page config)).run b = (.ready c, b')) :
    ∃ mode e e', b.document.trigger? config = some (mode, e) ∧ e.isClaimed = false ∧
      b'.document.trigger? config = some (mode, e') ∧ e'.number = e.number := by
  rcases ht : b.document.trigger? config with - | ⟨mode, e⟩
  · obtain ⟨habsent, -⟩ := run_setUp_absent h ht
    rw [hs] at habsent
    cases habsent
  · by_cases hskip : e.isClaimed = true ∨ ∃ thrown, e.setData claimEntry claimMark = .error thrown
    · obtain ⟨hskipped, -⟩ := run_setUp_skipped h ht hskip
      rw [hs] at hskipped
      cases hskipped
    · obtain ⟨hc, hthrown⟩ := not_or.mp hskip
      have hno : e.isClaimed = false := by simpa using hc
      rcases hok : e.setData claimEntry claimMark with thrown | e'
      · exact absurd ⟨thrown, hok⟩ hthrown
      · obtain ⟨b'', -, hdocument, hrun⟩ := run_setUp_put h ht hno hok
        rw [hs] at hrun
        split at hrun
        · cases hrun
        · cases hrun
          refine ⟨mode, e, e', rfl, hno, ?_, (Element.keepsMark_claim e e' hok).1⟩
          rw [document_note, hdocument]
          exact trigger?_put_claimed h.numbered ht hok

/-- **Offering the ceremony spares an element**, unless it is the trigger and not claimed yet. -/
theorem spared_offerCeremony (config : Config) (h : b.Sound) (hunattended : b.IsUnattended n)
    (htrigger : ∀ mode e, b.document.trigger? config = some (mode, e) → e.number = n →
      e.isClaimed = true) : Spared n b ((offerCeremony config).run b).2 := by
  have hsetUp : Spared n b ((Ceremony.setUp (page config)).run b).2 := by
    refine spared_of_along h.numbered (setUp_stays (isFrame_keepsMarkOf n)
      (mayClass_keepsMarkOf n _) (allowsText_keepsMarkOf n) ?_)
    rintro mode e ht hno x x' hx hx'
    have hremarked := remarked_of_setData hx'
    refine ⟨hremarked.number, fun hn => ?_⟩
    have hyes := htrigger mode e ht (hx.symm.trans hn)
    rw [hno] at hyes
    cases hyes
  rcases hs : (Ceremony.setUp (page config)).run b with ⟨s, b'⟩
  rw [run_offerCeremony hs]
  rw [hs] at hsetUp
  have hunattended' : b'.IsUnattended n := by
    intro w hw
    rw [hsetUp.wires] at hw
    exact hunattended w hw
  have hb' := hsetUp.document.wellNumbered (isLikeness_keepsMarkOf n) h.numbered
  refine hsetUp.trans ?_
  cases s with
  | skipped => exact spared_of_same rfl rfl rfl
  | absent => exact spared_endSession hb' hunattended'
  | failed failure =>
    have hlog := spared_of_along hb' (stays_log (isFrame_keepsMarkOf n) .loading .debug
      "Ceremony not offered" [("key", failure.key)] b')
    refine hlog.trans (spared_endSession
      (hlog.document.wellNumbered (isLikeness_keepsMarkOf n) hb') fun w hw => ?_)
    rw [hlog.wires] at hw
    exact hunattended' w hw
  | ready c =>
    obtain ⟨mode, e, e', ht, hno, ht', hnumber⟩ := trigger?_of_setUp_ready h hs
    rw [run_follow_ready c ht']
    refine spared_beginSession hunattended' c fun hn => ?_
    -- the trigger that is ready was not claimed
    have hyes := htrigger mode e ht (hnumber.symm.trans hn)
    rw [hno] at hyes
    cases hyes

end Offering

end Passkey.Browser
