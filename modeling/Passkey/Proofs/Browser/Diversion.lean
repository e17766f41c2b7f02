/-
Passkey/Proofs/Browser/Diversion.lean

The diversion in front of the function that writes attributes.

A script that writes a text to the style attribute, in letters of any case and
with whatever further arguments, assigns the declarations of the text to the
style object of the element, one after the other: it does what applying the
text does.  Every other call is the call of the function behind the diversion.
Which function stands there is a parameter, and so is what an assignment does
(`StyleObjects`): a call that is diverted is seen not to depend on the function,
and one that is passed on not to assign anything.

What becomes of a style object is its own affair.  If an assignment decides
what its property reads, whatever stood there, and leaves the others alone
(`StyleObjects.Takes`), then of several assignments the last one to a property
counts, by one step for each declaration.
-/
import Passkey.Browser.Visit
import Passkey.Proofs.Browser.Likeness
import Passkey.Proofs.Browser.Stay

namespace Passkey.Browser

open Widget (Declaration declarations)

/-! ### Style objects -/

/-- What properties read after assignments: the last one to a property counts, and a property that
none is about reads as before.  `taken` is what a property reads after an assignment. -/
structure LastWins (taken : Declaration → Option String) (ds : List Declaration)
    (old new : String → Option String) : Prop where
  last : ∀ {before d after}, ds = before ++ d :: after →
    (∀ d' ∈ after, d'.property ≠ d.property) → new d.property = taken d
  others : ∀ {property}, (∀ d ∈ ds, d.property ≠ property) → new property = old property

/-- One more assignment, before the others. -/
theorem LastWins.cons {taken : Declaration → Option String} {d : Declaration}
    {ds : List Declaration} {old between new : String → Option String}
    (h : LastWins taken ds between new) (hown : between d.property = taken d)
    (hothers : ∀ property ≠ d.property, between property = old property) :
    LastWins taken (d :: ds) old new where
  last := by
    intro before d₀ after hds hafter
    cases before with
    | nil =>
      obtain ⟨rfl, rfl⟩ := List.cons.inj hds
      exact (h.others hafter).trans hown
    | cons d₁ before => exact h.last (List.cons.inj hds).2 hafter
  others := by
    intro property hds
    rw [List.forall_mem_cons] at hds
    exact (h.others hds.2).trans (hothers property (Ne.symm hds.1))

/-- The style objects of elements: what an assignment does, and what a property reads. -/
structure StyleObjects where
  assign : Nat → Declaration → StateM Browser Unit
  value? : Browser → Nat → String → Option String

namespace StyleObjects

/-- A style text is applied by one assignment for each of its declarations, in order. -/
def apply (o : StyleObjects) (n : Nat) (style : String) : StateM Browser Unit :=
  (declarations style).forM (o.assign n)

/-- A style object takes declarations one at a time: an assignment decides what its property reads,
whatever that was before, and no other property reads anything else then.  This is so unless a
property stands for several, or the object refuses a value. -/
structure Takes (o : StyleObjects) (n : Nat) (ds : List Declaration) (Usable : Browser → Prop)
    (taken : Declaration → Option String) : Prop where
  usable : ∀ {b d}, Usable b → d ∈ ds → Usable ((o.assign n d).run b).2
  own : ∀ {b d}, Usable b → d ∈ ds → o.value? ((o.assign n d).run b).2 n d.property = taken d
  others : ∀ {b d property}, Usable b → d ∈ ds → property ≠ d.property →
    o.value? ((o.assign n d).run b).2 n property = o.value? b n property

section Takes

variable {o : StyleObjects} {n : Nat} {d : Declaration} {ds : List Declaration}
  {Usable : Browser → Prop} {taken : Declaration → Option String} {b : Browser}

theorem Takes.tail (h : o.Takes n (d :: ds) Usable taken) : o.Takes n ds Usable taken where
  usable hb hd := h.usable hb (List.mem_cons_of_mem d hd)
  own hb hd := h.own hb (List.mem_cons_of_mem d hd)
  others hb hd := h.others hb (List.mem_cons_of_mem d hd)

/-- **Of several assignments the last one counts.** -/
theorem Takes.lastWins (h : o.Takes n ds Usable taken) (hb : Usable b) :
    LastWins taken ds (o.value? b n) (o.value? ((ds.forM (o.assign n)).run b).2 n) := by
  induction ds generalizing b with
  | nil => exact ⟨fun hds => absurd hds (by simp), fun _ => rfl⟩
  | cons d ds ih =>
    have hmem : d ∈ d :: ds := List.mem_cons_self
    have hrest := ih h.tail (h.usable hb hmem)
    show LastWins taken (d :: ds) _
      (o.value? ((o.assign n d >>= fun _ => ds.forM (o.assign n)).run b).2 n)
    rw [run_seq]
    exact hrest.cons (h.own hb hmem) fun property hne => h.others hb hmem hne

end Takes

end StyleObjects

/-! ### Tables of properties -/

/-- Style objects that are tables of properties; what they throw goes to the console. -/
def styleTables : StyleObjects where
  assign n d := do
    if let some thrown ← change n (·.setStyle d.property d.value) then
      log .widgets .warn ("Failed to apply style: " ++ thrown.display) [("property", d.property)]
  value? b n property := (b.document.element? n).bind (·.style.lookup property)

theorem applyStyle_eq_apply (n : Nat) (style : String) :
    applyStyle n style = styleTables.apply n style := by
  rw [applyStyle, StyleObjects.apply]
  induction declarations style with
  | nil => rfl
  | cons d ds ih =>
    show _ = (styleTables.assign n d >>= fun _ => ds.forM (styleTables.assign n))
    rw [assignDeclarations, ih, styleTables, bind_assoc]
    refine bind_congr fun thrown => ?_
    cases thrown <;> rfl

/-- An element has a table that works. -/
def HasTable (n : Nat) (b : Browser) : Prop :=
  b.document.WellNumbered ∧ ∃ e ∈ b.document.elements, e.number = n ∧ .style ∉ e.faults

section Tables

variable {b : Browser} {e : Element}

theorem document_assign (hd : b.document.WellNumbered) (he : e ∈ b.document.elements)
    (hworks : .style ∉ e.faults) (d : Declaration) :
    ((styleTables.assign e.number d).run b).2.document
      = b.document.put { e with style := putEntry d.property d.value e.style } := by
  have hset : e.setStyle d.property d.value
      = .ok { e with style := putEntry d.property d.value e.style } := by
    rw [Element.setStyle, Element.guarded, if_neg (by simpa using hworks)]
  have hchange : (change e.number (·.setStyle d.property d.value)).run b = (none, _) :=
    run_change hd he hset
  show ((change e.number (·.setStyle d.property d.value) >>= _).run b).2.document = _
  rw [StateT.run_bind, hchange]
  rfl

theorem value?_assign (hd : b.document.WellNumbered) (he : e ∈ b.document.elements)
    (hworks : .style ∉ e.faults) (d : Declaration) (property : String) :
    styleTables.value? ((styleTables.assign e.number d).run b).2 e.number property
      = if property = d.property then some d.value else e.style.lookup property := by
  have hdocument := document_assign hd he hworks d
  have hput : (b.document.put
      { e with style := putEntry d.property d.value e.style }).WellNumbered :=
    Document.wellNumbered_update hd fun _ _ _ => rfl
  have hfound := Document.element?_number hput
    (mem_put { e with style := putEntry d.property d.value e.style } he rfl)
  rw [← hdocument] at hfound
  show (Document.element? _ e.number).bind _ = _
  rw [hfound, Option.bind_some, lookup_putEntry]

/-- **Tables take every declaration**, with the value that it has. -/
theorem takes_styleTables (n : Nat) (ds : List Declaration) :
    styleTables.Takes n ds (HasTable n) fun d => some d.value := by
  refine ⟨?_, ?_, ?_⟩
  · rintro b d ⟨hd, e, he, rfl, hworks⟩ -
    rw [HasTable, document_assign hd he hworks d]
    exact ⟨Document.wellNumbered_update hd fun _ _ _ => rfl, _, mem_put _ he rfl, rfl, hworks⟩
  · rintro b d ⟨hd, e, he, rfl, hworks⟩ -
    rw [value?_assign hd he hworks, if_pos rfl]
  · rintro b d property ⟨hd, e, he, rfl, hworks⟩ - hne
    rw [value?_assign hd he hworks, if_neg hne]
    show _ = (b.document.element? e.number).bind _
    rw [Document.element?_number hd he]
    rfl

end Tables

/-! ### Calls that are diverted -/

/-- Arguments that give the style attribute a text.  What comes after them does not matter. -/
inductive StyleText : List ScriptValue → String → Prop where
  | intro {name style : String} {more : List ScriptValue}
      (named : Text.asciiLowerText name = "style") :
      StyleText (.text name :: .text style :: more) style

theorem isStyleAttribute_iff {name : String} :
    Widget.isStyleAttribute name = true ↔ Text.asciiLowerText name = "style" := by
  have hsmall : "style".toList.map Text.asciiLower = "style".toList := by decide
  rw [Widget.isStyleAttribute, Text.sameAscii, beq_iff_eq, hsmall, ← String.toList_inj,
    Text.asciiLowerText, String.toList_ofList (l := name.toList.map Text.asciiLower)]

theorem divertedStyle?_of_styleText {args : List ScriptValue} {style : String}
    (h : StyleText args style) (n : Nat) :
    divertedStyle? (.element n) args = some (n, style) := by
  cases h with
  | intro named => exact if_pos (isStyleAttribute_iff.mpr named)

theorem divertedStyle?_eq_none {args : List ScriptValue} (h : ∀ style, ¬ StyleText args style)
    (n : Nat) : divertedStyle? (.element n) args = none := by
  have hnameless : ¬ Widget.isStyleAttribute "" = true := by decide
  match args with
  | [] => rfl
  | [_] => rfl
  | name :: value :: more =>
    rw [divertedStyle?]
    split
    · next hname =>
      cases value with
      | text style =>
        cases name with
        | text name => exact absurd (.intro (isStyleAttribute_iff.mp hname)) (h style)
        -- what is not a text names no attribute
        | _ => exact absurd hname hnameless
      | _ => rfl
    · rfl

/-- A function that scripts call at a place; it answers what was thrown, if anything. -/
abbrev Method := Place → List ScriptValue → StateM Browser (Option ScriptValue)

/-- A function with the diversion in front of it. -/
def StyleObjects.diverting (o : StyleObjects) (original : Method) : Method := fun place args =>
  match divertedStyle? place args with
  | some (n, style) => do
    o.apply n style
    return none
  | none => original place args

/-- The diversion is in front of the shared function. -/
structure Diverting (b : Browser) : Prop where
  hasSetAttribute : b.hasSetAttribute = true
  diverted : b.diverted = true

/-- Putting the diversion in front of the function, where there is one. -/
theorem diverting_divertStyle {b : Browser} (h : b.hasSetAttribute = true) :
    (divertStyle.run b).2.Diverting := by
  have hparts := h
  rw [hasSetAttribute, Bool.and_eq_true, Bool.not_eq_true', Bool.not_eq_true'] at hparts
  obtain ⟨hclass, hfunction⟩ := hparts
  simp only [divertStyle, StateT.run_bind, StateT.run_get, pure_bind, hclass, hfunction]
  -- a line on the console makes no difference to either part
  show (if _ then _ else _ : Browser).Diverting
  split
  · exact ⟨h, rfl⟩
  · exact ⟨h, rfl⟩

section Calls

variable {b : Browser} {e : Element} {args : List ScriptValue} {style : String}

/-- **The shared function** is the one with the diversion in front of it. -/
theorem run_callSetAttribute (h : b.Diverting) (place : Place) (args : List ScriptValue) :
    (callSetAttribute place args).run b
      = (styleTables.diverting setAttributeDirectly place args).run b := by
  rw [callSetAttribute, StateT.run_bind, StateT.run_get, pure_bind, h.hasSetAttribute, h.diverted,
    StyleObjects.diverting]
  simp only [applyStyle_eq_apply]
  rfl

theorem diverting_of_styleText (h : StyleText args style) (o : StyleObjects) (original : Method)
    (n : Nat) :
    o.diverting original (.element n) args = (do o.apply n style; return none) := by
  rw [StyleObjects.diverting, divertedStyle?_of_styleText h]

/-- **Every other call is passed on**, and no assignment is made. -/
theorem diverting_eq_original (h : ∀ style, ¬ StyleText args style) (o : StyleObjects)
    (original : Method) (n : Nat) :
    o.diverting original (.element n) args = original (.element n) args := by
  rw [StyleObjects.diverting, divertedStyle?_eq_none h]

/-- Applying a style text to an element of the page's language. -/
theorem run_applyStyleAt (hd : b.document.WellNumbered) (he : e ∈ b.document.elements)
    (hhtml : e.isHtml = true) (style : String) :
    (applyStyleAt style (.element e.number)).run b
      = (.nothing, ((styleTables.apply e.number style).run b).2) := by
  have hfound : (Place.element? b.document (.element e.number)).filter (·.isHtml) = some e := by
    rw [Place.element?, Document.element?_number hd he, Option.filter_some, if_pos hhtml]
  rw [applyStyleAt, StateT.run_bind, StateT.run_get, pure_bind, hfound]
  dsimp only
  rw [applyStyle_eq_apply]
  rfl

/-- What a call does that gives a text to the style attribute of an element. -/
structure StyleObjects.Applies (o : StyleObjects) (original : Method) (n : Nat)
    (args : List ScriptValue) (style : String) : Prop where
  /-- It applies the text, and throws nothing; the function behind has no part in it. -/
  same : o.diverting original (.element n) args = (do o.apply n style; return none)
  lastWins : ∀ {Usable taken}, o.Takes n (declarations style) Usable taken → ∀ {b}, Usable b →
    LastWins taken (declarations style) (o.value? b n)
      (o.value? ((o.diverting original (.element n) args).run b).2 n)

theorem applies_of_styleText (h : StyleText args style) (o : StyleObjects) (original : Method)
    (n : Nat) : o.Applies original n args style := by
  have hsame := diverting_of_styleText h o original n
  refine ⟨hsame, fun htakes b hb => ?_⟩
  rw [hsame]
  exact htakes.lastWins hb

/-- **The diversion takes style texts and nothing else.**  A call with such a text applies it, as
a script can also ask for directly; any other call is that of the function behind, with the same
arguments and the same answer.  This is so of whatever stands behind, and whatever assignments to
style objects do. -/
theorem style_texts_diverted (h : b.Diverting) (hd : b.document.WellNumbered) :
    (∀ place args, (callSetAttribute place args).run b
        = (styleTables.diverting setAttributeDirectly place args).run b) ∧
      (∀ e ∈ b.document.elements, e.isHtml = true → ∀ style,
        (applyStyleAt style (.element e.number)).run b
          = (.nothing, ((styleTables.apply e.number style).run b).2)) ∧
      ∀ (o : StyleObjects) (original : Method) (n : Nat) (args : List ScriptValue),
        (∀ style, StyleText args style → o.Applies original n args style) ∧
          ((∀ style, ¬ StyleText args style) →
            o.diverting original (.element n) args = original (.element n) args) := by
  refine ⟨run_callSetAttribute h, fun e he hhtml => run_applyStyleAt hd he hhtml, ?_⟩
  intro o original n args
  refine ⟨fun style hstyle => ?_, fun hother => ?_⟩
  · exact applies_of_styleText hstyle o original n
  · exact diverting_eq_original hother o original n

/-- A page with a red paragraph. -/
def redPage : Forest :=
  .tree ⟨0, "p", [], [("color", "red")], "", "", false, [], []⟩ .empty .empty

/-- The page, with the diversion in place. -/
def redBrowser : Browser :=
  (divertStyle.run (.fresh goodSurroundings redPage .undefined 0)).2

/-- A text with two declarations of one property. -/
def marginStyle : String :=
  "margin-top: 3px; garbage; margin-top: 4px"

/-- The browser after a call with it. -/
def spacedBrowser : Browser :=
  ((callSetAttribute (.element 0) [.text "STYLE", .text marginStyle, .null]).run redBrowser).2

/-- The second declaration counts, the color stays, and a style that is not a text is passed on. -/
theorem style_texts_diverted_redPage :
    styleTables.value? spacedBrowser 0 "marginTop" = some "4px" ∧
      styleTables.value? spacedBrowser 0 "color" = some "red" ∧
      (callSetAttribute (.element 0) [.text "style", .null]).run redBrowser
        = (setAttributeDirectly (.element 0) [.text "style", .null]).run redBrowser := by
  rw [spacedBrowser]
  have hdiverting : redBrowser.Diverting := diverting_divertStyle (by decide +kernel)
  have hnumbered : redBrowser.document.WellNumbered :=
    (document_divertStyle _).symm ▸ Document.wellNumbered_ofTrees redPage
  have htable : HasTable 0 redBrowser := by
    refine ⟨hnumbered, ⟨0, "p", [], [("color", "red")], "", "", false, [], []⟩, ?_, rfl, ?_⟩
    · decide +kernel
    · decide
  obtain ⟨hshared, -, hcalls⟩ := style_texts_diverted hdiverting hnumbered
  have hstyle : StyleText [.text "STYLE", .text marginStyle, .null] marginStyle :=
    .intro (by decide)
  have hdeclared : declarations marginStyle
      = [⟨"marginTop", "3px"⟩] ++ [⟨"marginTop", "4px"⟩] := by decide
  have hlast := ((hcalls styleTables setAttributeDirectly 0 _).1 _ hstyle).lastWins
    (takes_styleTables 0 _) htable
  rw [← hshared] at hlast
  have hmargin := hlast.last hdeclared (by simp)
  rw [hdeclared] at hlast
  exact ⟨hmargin, hlast.others (by decide),
    by rw [hshared, (hcalls _ setAttributeDirectly 0 _).2 fun style hstyle => by cases hstyle]⟩

end Calls

end Passkey.Browser
