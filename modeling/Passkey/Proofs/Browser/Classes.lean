/-
Passkey/Proofs/Browser/Classes.lean

The classes of an element after one was added or taken away.

Classes are kept in one attribute, as words with a space between them.  A text
that is written this way reads back as the same words (`words_intercalate`), so
adding a class adds just that one, taking one away takes just that one, and no
other attribute changes.  A selector of a class finds the elements of the page
that have it, in order.
-/
import Mathlib.Data.List.SplitBy
import Passkey.Browser.Widgets

namespace Passkey.Browser

namespace Element

variable {e e' : Element} {name other : String} {ws cs : List String}

/-! ### Words -/

/-- A text that can be a class: it is not empty and has no white space. -/
def IsToken (w : String) : Prop :=
  w ≠ "" ∧ ∀ c ∈ w.toList, isMarkupSpace c = false

-- by a check of the characters that are there, not of all that could be
instance (w : String) : Decidable (IsToken w) :=
  decidable_of_iff (w ≠ "" ∧ w.toList.all (!isMarkupSpace ·) = true) <| by
    simp [IsToken]

theorem isToken_of_mem_words {s w : String} (h : w ∈ words s) : IsToken w := by
  obtain ⟨cs, hcs, rfl⟩ := List.mem_map.mp h
  obtain ⟨hmem, hfree⟩ := List.mem_filter.mp hcs
  have hne : cs ≠ [] := List.ne_nil_of_mem_splitBy hmem
  refine ⟨by simpa using hne, ?_⟩
  intro c hc
  simp only [String.toList_ofList] at hc
  have hnone : cs.any isMarkupSpace = false := by simpa using hfree
  rw [List.any_eq_false] at hnone
  simpa using hnone c hc

/-- The pieces of a text that are words. -/
def wordPieces (cs : List Char) : List (List Char) :=
  (cs.splitBy fun a b => isMarkupSpace a == isMarkupSpace b).filter fun w =>
    !w.any isMarkupSpace

theorem words_eq (s : String) : words s = (wordPieces s.toList).map String.ofList := rfl

/-- A word alone is one piece. -/
theorem wordPieces_word {w : List Char} (hne : w ≠ []) (h : ∀ c ∈ w, isMarkupSpace c = false) :
    wordPieces w = [w] := by
  have hchain : w.IsChain fun a b => (isMarkupSpace a == isMarkupSpace b) = true := by
    refine List.Pairwise.isChain (List.pairwise_of_forall_mem_list ?_)
    intro a ha b hb
    simp [h a ha, h b hb]
  have hfree : w.any isMarkupSpace = false := by simpa using h
  simp [wordPieces, List.splitBy_of_isChain hne hchain, hfree]

/-- **A word, a space and more words**: the first word is a piece of its own. -/
theorem wordPieces_append_space {w t : List Char} (hne : w ≠ [])
    (h : ∀ c ∈ w, isMarkupSpace c = false) (ht : ∀ c ∈ t.head?, isMarkupSpace c = false) :
    wordPieces (w ++ ' ' :: t) = w :: wordPieces t := by
  -- the text is cut on both sides of the space
  have hfront : ∀ a ∈ w.getLast?, ∀ b ∈ (' ' :: t).head?,
      (isMarkupSpace a == isMarkupSpace b) = false := by
    intro a ha b hb
    cases Option.mem_some.mp hb
    rw [h a (List.mem_of_getLast? ha)]
    decide
  have hback : ∀ a ∈ [' '].getLast?, ∀ b ∈ t.head?,
      (isMarkupSpace a == isMarkupSpace b) = false := by
    intro a ha b hb
    cases Option.mem_some.mp ha
    rw [ht b hb]
    decide
  have hword := wordPieces_word hne h
  rw [wordPieces] at hword ⊢
  rw [List.splitBy_append hfront, List.filter_append, hword,
    show ' ' :: t = [' '] ++ t from rfl, List.splitBy_append hback, List.filter_append]
  rfl

/-- **Words that are written with spaces between them are read back.** -/
theorem words_intercalate (h : ∀ w ∈ ws, IsToken w) : words (" ".intercalate ws) = ws := by
  induction ws with
  | nil => rfl
  | cons w rest ih =>
    obtain ⟨hne, hfree⟩ := h w List.mem_cons_self
    have hchars : w.toList ≠ [] := by simpa using hne
    have hrest := ih fun v hv => h v (List.mem_cons_of_mem w hv)
    cases rest with
    | nil =>
      rw [String.intercalate_singleton, words_eq, wordPieces_word hchars hfree]
      simp
    | cons v vs =>
      obtain ⟨hv, hvfree⟩ := h v (List.mem_cons_of_mem w List.mem_cons_self)
      -- what follows the space begins with the next word
      have hhead : ∀ c ∈ (" ".intercalate (v :: vs)).toList.head?, isMarkupSpace c = false := by
        intro c hc
        have hvchars : v.toList ≠ [] := by simpa using hv
        obtain ⟨a, as, ha⟩ := List.exists_cons_of_ne_nil hvchars
        have hbegin : ∃ t, (" ".intercalate (v :: vs)).toList = v.toList ++ t := by
          cases vs with
          | nil => exact ⟨[], by simp⟩
          | cons u us => exact ⟨_, by rw [String.intercalate_cons_cons]; simp; rfl⟩
        obtain ⟨t, ht⟩ := hbegin
        rw [ht, ha] at hc
        cases Option.mem_some.mp hc
        exact hvfree _ (by rw [ha]; exact List.mem_cons_self)
      have htext : (" ".intercalate (w :: v :: vs)).toList
          = w.toList ++ ' ' :: (" ".intercalate (v :: vs)).toList := by
        rw [String.intercalate_cons_cons]
        simp
      rw [words_eq, htext, wordPieces_append_space hchars hfree hhead, List.map_cons, ← words_eq,
        hrest, String.ofList_toList]

/-! ### Adding and taking away -/

theorem isToken_of_mem_classes (h : name ∈ e.classes) : IsToken name :=
  isToken_of_mem_words (List.mem_eraseDups.mp h)

/-- What other classes make of an element. -/
theorem withClasses_eq (e : Element) (cs : List String) :
    e.withClasses cs = e ∧ e.classes = [] ∧ cs = [] ∨
      e.withClasses cs = e.withAttribute "class" (" ".intercalate cs) := by
  rw [withClasses]
  split
  · next h =>
    rw [Bool.and_eq_true, Option.isNone_iff_eq_none, List.isEmpty_iff] at h
    obtain ⟨hnone, hempty⟩ := h
    refine .inl ⟨rfl, ?_, hempty⟩
    rw [classes, hnone]
    rfl
  · exact .inr rfl

theorem mem_classes_withClasses (h : ∀ c ∈ cs, IsToken c) :
    name ∈ (e.withClasses cs).classes ↔ name ∈ cs := by
  obtain ⟨heq, hclasses, rfl⟩ | heq := withClasses_eq e cs
  · rw [heq, hclasses]
  · have hvalue : ((e.withClasses cs).attribute? "class").getD "" = " ".intercalate cs := by
      rw [heq, attribute?, withAttribute, lookup_putEntry, if_pos rfl, Option.getD_some]
    rw [classes, hvalue, words_intercalate h, List.mem_eraseDups]

/-- Classes are changed on behalf of a word, on an element whose classes can be changed. -/
theorem changeClass_eq_ok_iff :
    e.changeClass name cs = .ok e' ↔
      .classList ∉ e.faults ∧ IsToken name ∧ e' = e.withClasses cs := by
  rw [changeClass]
  split
  · next h => simpa using fun hno => absurd (List.contains_iff_mem.mp h) hno
  · next hfault =>
    rw [List.contains_iff_mem] at hfault
    split
    · next hempty => simp [hfault, IsToken, String.isEmpty_iff.mp hempty]
    · next hempty =>
      rw [String.isEmpty_iff] at hempty
      split
      · next hspace =>
        obtain ⟨c, hc, hspace⟩ := List.any_eq_true.mp hspace
        refine iff_of_false nofun fun h => ?_
        rw [h.2.1.2 c hc] at hspace
        cases hspace
      · next hspace =>
        have htoken : IsToken name := ⟨hempty, by simpa using hspace⟩
        simp [hfault, htoken, eq_comm]

/-- Adding a class adds just that one. -/
theorem mem_classes_of_addClass (h : e.addClass name = .ok e') :
    other ∈ e'.classes ↔ other = name ∨ other ∈ e.classes := by
  obtain ⟨-, htoken, rfl⟩ := changeClass_eq_ok_iff.mp h
  split
  · next hmem =>
    rw [mem_classes_withClasses fun c hc => isToken_of_mem_classes hc]
    constructor
    · exact .inr
    · rintro (rfl | hother)
      · exact List.contains_iff_mem.mp hmem
      · exact hother
  · have hall : ∀ c ∈ e.classes ++ [name], IsToken c := by
      intro c hc
      rcases List.mem_append.mp hc with hc | hc
      · exact isToken_of_mem_classes hc
      · exact List.mem_singleton.mp hc ▸ htoken
    rw [mem_classes_withClasses hall, List.mem_append, List.mem_singleton, or_comm]

/-- Taking a class away takes just that one. -/
theorem mem_classes_of_removeClass (h : e.removeClass name = .ok e') :
    other ∈ e'.classes ↔ other ≠ name ∧ other ∈ e.classes := by
  obtain ⟨-, -, rfl⟩ := changeClass_eq_ok_iff.mp h
  have hall : ∀ c ∈ e.classes.filter (· ≠ name), IsToken c := by
    intro c hc
    exact isToken_of_mem_classes (List.mem_of_mem_filter hc)
  rw [mem_classes_withClasses hall, List.mem_filter, decide_eq_true_eq, and_comm]

/-- Operations on classes are not refused. -/
theorem exists_class_eq_ok (h : .classList ∉ e.faults) {name : String}
    (hname : IsToken name) :
    (∃ e', e.addClass name = .ok e') ∧ ∃ e', e.removeClass name = .ok e' :=
  ⟨⟨_, changeClass_eq_ok_iff.mpr ⟨h, hname, rfl⟩⟩,
    ⟨_, changeClass_eq_ok_iff.mpr ⟨h, hname, rfl⟩⟩⟩

/-- An element that differs from another one in its classes at most. -/
structure Reclassed (e e' : Element) : Prop where
  number : e'.number = e.number
  tag : e'.tag = e.tag
  ownText : e'.ownText = e.ownText
  faults : e'.faults = e.faults
  attribute? : ∀ other, other ≠ "class" → e'.attribute? other = e.attribute? other

theorem reclassed_withClasses (e : Element) (cs : List String) :
    Reclassed e (e.withClasses cs) := by
  obtain ⟨heq, -⟩ | heq := withClasses_eq e cs
  · rw [heq]
    exact ⟨rfl, rfl, rfl, rfl, fun _ _ => rfl⟩
  · rw [heq]
    refine ⟨rfl, rfl, rfl, rfl, ?_⟩
    intro other hother
    rw [Element.attribute?, withAttribute, lookup_putEntry, if_neg hother]
    rfl

theorem reclassed_of_addClass (h : e.addClass name = .ok e') : Reclassed e e' := by
  obtain ⟨-, -, rfl⟩ := changeClass_eq_ok_iff.mp h
  exact reclassed_withClasses e _

theorem reclassed_of_removeClass (h : e.removeClass name = .ok e') : Reclassed e e' := by
  obtain ⟨-, -, rfl⟩ := changeClass_eq_ok_iff.mp h
  exact reclassed_withClasses e _

end Element

/-! ### Finding by class -/

/-- A test that does not look at what an element lies in. -/
theorem Forest.select_eq_filter {test : List Element → Element → Bool} {p : Element → Bool}
    (h : ∀ above e, test above e = p e) (above : List Element) (f : Forest) :
    f.select test above = f.elements.filter p := by
  induction f generalizing above with
  | empty => rfl
  | tree e children rest ih₁ ih₂ =>
    rw [select, elements, h, ih₁, ih₂, List.filter_cons, List.filter_append]

/-- **A selector of a class finds the elements of the page that have it.** -/
theorem Document.select_ofClass (d : Document) (name : String) :
    d.select (ofClass name) = d.tree.elements.filter (·.classes.contains name) := by
  refine Forest.select_eq_filter (fun above e => ?_) [] d.tree
  have hnothing : Chain.fits [] above = true := by
    cases above <;> rfl
  simp [Selector.fits, ofClass, Compound.holds, Trait.holds, hnothing]

end Passkey.Browser
