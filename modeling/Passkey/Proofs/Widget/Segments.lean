/-
Passkey/Proofs/Widget/Segments.lean

A style text, segment by segment.

Semicolons join the segments of a style text.  A segment with a colon declares
a property, blanks around its name and its value are no part of them, and a
segment without a colon is junk:

    " margin-top : 3px ;junk;--:x"    declares    marginTop  3px

The text declares what its segments declare one by one, in their order
(`declares_segment_by_segment`).  Junk declares nothing, and neither does a
declaration whose property has no name once its words are joined: that is a
name of blanks, or of nothing but dashes (`camelize_eq_empty_iff`).
-/
import Passkey.Proofs.Widget.Styling

namespace Passkey.Widget

open Text

/-! ### Segments -/

/-- A text with blanks around it; the text itself may have blanks of its own at its ends. -/
structure Padded where
  before : String
  text : String
  behind : String
  blank_before : AllBlank before.toList
  blank_behind : AllBlank behind.toList

/-- The text with its blanks. -/
def Padded.whole (t : Padded) : String :=
  t.before ++ t.text ++ t.behind

/-- A segment of a style text. -/
inductive Segment where
  /-- A name and a value with a colon between them. -/
  | declaration (name value : Padded)
  /-- Anything else. -/
  | junk (text : String)

namespace Segment

/-- The segment as it stands in a style text. -/
def whole : Segment → String
  | declaration name value => name.whole ++ ":" ++ value.whole
  | junk text => text

/-- What a segment can be made of: no semicolon anywhere, and no colon but the one behind the
name of a declaration and any that its value has. -/
inductive IsPlain : Segment → Prop
  | declaration {name value : Padded} (hname : ∀ c ∈ name.text.toList, c ≠ ':' ∧ c ≠ ';')
      (hvalue : ';' ∉ value.text.toList) : IsPlain (.declaration name value)
  | junk {text : String} (htext : ∀ c ∈ text.toList, c ≠ ':' ∧ c ≠ ';') : IsPlain (.junk text)

/-- What a segment declares: its trimmed value for the property of its trimmed name, unless
that has no name. -/
def declared? : Segment → Option Declaration
  | declaration name value =>
    if camelize (trim name.text) = "" then none
    else some ⟨camelize (trim name.text), trim value.text⟩
  | junk _ => none

end Segment

/-! ### Names of properties -/

/-- **Only dashes get lost altogether.** -/
theorem camelizeChars_eq_nil_iff {cs : List Char} : camelizeChars cs = [] ↔ ∀ c ∈ cs, c = '-' := by
  constructor
  · intro hnil c hc
    by_contra hdash
    exact camelizeChars_ne_nil ⟨c, hc, hdash⟩ hnil
  · intro hdashes
    have hempty : ∀ p ∈ pieces '-' cs, p = [] := fun p hp => eq_nil_of_mem_pieces hdashes hp
    rw [camelizeChars]
    rcases hpieces : pieces '-' cs with - | ⟨first, words⟩
    · rfl
    rw [hpieces] at hempty
    obtain ⟨rfl, hwords⟩ := List.forall_mem_cons.mp hempty
    refine List.append_eq_nil_iff.mpr ⟨rfl, List.flatMap_eq_nil_iff.mpr ?_⟩
    intro word hword
    rw [hwords word hword, capitalize]

theorem camelize_eq_empty_iff {name : String} :
    camelize name = "" ↔ ∀ c ∈ name.toList, c = '-' := by
  rw [← camelizeChars_eq_nil_iff, camelize, ← String.toList_inj, String.toList_ofList]
  rfl

/-! ### Reading a segment -/

/-- A separator is no blank, so blanks around a text bring none into it. -/
theorem Padded.notMem_whole {sep : Char} (hsep : isBlank sep = false) {t : Padded}
    (h : sep ∉ t.text.toList) : sep ∉ t.whole.toList := by
  have blank {ws : List Char} (hws : AllBlank ws) : sep ∉ ws := by
    intro hmem
    rw [hws sep hmem] at hsep
    cases hsep
  simp [Padded.whole, blank t.blank_before, blank t.blank_behind, h]

theorem Padded.trim_whole (t : Padded) : trim t.whole = trim t.text := by
  simp only [trim, Padded.whole, String.toList_append]
  rw [trimBlank_append t.blank_before _ t.blank_behind]

namespace Segment

variable {s : Segment}

theorem semicolon_notMem_whole (h : s.IsPlain) : ';' ∉ s.whole.toList := by
  cases h with
  | @declaration name value hname hvalue =>
    have left : ';' ∉ name.whole.toList :=
      Padded.notMem_whole (by decide) fun hmem => (hname _ hmem).2 rfl
    have right : ';' ∉ value.whole.toList := Padded.notMem_whole (by decide) hvalue
    simp [whole, left, right]
  | junk htext => exact fun hmem => (htext _ hmem).2 rfl

/-- **A segment is read as what it declares.** -/
theorem ofPiece?_whole (h : s.IsPlain) : Declaration.ofPiece? s.whole.toList = s.declared? := by
  cases h with
  | @declaration name value hname hvalue =>
    have hcolon : ':' ∉ name.whole.toList :=
      Padded.notMem_whole (by decide) fun hmem => (hname _ hmem).1 rfl
    have hwhole : (Segment.declaration name value).whole.toList
        = name.whole.toList ++ ':' :: value.whole.toList := by
      simp [whole]
    have hproperty : String.ofList (camelizeChars (trimBlank name.whole.toList))
        = camelize (trim name.text) := by
      rw [← name.trim_whole, camelize, trim, String.toList_ofList]
    have hvalue : String.ofList (trimBlank value.whole.toList) = trim value.text := by
      rw [← value.trim_whole, trim]
    rw [hwhole, ofPiece?_cut hcolon, hproperty, hvalue, declared?]
    refine if_congr ?_ rfl rfl
    rw [← hproperty, ← String.toList_inj, String.toList_ofList]
    rfl
  | @junk text htext =>
    have hcolon : ':' ∉ text.toList := fun hmem => (htext _ hmem).1 rfl
    rw [whole, Declaration.ofPiece?, cutAt_of_notMem hcolon]
    rfl

end Segment

/-! ### Reading a style text -/

/-- **A style text declares what its segments declare**, each as often as it stands there and
in the same order.  A declaration is silent if and only if its name, without the blanks
around it, is nothing or nothing but dashes. -/
theorem declares_segment_by_segment (segments : List Segment) (h : ∀ s ∈ segments, s.IsPlain) :
    declarations (";".intercalate (segments.map Segment.whole))
        = segments.filterMap Segment.declared?
      ∧ ∀ name value, (Segment.declaration name value).declared? = none
          ↔ ∀ c ∈ (trim name.text).toList, c = '-' := by
  constructor
  · rcases List.eq_nil_or_concat segments with rfl | ⟨init, last, hsegments⟩
    · rfl
    have hpieces : ∀ p ∈ segments.map Segment.whole, ';' ∉ p.toList := by
      simpa using fun s hs => Segment.semicolon_notMem_whole (h s hs)
    rw [declarations, pieces_toList_intercalate rfl hpieces (by simp [hsegments]), List.map_map,
      List.filterMap_map]
    exact List.filterMap_congr fun s hs => Segment.ofPiece?_whole (h s hs)
  · intro name value
    rw [← camelize_eq_empty_iff, Segment.declared?]
    simp

/-- A text without blanks around it. -/
def Padded.bare (text : String) : Padded :=
  ⟨"", text, "", by simp [AllBlank], by simp [AllBlank]⟩

/-- A text between a no-break space and a tab. -/
def Padded.spaced (text : String) : Padded :=
  ⟨"\u00a0", text, "\t", List.all_iff_forall_prop.mp (by decide),
    List.all_iff_forall_prop.mp (by decide)⟩

/-- Segments of each kind: two declarations of one property, junk, and a name of dashes. -/
def motley : List Segment :=
  [.declaration (.spaced "margin-top") (.bare "3px"), .junk "important",
    .declaration (.bare "--") (.bare "x"),
    .declaration (.bare "margin-top") (.spaced "url(a:b)")]

theorem declares_segment_by_segment_motley :
    (∀ s ∈ motley, s.IsPlain)
      ∧ declarations (";".intercalate (motley.map Segment.whole))
          = [⟨"marginTop", "3px"⟩, ⟨"marginTop", "url(a:b)"⟩] := by
  have hplain : ∀ s ∈ motley, s.IsPlain := by
    intro s hs
    simp only [motley, List.mem_cons, List.not_mem_nil, or_false] at hs
    rcases hs with rfl | rfl | rfl | rfl
    · exact .declaration (List.all_iff_forall_prop.mp (by decide)) (by decide)
    · exact .junk (List.all_iff_forall_prop.mp (by decide))
    · exact .declaration (List.all_iff_forall_prop.mp (by decide)) (by decide)
    · exact .declaration (List.all_iff_forall_prop.mp (by decide)) (by decide)
  refine ⟨hplain, ?_⟩
  rw [(declares_segment_by_segment motley hplain).1]
  decide

end Passkey.Widget
