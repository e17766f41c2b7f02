/-
Passkey/Proofs/Widget/Styling.lean

What a style text declares.

A property and its value are joined by the first colon, so a value keeps any
colon of its own.  A semicolon ends the declaration wherever it stands: one that
is part of the value, in quotes or within `url( )`, cuts the value short, and
what follows is read as a style text of its own.
-/
import Mathlib.Data.Bool.AllAny
import Passkey.Proofs.Text.Case
import Passkey.Proofs.Text.Split
import Passkey.Proofs.Text.Trim
import Passkey.Widget.InlineStyle

namespace Passkey.Widget

open Text

/-! ### Property names -/

/-- A name that can stand before the colon of a declaration: it holds none of
the characters that structure a style text, and more than dashes. -/
structure IsPropertyName (name : String) : Prop where
  plain : ∀ c ∈ name.toList, c ∉ [':', ';', '"', '\x27', '(', ')']
  named : ∃ c ∈ (trim name).toList, c ≠ '-'

theorem capitalize_ne_nil {word : List Char} (h : word ≠ []) : capitalize word ≠ [] := by
  rcases word with - | ⟨c, rest⟩
  · exact absurd rfl h
  · simp [capitalize, upper_ne_nil c]

/-- Joining the words of a name loses its dashes and nothing else. -/
theorem camelizeChars_ne_nil {cs : List Char} (h : ∃ c ∈ cs, c ≠ '-') : camelizeChars cs ≠ [] := by
  obtain ⟨word, hword, hne⟩ := exists_piece_ne_nil h
  rw [camelizeChars]
  rcases hpieces : pieces '-' cs with - | ⟨first, words⟩
  · rw [hpieces] at hword
    cases hword
  rw [hpieces] at hword
  intro hnil
  obtain ⟨hfirst, hwords⟩ := List.append_eq_nil_iff.mp hnil
  rcases List.mem_cons.mp hword with rfl | hmem
  · exact hne hfirst
  · exact capitalize_ne_nil hne (List.flatMap_eq_nil_iff.mp hwords word hmem)

/-! ### Declarations -/

variable {name : String}

theorem IsPropertyName.colon (h : IsPropertyName name) : ':' ∉ name.toList :=
  fun hmem => h.plain _ hmem (by decide)

theorem IsPropertyName.semicolon (h : IsPropertyName name) : ';' ∉ name.toList :=
  fun hmem => h.plain _ hmem (by decide)

/-- **Only the first colon splits.** -/
theorem ofPiece?_cut {cs : List Char} (h : ':' ∉ cs) (value : List Char) :
    Declaration.ofPiece? (cs ++ ':' :: value)
      = if camelizeChars (trimBlank cs) = [] then none
        else some ⟨String.ofList (camelizeChars (trimBlank cs)),
          String.ofList (trimBlank value)⟩ := by
  rw [Declaration.ofPiece?, cutAt_append_cons h, Option.bind_some]
  rcases hname : camelizeChars (trimBlank cs) with - | ⟨c, rest⟩
  · simp only [hname, if_pos]
  · simp only [hname, if_neg (List.cons_ne_nil c rest)]

theorem ofPiece?_append_cons (h : IsPropertyName name) (value : String) :
    Declaration.ofPiece? (name.toList ++ ':' :: value.toList)
      = some ⟨camelize (trim name), trim value⟩ := by
  have hne : camelizeChars (trimBlank name.toList) ≠ [] := by
    apply camelizeChars_ne_nil
    simpa [trim] using h.named
  rw [ofPiece?_cut h.colon, if_neg hne, camelize, trim, trim, String.toList_ofList]

/-- **Every semicolon does.** -/
theorem declarations_append_semicolon (h : IsPropertyName name) (value rest : String)
    (hvalue : ';' ∉ value.toList) :
    declarations (name ++ ":" ++ (value ++ ";" ++ rest))
      = ⟨camelize (trim name), trim value⟩ :: declarations rest := by
  have hpiece : ';' ∉ name.toList ++ ':' :: value.toList := by
    simp [h.semicolon, hvalue]
  have htext : (name ++ ":" ++ (value ++ ";" ++ rest)).toList
      = name.toList ++ ':' :: value.toList ++ ';' :: rest.toList := by
    simp
  rw [declarations, htext, pieces_append_cons hpiece]
  rw [List.filterMap_cons_some (ofPiece?_append_cons h value), declarations]

theorem declarations_of_notMem (h : IsPropertyName name) (value : String)
    (hvalue : ';' ∉ value.toList) :
    declarations (name ++ ":" ++ value) = [⟨camelize (trim name), trim value⟩] := by
  have hpiece : ';' ∉ name.toList ++ ':' :: value.toList := by
    simp [h.semicolon, hvalue]
  have htext : (name ++ ":" ++ value).toList = name.toList ++ ':' :: value.toList := by
    simp
  rw [declarations, htext, pieces_of_notMem hpiece]
  rw [List.filterMap_cons_some (ofPiece?_append_cons h value), List.filterMap_nil]

/-- **A value is declared whole if and only if no semicolon is part of it.**  Any
colon in it is kept, and the first semicolon ends the declaration. -/
theorem declares_whole_iff (h : IsPropertyName name) (value : String) :
    (declarations (name ++ ":" ++ value) = [⟨camelize (trim name), trim value⟩]
        ↔ ';' ∉ value.toList)
      ∧ ∀ front rest, value = front ++ ";" ++ rest → ';' ∉ front.toList →
          declarations (name ++ ":" ++ value)
            = ⟨camelize (trim name), trim front⟩ :: declarations rest := by
  have cut : ∀ front rest, value = front ++ ";" ++ rest → ';' ∉ front.toList →
      declarations (name ++ ":" ++ value)
        = ⟨camelize (trim name), trim front⟩ :: declarations rest := by
    rintro front rest rfl hfront
    exact declarations_append_semicolon h front rest hfront
  refine ⟨⟨?_, declarations_of_notMem h value⟩, cut⟩
  intro hwhole hmem
  obtain ⟨front, rest, hsplit, hfront⟩ := List.eq_append_cons_of_mem hmem
  have hvalue : value = String.ofList front ++ ";" ++ String.ofList rest := by
    rw [← String.toList_inj, hsplit]
    simp
  rw [cut _ _ hvalue (by simpa using hfront)] at hwhole
  -- trimming does not take the semicolon away
  have hkept : ';' ∈ trimBlank value.toList := mem_trimBlank hmem (by decide)
  have htrim : trimBlank front = trimBlank value.toList := by
    simpa [trim, String.ofList_inj] using
      congrArg Declaration.value (List.head_eq_of_cons_eq hwhole)
  exact hfront (mem_of_mem_trimBlank (htrim ▸ hkept))

theorem declares_whole_iff_image :
    IsPropertyName "background-image"
      ∧ declarations ("background-image" ++ ":" ++ " url(https://x.org/a.png) ")
          = [⟨"backgroundImage", "url(https://x.org/a.png)"⟩] := by
  have hname : IsPropertyName "background-image" :=
    ⟨List.all_iff_forall_prop.mp (by decide), 'b', by decide⟩
  refine ⟨hname, ?_⟩
  rw [(declares_whole_iff hname _).1.mpr (by decide)]
  decide

/-! ### Semicolons within a value -/

/-- A value whose quotes are closed and whose parentheses are paired.  A
semicolon stands between a pair of them, or else the whole stands `inside` one. -/
inductive Guarded : (inside : Bool) → List Char → Prop
  | nil {inside : Bool} : Guarded inside []
  | plain {inside : Bool} {c : Char} {rest : List Char} (hc : c ∉ ['"', '\x27', '(', ')'])
      (hinside : c = ';' → inside = true) (hrest : Guarded inside rest) :
      Guarded inside (c :: rest)
  | quoted {inside : Bool} {quote : Char} {text rest : List Char}
      (hquote : quote ∈ ['"', '\x27']) (htext : quote ∉ text) (hrest : Guarded inside rest) :
      Guarded inside (quote :: text ++ quote :: rest)
  | group {inside : Bool} {text rest : List Char} (htext : Guarded true text)
      (hrest : Guarded inside rest) : Guarded inside ('(' :: text ++ ')' :: rest)

theorem Guarded.word {inside : Bool} {word rest : List Char}
    (hword : ∀ c ∈ word, c ∉ ['"', '\x27', '(', ')'] ∧ (c = ';' → inside = true))
    (hrest : Guarded inside rest) : Guarded inside (word ++ rest) := by
  induction word with
  | nil => exact hrest
  | cons c word ih =>
    obtain ⟨⟨hc, hinside⟩, hword⟩ := List.forall_mem_cons.mp hword
    exact .plain hc hinside (ih hword)

/-- The semicolon of a data URL stands within the parentheses of `url( )`, and
the declaration ends there all the same. -/
theorem data_url_cut :
    IsPropertyName "background-image"
      ∧ Guarded false "url(data:image/png;base64,AA)".toList
      ∧ declarations "background-image:url(data:image/png;base64,AA)"
          = [⟨"backgroundImage", "url(data:image/png"⟩]
      ∧ declarations ("background-image" ++ ":" ++ "url(data:image/png;base64,AA)")
          ≠ [⟨camelize (trim "background-image"), trim "url(data:image/png;base64,AA)"⟩] := by
  refine ⟨⟨List.all_iff_forall_prop.mp (by decide), 'b', by decide⟩, ?_, by decide, by decide⟩
  have inner : Guarded true ("data:image/png;base64,AA".toList ++ []) :=
    .word (List.all_iff_forall_prop.mp (by decide)) .nil
  have outer : Guarded false
      ("url".toList ++ ('(' :: ("data:image/png;base64,AA".toList ++ []) ++ ')' :: [])) :=
    .word (List.all_iff_forall_prop.mp (by decide)) (.group inner .nil)
  exact outer

end Passkey.Widget
