/-
Passkey/Proofs/Text/Trim.lean

Trimming takes away exactly the blanks at the ends.

A text without blanks comes back from between any blanks, so whatever stands
around a spelling is no part of it.  And what trimming leaves of any text is the
text itself but for blanks at its ends (`exists_blanks`), so it keeps every
other character and can be trimmed again without losing more.
-/
import Mathlib.Data.List.DropRight
import Passkey.Text.Blank

namespace Passkey.Text

/-- The characters are all blank. -/
def AllBlank (cs : List Char) : Prop :=
  ∀ c ∈ cs, isBlank c = true

/-- None of the characters is blank. -/
def NoBlank (cs : List Char) : Prop :=
  ∀ c ∈ cs, isBlank c = false

variable {cs ws ws' : List Char}

/-! ### One end -/

theorem trimLeft_append (h : AllBlank ws) (cs : List Char) :
    trimLeft (ws ++ cs) = trimLeft cs :=
  List.dropWhile_append_of_pos h

theorem trimRight_append (h : AllBlank ws) (cs : List Char) :
    trimRight (cs ++ ws) = trimRight cs := by
  rw [trimRight, List.reverse_append]
  refine congrArg List.reverse (List.dropWhile_append_of_pos ?_)
  intro c hc
  exact h c (List.mem_reverse.mp hc)

theorem trimLeft_allBlank (h : AllBlank ws) : trimLeft ws = [] := by
  rw [← List.append_nil ws, trimLeft_append h]
  rfl

/-- Blanks behind a text keep it from nothing. -/
theorem trimLeft_noBlank (h : NoBlank cs) (hne : cs ≠ []) (ws : List Char) :
    trimLeft (cs ++ ws) = cs ++ ws := by
  rcases cs with - | ⟨c, cs⟩
  · exact absurd rfl hne
  · exact List.dropWhile_cons_of_neg (by rw [h c (by simp)]; exact Bool.false_ne_true)

theorem trimRight_noBlank (h : NoBlank cs) : trimRight cs = cs := by
  rcases List.eq_nil_or_concat cs with rfl | ⟨init, c, rfl⟩
  · rfl
  · have hc : isBlank c = false := h c (by simp)
    rw [trimRight, List.concat_eq_append, List.reverse_append, List.reverse_singleton,
      List.singleton_append, List.dropWhile_cons_of_neg (by rw [hc]; exact Bool.false_ne_true),
      List.reverse_cons, List.reverse_reverse]

/-! ### Both ends -/

/-- **A text without blanks comes back from between any blanks.** -/
theorem trimBlank_surround (hws : AllBlank ws) (h : NoBlank cs) (hws' : AllBlank ws') :
    trimBlank (ws ++ cs ++ ws') = cs := by
  rw [trimBlank, List.append_assoc, trimLeft_append hws]
  by_cases hne : cs = []
  · subst hne
    rw [List.nil_append, trimLeft_allBlank hws']
    rfl
  · rw [trimLeft_noBlank h hne, trimRight_append hws', trimRight_noBlank h]

/-- Blanks around a text make no difference to what trimming leaves of it. -/
theorem trimBlank_append (hws : AllBlank ws) (cs : List Char) (hws' : AllBlank ws') :
    trimBlank (ws ++ cs ++ ws') = trimBlank cs := by
  rw [trimBlank, List.append_assoc, trimLeft_append hws, trimBlank]
  rw [trimLeft, List.dropWhile_append, ← trimLeft, ← trimLeft]
  split
  next hnil =>
    rw [List.isEmpty_iff.mp hnil, trimLeft_allBlank hws']
  next => exact trimRight_append hws' _

/-! ### What trimming leaves -/

theorem exists_trimLeft (cs : List Char) : ∃ ws, AllBlank ws ∧ cs = ws ++ trimLeft cs := by
  refine ⟨cs.takeWhile isBlank, ?_, List.takeWhile_append_dropWhile.symm⟩
  intro c hc
  exact List.mem_takeWhile_imp hc

theorem exists_trimRight (cs : List Char) : ∃ ws, AllBlank ws ∧ cs = trimRight cs ++ ws := by
  obtain ⟨ws, hws, h⟩ := exists_trimLeft cs.reverse
  refine ⟨ws.reverse, ?_, ?_⟩
  · intro c hc
    exact hws c (List.mem_reverse.mp hc)
  · show cs = (trimLeft cs.reverse).reverse ++ ws.reverse
    rw [← List.reverse_append, ← h, List.reverse_reverse]

/-- **Trimming takes blanks from the ends and nothing else.** -/
theorem exists_blanks (cs : List Char) :
    ∃ ws ws', AllBlank ws ∧ AllBlank ws' ∧ cs = ws ++ trimBlank cs ++ ws' := by
  obtain ⟨ws, hws, h⟩ := exists_trimLeft cs
  obtain ⟨ws', hws', h'⟩ := exists_trimRight (trimLeft cs)
  refine ⟨ws, ws', hws, hws', ?_⟩
  rw [List.append_assoc, trimBlank, ← h', ← h]

theorem mem_of_mem_trimBlank {c : Char} (h : c ∈ trimBlank cs) : c ∈ cs := by
  obtain ⟨ws, ws', -, -, heq⟩ := exists_blanks cs
  rw [heq]
  simp [h]

/-- A character that is not blank is not lost. -/
theorem mem_trimBlank {c : Char} (h : c ∈ cs) (hc : isBlank c = false) : c ∈ trimBlank cs := by
  obtain ⟨ws, ws', hws, hws', heq⟩ := exists_blanks cs
  have blank {vs : List Char} (hvs : AllBlank vs) : c ∉ vs := by
    intro hmem
    rw [hvs c hmem] at hc
    cases hc
  rw [heq] at h
  simpa [blank hws, blank hws'] using h

theorem trimBlank_eq_nil_iff : trimBlank cs = [] ↔ AllBlank cs := by
  constructor
  · intro h c hc
    apply Bool.of_not_eq_false
    intro hblank
    have hmem := mem_trimBlank hc hblank
    rw [h] at hmem
    cases hmem
  · intro h
    apply List.eq_nil_iff_forall_not_mem.mpr
    intro c hc
    -- what is left of blanks starts with none
    rw [trimBlank, trimLeft_allBlank h] at hc
    cases hc

theorem trim_eq_empty_iff {s : String} : trim s = "" ↔ AllBlank s.toList := by
  rw [← trimBlank_eq_nil_iff, trim, ← String.toList_inj, String.toList_ofList]
  rfl

/-- What is left does not start with a blank. -/
theorem trimLeft_trimBlank (cs : List Char) : trimLeft (trimBlank cs) = trimBlank cs := by
  rcases h : trimBlank cs with - | ⟨c, rest⟩
  · rfl
  obtain ⟨ws, -, hws⟩ := exists_trimRight (trimLeft cs)
  have hstart : trimLeft cs = c :: (rest ++ ws) := by
    rw [hws, ← trimBlank, h, List.cons_append]
  have hc : isBlank c = false := by
    have hhead := List.head?_dropWhile_not isBlank cs
    rw [← trimLeft, hstart] at hhead
    simpa using hhead
  exact List.dropWhile_cons_of_neg (by rw [hc]; exact Bool.false_ne_true)

theorem trimBlank_trimBlank (cs : List Char) : trimBlank (trimBlank cs) = trimBlank cs := by
  rw [trimBlank, trimLeft_trimBlank]
  simp only [trimBlank, trimRight, List.reverse_reverse, List.dropWhile_idempotent _ _]

/-- A text is trimmed if and only if there is no blank at either of its ends. -/
theorem trimBlank_eq_self_iff {cs : List Char} :
    trimBlank cs = cs ↔
      (∀ c ∈ cs.head?, isBlank c = false) ∧ ∀ c ∈ cs.getLast?, isBlank c = false := by
  have ends (cs : List Char) :
      cs.dropWhile isBlank = cs ↔ ∀ c ∈ cs.head?, isBlank c = false := by
    rcases cs with - | ⟨c, rest⟩
    · simp
    · rcases hc : isBlank c with - | -
      · simp [hc]
      · simp only [List.dropWhile_cons_of_pos hc, List.head?_cons, Option.mem_some_iff,
          forall_eq', hc, Bool.true_eq_false, iff_false]
        intro heq
        have hle := (List.dropWhile_sublist (l := rest) isBlank).length_le
        rw [heq, List.length_cons] at hle
        omega
  have hlast : (∀ c ∈ cs.getLast?, isBlank c = false) ↔ trimRight cs = cs := by
    rw [← List.head?_reverse, ← ends, trimRight, List.reverse_eq_iff]
  rw [← ends, hlast, ← trimLeft]
  constructor
  · intro h
    have hleft : trimLeft cs = cs := by
      rw [← h, trimLeft_trimBlank]
    exact ⟨hleft, by rw [trimBlank, hleft] at h; exact h⟩
  · rintro ⟨hleft, hright⟩
    rw [trimBlank, hleft, hright]

/-- **A trimmed text can be trimmed again without losing more.** -/
theorem trim_trim (s : String) : trim (trim s) = trim s := by
  rw [trim, trim, String.toList_ofList, trimBlank_trimBlank]

end Passkey.Text
