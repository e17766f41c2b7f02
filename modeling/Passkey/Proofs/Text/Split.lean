/-
Passkey/Proofs/Text/Split.lean

Where a text is cut.

The pieces of a text are those the library's `List.splitOnP` cuts it into, so a
separator with none before it ends the first piece, and a text without any is
one piece.  Cutting once at the first separator takes the same first piece.
What stands behind the last separator is the one part that a cut there leaves
(`BehindLast`).
-/
import Mathlib.Data.List.TakeWhile
import Passkey.Text.Split

namespace Passkey.Text

variable {sep : Char} {front : List Char}

theorem pieces_eq_splitOnP (sep : Char) (cs : List Char) :
    pieces sep cs = cs.splitOnP (· == sep) := by
  induction cs with
  | nil => rfl
  | cons c rest ih =>
    rw [pieces, List.splitOnP_cons_eq_if_modifyHead, ih]
    by_cases hc : c = sep
    · simp [hc]
    rw [if_neg hc, if_neg (by simpa using hc)]
    -- the library's pieces are never none, so the first one takes the character
    rcases h : rest.splitOnP (· == sep) with - | ⟨p, ps⟩
    · exact absurd h (List.splitOnP_ne_nil _ rest)
    · rfl

/-- What the library's lemmas ask of a piece. -/
theorem beq_eq_false_of_notMem (h : sep ∉ front) : ∀ c ∈ front, (c == sep) = false := by
  intro c hc
  exact beq_false_of_ne fun heq => h (heq ▸ hc)

theorem pieces_of_notMem (h : sep ∉ front) : pieces sep front = [front] := by
  rw [pieces_eq_splitOnP]
  exact List.splitOnP_eq_singleton (beq_eq_false_of_notMem h)

/-- **The first separator ends the first piece.** -/
theorem pieces_append_cons (h : sep ∉ front) (rest : List Char) :
    pieces sep (front ++ sep :: rest) = front :: pieces sep rest := by
  rw [pieces_eq_splitOnP, pieces_eq_splitOnP]
  exact List.splitOnP_append_cons_of_forall_mem (beq_eq_false_of_notMem h) sep
    (beq_self_eq_true sep) rest

/-- **Pieces that were joined come apart again**, if none of them holds the separator. -/
theorem pieces_intercalate {parts : List (List Char)} (h : ∀ p ∈ parts, sep ∉ p)
    (hne : parts ≠ []) : pieces sep ([sep].intercalate parts) = parts := by
  rw [pieces_eq_splitOnP, ← List.splitOn_eq_splitOnP]
  exact List.splitOn_intercalate sep h hne

/-- The same of texts that were joined by a text of one character. -/
theorem pieces_toList_intercalate {joint : String} (hjoint : joint.toList = [sep])
    {parts : List String} (h : ∀ p ∈ parts, sep ∉ p.toList) (hne : parts ≠ []) :
    pieces sep (joint.intercalate parts).toList = parts.map String.toList := by
  rw [String.toList_intercalate, hjoint]
  exact pieces_intercalate (by simpa using h) (by simpa using hne)

/-- **No piece holds the separator.** -/
theorem notMem_of_mem_pieces {cs p : List Char} (hp : p ∈ pieces sep cs) : sep ∉ p := by
  induction cs generalizing p with
  | nil =>
    rw [List.mem_singleton.mp hp]
    exact List.not_mem_nil
  | cons c rest ih =>
    rw [pieces] at hp
    split at hp
    · rcases List.mem_cons.mp hp with rfl | hp
      · exact List.not_mem_nil
      · exact ih hp
    · next hc =>
      rcases hrest : pieces sep rest with - | ⟨q, qs⟩
      · rw [hrest] at hp
        rw [List.mem_singleton.mp hp, List.mem_singleton]
        exact Ne.symm hc
      · rw [hrest] at hp ih
        rcases List.mem_cons.mp hp with rfl | hp
        · exact List.not_mem_cons_of_ne_of_not_mem (Ne.symm hc) (ih List.mem_cons_self)
        · exact ih (List.mem_cons_of_mem q hp)

/-- A text of nothing but separators has pieces of nothing. -/
theorem eq_nil_of_mem_pieces {cs p : List Char} (h : ∀ c ∈ cs, c = sep) (hp : p ∈ pieces sep cs) :
    p = [] := by
  induction cs with
  | nil => exact List.mem_singleton.mp hp
  | cons c rest ih =>
    obtain ⟨hc, hrest⟩ := List.forall_mem_cons.mp h
    rw [pieces, if_pos hc] at hp
    rcases List.mem_cons.mp hp with rfl | hp
    · rfl
    · exact ih hrest hp

/-- A text of more than separators has a piece of more than nothing. -/
theorem exists_piece_ne_nil {cs : List Char} (h : ∃ c ∈ cs, c ≠ sep) :
    ∃ p ∈ pieces sep cs, p ≠ [] := by
  induction cs with
  | nil => simp at h
  | cons a rest ih =>
    rw [pieces]
    by_cases ha : a = sep
    · obtain ⟨p, hp, hne⟩ := ih (by simpa [ha] using h)
      rw [if_pos ha]
      exact ⟨p, List.mem_cons_of_mem _ hp, hne⟩
    · rw [if_neg ha]
      rcases pieces sep rest with - | ⟨p, ps⟩
      · exact ⟨[a], by simp⟩
      · exact ⟨a :: p, by simp⟩

theorem cutAt_append_cons (h : sep ∉ front) (rest : List Char) :
    cutAt sep (front ++ sep :: rest) = some (front, rest) := by
  induction front with
  | nil => exact if_pos rfl
  | cons c front ih =>
    rw [List.mem_cons, not_or] at h
    rw [List.cons_append, cutAt, if_neg (Ne.symm h.1), ih h.2, Option.map_some]

theorem cutAt_of_notMem (h : sep ∉ front) : cutAt sep front = none := by
  induction front with
  | nil => rfl
  | cons c front ih =>
    rw [List.mem_cons, not_or] at h
    rw [cutAt, if_neg (Ne.symm h.1), ih h.2, Option.map_none]

/-! ### Behind the last separator -/

/-- A part of a text that stands behind its last separator, or all of a text without any. -/
inductive BehindLast (sep : Char) : List Char → List Char → Prop
  | all {cs : List Char} (h : sep ∉ cs) : BehindLast sep cs cs
  | rest {cs : List Char} (front : List Char) (h : sep ∉ cs) :
    BehindLast sep (front ++ sep :: cs) cs

/-- **There is one such part.** -/
theorem BehindLast.afterLast_eq {cs rest : List Char} (h : BehindLast sep cs rest) :
    afterLast sep cs = rest := by
  have stop {cs : List Char} (h : sep ∉ cs) : ∀ c ∈ cs.reverse, (c != sep) = true := by
    intro c hc
    exact bne_iff_ne.mpr fun heq => h (heq ▸ List.mem_reverse.mp hc)
  rw [afterLast]
  cases h with
  | all h => rw [List.takeWhile_eq_self_iff.mpr (stop h), List.reverse_reverse]
  | rest front h =>
    rw [List.reverse_append, List.reverse_cons, List.append_assoc,
      List.takeWhile_append_of_pos (stop h), List.singleton_append,
      List.takeWhile_cons_of_neg (by simp), List.append_nil, List.reverse_reverse]

theorem behindLast_afterLast (sep : Char) (cs : List Char) :
    BehindLast sep cs (afterLast sep cs) := by
  by_cases hmem : sep ∈ cs.reverse
  · obtain ⟨back, front, hsplit, hback⟩ := List.eq_append_cons_of_mem hmem
    have hcs : cs = front.reverse ++ sep :: back.reverse := by
      rw [← List.reverse_reverse cs, hsplit]
      simp
    have hrest : BehindLast sep cs back.reverse := by
      rw [hcs]
      exact .rest _ (by simpa using hback)
    rw [hrest.afterLast_eq]
    exact hrest
  · have hall : BehindLast sep cs cs := .all (by simpa using hmem)
    rw [hall.afterLast_eq]
    exact hall

end Passkey.Text
