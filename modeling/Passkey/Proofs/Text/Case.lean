/-
Passkey/Proofs/Text/Case.lean

What becomes of a text when it is made small.

A character is looked up in a list of special images and in the runs of a
table, and stays if neither has it (`Mapping`).  Two facts about all entries of
the table of small forms carry this file:

* no image is blank or nothing, so a trimmed text is trimmed when it is small
  (`trim_lowerText`), and as blank as before;
* two characters besides the capitals of ASCII have an image with a letter of
  ASCII, and one of them, the Kelvin sign, has no other.  So what is small the
  text of some letters other than `k` is their spelling in ASCII
  (`lowerFrom_eq_iff`).
-/
import Passkey.Proofs.Text.Trim
import Passkey.Text.Case

namespace Passkey.Text

/-! ### One character -/

/-- What a table makes of a character: a special image, the image in a run, or itself. -/
inductive Mapping (special : List (Nat × List Nat)) (runs : List CaseRun) (c : Char) :
    List Char → Prop
  | special {image : List Nat} (entry : (c.toNat, image) ∈ special) :
    Mapping special runs c (image.map Char.ofNat)
  | run {r : CaseRun} (entry : r ∈ runs) (holds : r.holds c.toNat = true) :
    Mapping special runs c [Char.ofNat (c.toNat + r.shift).toNat]
  | same (none : ∀ r ∈ runs, r.holds c.toNat = false) : Mapping special runs c [c]

theorem mapping_mapCase (special : List (Nat × List Nat)) (runs : List CaseRun) (c : Char) :
    Mapping special runs c (mapCase special runs c) := by
  rw [mapCase]
  split
  next n image hfound =>
    obtain rfl : n = c.toNat := by simpa using List.find?_some hfound
    exact .special (List.mem_of_find?_eq_some hfound)
  next =>
    split
    next r hfound =>
      exact .run (List.mem_of_find?_eq_some hfound)
        (List.find?_some (p := fun r : CaseRun => r.holds c.toNat) hfound)
    next hnone => exact .same (by simpa using List.find?_eq_none.mp hnone)

theorem mapping_lower (c : Char) : Mapping lowerSpecial lowerRuns c (lower c) :=
  mapping_mapCase lowerSpecial lowerRuns c

theorem mapping_upper (c : Char) : Mapping upperSpecial upperRuns c (upper c) :=
  mapping_mapCase upperSpecial upperRuns c

theorem upper_ne_nil (c : Char) : upper c ≠ [] := by
  -- of all the images only the special ones are lists of the table
  have images : ∀ e ∈ upperSpecial, e.2 ≠ [] := by decide
  have hmapping := mapping_upper c
  generalize upper c = image at hmapping
  cases hmapping with
  | special entry =>
    intro hnil
    exact images _ entry (List.map_eq_nil_iff.mp hnil)
  | run | same => exact List.cons_ne_nil _ _

theorem CaseRun.mem_of_holds {r : CaseRun} {n : Nat} (h : r.holds n = true) :
    r.first ≤ n ∧ n ≤ r.last := by
  simp only [holds, Bool.and_eq_true, decide_eq_true_eq] at h
  exact h.1

/-- A number that stands for no character stands for the null character. -/
theorem toNat_ofNat (n : Nat) : (Char.ofNat n).toNat = n ∨ (Char.ofNat n).toNat = 0 := by
  by_cases h : n.isValidChar
  · left
    rw [Char.ofNat, dif_pos h]
    rfl
  · right
    rw [Char.ofNat, dif_neg h]
    rfl

/-! ### Blanks -/

/-- The small form of a character that is not blank is something, and nothing of it is blank. -/
def IsInk (image : List Char) : Prop :=
  image ≠ [] ∧ NoBlank image

theorem isInk_lower {c : Char} (h : isBlank c = false) : IsInk (lower c) := by
  have special : ∀ e ∈ lowerSpecial, e.2 ≠ [] ∧ ∀ n ∈ e.2, isBlank (Char.ofNat n) = false := by
    decide
  -- the images of a run lie between two neighbouring blanks
  have run : ∀ r ∈ lowerRuns, ∀ i ∈ whiteSpace.intervals,
      r.last + r.shift < i.1 ∨ (i.2 : Int) < r.first + r.shift := by
    decide +kernel
  have hmapping := mapping_lower c
  generalize lower c = image at hmapping
  cases hmapping with
  | special entry =>
    obtain ⟨hne, hblank⟩ := special _ entry
    exact ⟨by simpa using hne, by simpa [NoBlank] using hblank⟩
  | @run r entry holds =>
    obtain ⟨hfirst, hlast⟩ := r.mem_of_holds holds
    refine ⟨List.cons_ne_nil _ _, ?_⟩
    intro x hx
    rw [List.mem_singleton] at hx
    rw [← Bool.not_eq_true, isBlank, CodePoints.contains_iff, hx]
    rintro ⟨i, hi, hlow, hhigh⟩
    have hpositive : ∀ i ∈ whiteSpace.intervals, 0 < i.1 := by decide
    have hlowest := hpositive i hi
    have hbetween := run r entry i hi
    rcases toNat_ofNat (c.toNat + r.shift).toNat with hn | hn
    · omega
    · omega
  | same => exact ⟨List.cons_ne_nil _ _, by simpa [NoBlank] using h⟩

/-- The small form of a character in a text: a capital sigma looks around. -/
def imageIn (before : List Char) (c : Char) (rest : List Char) : List Char :=
  if c = 'Σ' then if meetsCased before && !meetsCased rest then ['ς'] else ['σ'] else lower c

theorem lowerFrom_cons (before : List Char) (c : Char) (rest : List Char) :
    lowerFrom before (c :: rest) = imageIn before c rest ++ lowerFrom (c :: before) rest :=
  rfl

theorem isInk_imageIn (before : List Char) {c : Char} (h : isBlank c = false)
    (rest : List Char) : IsInk (imageIn before c rest) := by
  have hsigma : IsInk ['ς'] ∧ IsInk ['σ'] := by
    simp only [IsInk, NoBlank, List.mem_singleton, forall_eq]
    decide
  rw [imageIn]
  split
  · split
    exacts [hsigma.1, hsigma.2]
  · exact isInk_lower h

theorem head?_lowerFrom (before : List Char) {c : Char} (h : isBlank c = false)
    (rest : List Char) :
    ∃ x, (lowerFrom before (c :: rest)).head? = some x ∧ isBlank x = false := by
  obtain ⟨hne, hblank⟩ := isInk_imageIn before h rest
  rcases himage : imageIn before c rest with - | ⟨x, image⟩
  · exact absurd himage hne
  · exact ⟨x, by rw [lowerFrom_cons, himage]; rfl, hblank x (by simp [himage])⟩

/-- The last character of a text is made small at its end, whatever stands before it. -/
theorem getLast?_lowerFrom (before init : List Char) {c : Char} (h : isBlank c = false) :
    ∃ x, (lowerFrom before (init ++ [c])).getLast? = some x ∧ isBlank x = false := by
  induction init generalizing before with
  | nil =>
    obtain ⟨hne, hblank⟩ := isInk_imageIn before h []
    have hwhole : lowerFrom before ([] ++ [c]) = imageIn before c [] := by
      rw [List.nil_append, lowerFrom_cons, lowerFrom, List.append_nil]
    rw [hwhole]
    exact ⟨_, List.getLast?_eq_some_getLast hne, hblank _ (List.getLast_mem hne)⟩
  | cons d init ih =>
    obtain ⟨x, hx, hblank⟩ := ih (d :: before)
    refine ⟨x, ?_, hblank⟩
    rw [List.cons_append, lowerFrom_cons, List.getLast?_append, hx, Option.some_or]

/-- **A trimmed text is trimmed when it is small.** -/
theorem trimBlank_lowerFrom {cs : List Char} (h : trimBlank cs = cs) :
    trimBlank (lowerFrom [] cs) = lowerFrom [] cs := by
  rw [trimBlank_eq_self_iff] at h ⊢
  rcases cs with - | ⟨c, rest⟩
  · simp [lowerFrom]
  constructor
  · obtain ⟨x, hx, hblank⟩ := head?_lowerFrom [] (h.1 c rfl) rest
    simpa [hx] using hblank
  · obtain ⟨init, last, hsplit⟩ :=
      (List.eq_nil_or_concat (c :: rest)).resolve_left (List.cons_ne_nil _ _)
    rw [hsplit, List.concat_eq_append] at h ⊢
    obtain ⟨x, hx, hblank⟩ := getLast?_lowerFrom [] init (h.2 last (by simp))
    simpa [hx] using hblank

theorem trim_lowerText (s : String) : trim (lowerText (trim s)) = lowerText (trim s) := by
  simp only [trim, lowerText, String.toList_ofList]
  rw [trimBlank_lowerFrom (trimBlank_trimBlank _)]

/-- A text that is not blank is not blank when it is small. -/
theorem not_allBlank_lowerText {s : String} (h : ¬ AllBlank s.toList) :
    ¬ AllBlank (lowerText (trim s)).toList := by
  rw [← trimBlank_eq_nil_iff] at h
  have htrimmed := trimBlank_eq_self_iff.mp (trimBlank_trimBlank s.toList)
  rw [lowerText, trim, String.toList_ofList, String.toList_ofList]
  rcases hcs : trimBlank s.toList with - | ⟨c, rest⟩
  · exact absurd hcs h
  · rw [hcs] at htrimmed
    obtain ⟨x, hx, hblank⟩ := head?_lowerFrom [] (htrimmed.1 c rfl) rest
    intro hall
    rw [hall x (List.mem_of_head? hx)] at hblank
    cases hblank

/-! ### Letters of ASCII -/

/-- A small letter of ASCII that is the small form of no character outside of it. -/
def IsOwnSmall (c : Char) : Prop :=
  97 ≤ c.toNat ∧ c.toNat ≤ 122 ∧ c.toNat ≠ 107

instance : DecidablePred IsOwnSmall := fun _ => instDecidableAnd

theorem asciiLower_of_capital {c : Char} (h : 65 ≤ c.toNat ∧ c.toNat ≤ 90) :
    asciiLower c = Char.ofNat (c.toNat + 32) :=
  if_pos h

theorem asciiLower_of_not_capital {c : Char} (h : ¬ (65 ≤ c.toNat ∧ c.toNat ≤ 90)) :
    asciiLower c = c :=
  if_neg h

/-- **A character is made small as ASCII says, or nobody takes it for a letter of ASCII**, before
or after. -/
theorem lower_eq_or (c : Char) :
    lower c = [asciiLower c] ∨
      ¬ IsOwnSmall (asciiLower c) ∧ ∃ x ∈ lower c, ¬ IsOwnSmall x := by
  have special : ∀ e ∈ lowerSpecial, 128 ≤ e.1 ∧ ∃ n ∈ e.2, ¬ IsOwnSmall (Char.ofNat n) := by
    decide
  have run : ∀ r ∈ lowerRuns, r = ⟨0x41, 0x5A, 1, 32⟩ ∨ 128 ≤ r.first ∧
      (128 ≤ (r.first : Int) + r.shift ∨ r.first = r.last ∧ (r.first : Int) + r.shift = 107) := by
    decide +kernel
  have outside (h : 128 ≤ c.toNat) : ¬ IsOwnSmall (asciiLower c) := by
    rw [asciiLower_of_not_capital (by omega)]
    rintro ⟨-, hle, -⟩
    omega
  have hmapping := mapping_lower c
  generalize lower c = image at hmapping
  cases hmapping with
  | special entry =>
    obtain ⟨hfar, n, hn, hown⟩ := special _ entry
    exact .inr ⟨outside hfar, _, List.mem_map_of_mem hn, hown⟩
  | @run r entry holds =>
    obtain ⟨hfirst, hlast⟩ := r.mem_of_holds holds
    rcases run r entry with rfl | ⟨hfar, himage⟩
    · left
      rw [asciiLower_of_capital ⟨hfirst, hlast⟩]
      rfl
    · refine .inr ⟨outside (by omega), _, List.mem_singleton_self _, ?_⟩
      rintro ⟨hlow, hhigh, hk⟩
      rcases toNat_ofNat (c.toNat + r.shift).toNat with hn | hn
      · omega
      · omega
  | same hnone =>
    left
    rw [asciiLower_of_not_capital]
    rintro ⟨hlow, hhigh⟩
    have hcapitals : ⟨0x41, 0x5A, 1, 32⟩ ∈ lowerRuns := by decide
    have hout := hnone _ hcapitals
    simp [CaseRun.holds, hlow, hhigh, Nat.mod_one] at hout

theorem imageIn_eq_or (before : List Char) (c : Char) (rest : List Char) :
    imageIn before c rest = [asciiLower c] ∨
      ¬ IsOwnSmall (asciiLower c) ∧ ∃ x ∈ imageIn before c rest, ¬ IsOwnSmall x := by
  rw [imageIn]
  split
  next hc =>
    right
    refine ⟨by rw [hc]; decide, ?_⟩
    split
    · exact ⟨'ς', by simp, by decide⟩
    · exact ⟨'σ', by simp, by decide⟩
  next => exact lower_eq_or c

/-- **What is small a word of such letters is its spelling in ASCII.** -/
theorem lowerFrom_eq_iff {w : List Char} (hw : ∀ c ∈ w, IsOwnSmall c) (before cs : List Char) :
    lowerFrom before cs = w ↔ cs.map asciiLower = w := by
  induction cs generalizing before w with
  | nil => rfl
  | cons c rest ih =>
    rw [lowerFrom_cons, List.map_cons]
    rcases imageIn_eq_or before c rest with himage | ⟨hown, x, hx, hx'⟩
    · rw [himage, List.singleton_append]
      rcases w with - | ⟨d, w⟩
      · simp
      · rw [List.cons.injEq, List.cons.injEq, ih (List.forall_mem_cons.mp hw).2]
    · constructor
      · rintro rfl
        exact absurd (hw x (List.mem_append_left _ hx)) hx'
      · rintro rfl
        exact absurd (hw _ List.mem_cons_self) hown

theorem lowerText_eq_iff {w : String} (hw : ∀ c ∈ w.toList, IsOwnSmall c) (s : String) :
    lowerText s = w ↔ s.toList.map asciiLower = w.toList := by
  rw [← lowerFrom_eq_iff hw [], lowerText, ← String.toList_inj, String.toList_ofList]

end Passkey.Text
