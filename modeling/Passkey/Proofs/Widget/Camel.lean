/-
Passkey/Proofs/Widget/Camel.lean

Dashed names of properties and their names without dashes.

The words of a dashed name are joined, all but the first one capitalized.  A
capital then stands where a dash was, and nowhere else, as long as words begin
with a small letter and hold no capital:

    -webkit-font-size   is written   WebkitFontSize

so writing the dashes again gives the name back (`dashes_camelizeChars`), and
two names never become one.  What is left of any other text has no dash either:
no character but the dash itself has a capital form with one (`dash_mem_upper`).
So a name without dashes stays what it is, and joining twice is joining once.
-/
import Passkey.Proofs.Widget.Styling

namespace Passkey.Widget

open Text

/-! ### Words -/

/-- Small letters of ASCII. -/
def IsSmall (c : Char) : Prop :=
  'a' ≤ c ∧ c ≤ 'z'

/-- Digits of ASCII. -/
def IsDigit (c : Char) : Prop :=
  '0' ≤ c ∧ c ≤ '9'

instance (c : Char) : Decidable (IsSmall c) :=
  inferInstanceAs (Decidable (_ ∧ _))

instance (c : Char) : Decidable (IsDigit c) :=
  inferInstanceAs (Decidable (_ ∧ _))

/-- A word of a name: a small letter, and then small letters and digits. -/
inductive IsWord : List Char → Prop
  | intro {c : Char} {rest : List Char} (hc : IsSmall c)
    (hrest : ∀ x ∈ rest, IsSmall x ∨ IsDigit x) : IsWord (c :: rest)

/-- The name of a property in a style text: words with single dashes between them, and one more
dash in front if it is the property of a vendor. -/
inductive IsDashed : String → Prop
  | words {words : List String} (hne : words ≠ []) (h : ∀ w ∈ words, IsWord w.toList) :
    IsDashed ("-".intercalate words)
  | vendor {words : List String} (hne : words ≠ []) (h : ∀ w ∈ words, IsWord w.toList) :
    IsDashed ("-" ++ "-".intercalate words)

/-- Writes a dash and the small letter for each capital of ASCII. -/
def dashes (cs : List Char) : List Char :=
  cs.flatMap fun c => if 'A' ≤ c ∧ c ≤ 'Z' then ['-', asciiLower c] else [c]

section Words

variable {c : Char} {word : List Char}

/-- The capital form of a small letter is a single capital. -/
theorem upper_of_isSmall (h : IsSmall c) :
    ∃ d, upper c = [d] ∧ ('A' ≤ d ∧ d ≤ 'Z') ∧ asciiLower d = c := by
  have alphabet : ∀ i < 26, upper (Char.ofNat (97 + i)) = [Char.ofNat (65 + i)] ∧
      ('A' ≤ Char.ofNat (65 + i) ∧ Char.ofNat (65 + i) ≤ 'Z') ∧
        asciiLower (Char.ofNat (65 + i)) = Char.ofNat (97 + i) := by
    decide +kernel
  have hlow : 97 ≤ c.toNat := h.1
  have hhigh : c.toNat ≤ 122 := h.2
  have hcapital := alphabet (c.toNat - 97) (by omega)
  have hc : Char.ofNat (97 + (c.toNat - 97)) = c := by
    rw [Nat.add_sub_cancel' hlow, Char.ofNat_toNat]
  rw [hc] at hcapital
  exact ⟨_, hcapital⟩

/-- What is no capital is written as it is. -/
theorem dashes_of_plain (h : ∀ c ∈ word, IsSmall c ∨ IsDigit c) : dashes word = word := by
  have hplain : ∀ c ∈ word,
      (if 'A' ≤ c ∧ c ≤ 'Z' then ['-', asciiLower c] else [c]) = [c] := by
    intro c hc
    refine if_neg ?_
    rintro ⟨hlow, hhigh⟩
    have hlow : 65 ≤ c.toNat := hlow
    have hhigh : c.toNat ≤ 90 := hhigh
    rcases h c hc with ⟨hsmall, -⟩ | ⟨-, hdigit⟩
    · have hsmall : 97 ≤ c.toNat := hsmall
      omega
    · have hdigit : c.toNat ≤ 57 := hdigit
      omega
  rw [dashes, List.flatMap_congr hplain, List.flatMap_singleton']

theorem IsWord.plain (h : IsWord word) : ∀ c ∈ word, IsSmall c ∨ IsDigit c := by
  obtain ⟨hc, hrest⟩ := h
  exact List.forall_mem_cons.mpr ⟨.inl hc, hrest⟩

theorem IsWord.dash_notMem (h : IsWord word) : '-' ∉ word := by
  intro hmem
  rcases h.plain _ hmem with h | h
  · exact absurd h (by decide)
  · exact absurd h (by decide)

/-- **A capitalized word is written with a dash in front.** -/
theorem dashes_capitalize (h : IsWord word) : dashes (capitalize word) = '-' :: word := by
  obtain @⟨c, rest, hc, hrest⟩ := h
  obtain ⟨d, hupper, hcapital, hlower⟩ := upper_of_isSmall hc
  rw [capitalize, hupper, List.singleton_append, dashes, List.flatMap_cons, if_pos hcapital,
    hlower, ← dashes, dashes_of_plain hrest]
  rfl

end Words

/-! ### Names -/

section Names

variable {first : List Char} {words : List (List Char)}

theorem dash_intercalate (first : List Char) (words : List (List Char)) :
    ['-'].intercalate (first :: words) = first ++ words.flatMap ('-' :: ·) := by
  induction words generalizing first with
  | nil => simp
  | cons word words ih => rw [List.intercalate_cons_cons, ih]; simp

/-- **Joining the words of a name loses nothing**: the capitals tell where dashes were. -/
theorem dashes_camelizeChars (hfirst : first = [] ∨ IsWord first)
    (hwords : ∀ w ∈ words, IsWord w) :
    dashes (camelizeChars (['-'].intercalate (first :: words)))
      = ['-'].intercalate (first :: words) := by
  have hnone : '-' ∉ first := by
    rcases hfirst with rfl | h
    · exact List.not_mem_nil
    · exact h.dash_notMem
  have hplain : dashes first = first := by
    rcases hfirst with rfl | h
    · rfl
    · exact dashes_of_plain h.plain
  have hparts : ∀ w ∈ first :: words, '-' ∉ w :=
    List.forall_mem_cons.mpr ⟨hnone, fun w hw => (hwords w hw).dash_notMem⟩
  have hdashes : words.flatMap (fun w => dashes (capitalize w)) = words.flatMap ('-' :: ·) :=
    List.flatMap_congr fun w hw => dashes_capitalize (hwords w hw)
  have happend (cs cs' : List Char) : dashes (cs ++ cs') = dashes cs ++ dashes cs' :=
    List.flatMap_append
  have hflat : dashes (words.flatMap capitalize) = words.flatMap fun w => dashes (capitalize w) :=
    List.flatMap_assoc
  rw [camelizeChars, pieces_intercalate hparts (List.cons_ne_nil _ _)]
  show dashes (first ++ words.flatMap capitalize) = _
  rw [happend, hplain, hflat, hdashes, dash_intercalate]

/-- A dashed name is a list of words, of which the first one may be missing. -/
theorem IsDashed.exists_words {name : String} (h : IsDashed name) :
    ∃ first words, name.toList = ['-'].intercalate (first :: words) ∧
      (first = [] ∨ IsWord first) ∧ ∀ w ∈ words, IsWord w := by
  cases h with
  | @words words hne h =>
    obtain ⟨first, rest, rfl⟩ := List.exists_cons_of_ne_nil hne
    obtain ⟨hfirst, hrest⟩ := List.forall_mem_cons.mp h
    exact ⟨first.toList, rest.map String.toList, String.toList_intercalate, .inr hfirst,
      by simpa using hrest⟩
  | @vendor words hne h =>
    obtain ⟨first, rest, rfl⟩ := List.exists_cons_of_ne_nil hne
    refine ⟨[], (first :: rest).map String.toList, ?_, .inl rfl, by simpa using h⟩
    rw [String.toList_append, String.toList_intercalate, List.map_cons,
      List.intercalate_cons_cons]
    rfl

theorem dashes_camelize {name : String} (h : IsDashed name) :
    dashes (camelize name).toList = name.toList := by
  obtain ⟨first, words, hname, hfirst, hwords⟩ := h.exists_words
  rw [camelize, String.toList_ofList, hname, dashes_camelizeChars hfirst hwords]

end Names

/-! ### Any text -/

section Texts

/-- **Nothing but the dash has a capital form with a dash.** -/
theorem dash_mem_upper {c : Char} (h : '-' ∈ upper c) : c = '-' := by
  have special : ∀ e ∈ upperSpecial, ∀ n ∈ e.2, Char.ofNat n ≠ '-' := by decide
  -- the runs begin behind the dash and lead to places behind it
  have run : ∀ r ∈ upperRuns, 45 < (r.first : Int) + r.shift := by decide +kernel
  have hmapping := mapping_upper c
  generalize upper c = image at h hmapping
  cases hmapping with
  | special entry =>
    obtain ⟨n, hn, hdash⟩ := List.mem_map.mp h
    exact absurd hdash (special _ entry n hn)
  | @run r entry holds =>
    have hfirst := (r.mem_of_holds holds).1
    have hbehind := run r entry
    have hdash : 45 = (Char.ofNat (c.toNat + r.shift).toNat).toNat :=
      congrArg Char.toNat (List.mem_singleton.mp h)
    rcases toNat_ofNat (c.toNat + r.shift).toNat with hn | hn
    · omega
    · omega
  | same => exact (List.mem_singleton.mp h).symm

theorem dash_notMem_capitalize {word : List Char} (h : '-' ∉ word) : '-' ∉ capitalize word := by
  rcases word with - | ⟨c, rest⟩
  · exact List.not_mem_nil
  · rw [List.mem_cons, not_or] at h
    rw [capitalize, List.mem_append, not_or]
    exact ⟨fun hmem => h.1 (dash_mem_upper hmem).symm, h.2⟩

/-- **No dash is left.** -/
theorem dash_notMem_camelizeChars (cs : List Char) : '-' ∉ camelizeChars cs := by
  have hpieces : ∀ p ∈ pieces '-' cs, '-' ∉ p := fun p hp => notMem_of_mem_pieces hp
  rw [camelizeChars]
  rcases h : pieces '-' cs with - | ⟨first, words⟩
  · exact List.not_mem_nil
  rw [h] at hpieces
  obtain ⟨hfirst, hwords⟩ := List.forall_mem_cons.mp hpieces
  rw [List.mem_append, List.mem_flatMap, not_or]
  refine ⟨hfirst, ?_⟩
  rintro ⟨word, hword, hmem⟩
  exact dash_notMem_capitalize (hwords word hword) hmem

/-- A text without dashes is one word, which stays as it is. -/
theorem camelizeChars_of_dash_notMem {cs : List Char} (h : '-' ∉ cs) : camelizeChars cs = cs := by
  rw [camelizeChars, pieces_of_notMem h]
  exact List.append_nil cs

end Texts

/-- **A dashed name can be read off the joined one**, so two dashed names never become one.  Of any
text whatever, joining leaves no dash, and nothing to join a second time. -/
theorem camelize_loses_nothing :
    (∀ name, IsDashed name → String.ofList (dashes (camelize name).toList) = name) ∧
      (∀ name name', IsDashed name → IsDashed name' → camelize name = camelize name' →
        name = name') ∧
      ∀ text, '-' ∉ (camelize text).toList ∧ camelize (camelize text) = camelize text := by
  have hback : ∀ name, IsDashed name → String.ofList (dashes (camelize name).toList) = name := by
    intro name h
    rw [dashes_camelize h, String.ofList_toList]
  refine ⟨hback, ?_, ?_⟩
  · intro name name' h h' heq
    rw [← hback name h, heq, hback name' h']
  · intro text
    have hnone : '-' ∉ (camelize text).toList := by
      rw [camelize, String.toList_ofList]
      exact dash_notMem_camelizeChars text.toList
    refine ⟨hnone, ?_⟩
    rw [camelize, camelizeChars_of_dash_notMem hnone, String.ofList_toList]

/-- A property of a vendor and one of everybody. -/
theorem camelize_loses_nothing_vendor :
    IsDashed "-webkit-box-flex" ∧ IsDashed "webkit-box-flex" ∧
      camelize "-webkit-box-flex" ≠ camelize "webkit-box-flex" ∧
      String.ofList (dashes (camelize "-webkit-box-flex").toList) = "-webkit-box-flex" := by
  have hwords : ∀ w ∈ ["webkit", "box", "flex"], IsWord w.toList := by
    simp only [List.forall_mem_cons]
    exact ⟨.intro (by decide) (List.all_iff_forall_prop.mp (by decide)),
      .intro (by decide) (List.all_iff_forall_prop.mp (by decide)),
      .intro (by decide) (List.all_iff_forall_prop.mp (by decide)), nofun⟩
  have hvendor : IsDashed "-webkit-box-flex" := .vendor (List.cons_ne_nil _ _) hwords
  have hplain : IsDashed "webkit-box-flex" := .words (List.cons_ne_nil _ _) hwords
  obtain ⟨hback, hone, -⟩ := camelize_loses_nothing
  refine ⟨hvendor, hplain, fun heq => ?_, hback _ hvendor⟩
  exact absurd (hone _ _ hvendor hplain heq) (by decide)

end Passkey.Widget
