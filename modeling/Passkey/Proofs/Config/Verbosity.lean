/-
Passkey/Proofs/Config/Verbosity.lean

The level that a log filter stands for.

A filter is a list of directives with commas between them.  What counts of a
directive is the text behind its last equals sign, and only if that names a
level: by its word, in letters of either case, or by its rank.

    "warn, page=DEBUG ,net=+03,loud"    names    warn, debug, debug

The filter stands for the most verbose of the levels that its directives name,
and for `warn` if they name none (`IsMostVerbose`).  That is a property of the
set of these levels, so neither the order of the directives nor a repetition
nor a directive that names nothing makes a difference.
-/
import Mathlib.Data.Bool.AllAny
import Passkey.Proofs.Config.Overriding
import Passkey.Proofs.Text.Case
import Passkey.Proofs.Text.Split

namespace Passkey

open Text

namespace Level

/-! ### The most verbose level -/

theorem ofRank?_eq_some_iff {n : Nat} {l : Level} : ofRank? n = some l ↔ n = l.rank := by
  constructor
  · intro h
    have hranks : ∀ n < 5, (ofRank? n).map rank = some n := by decide
    obtain ⟨hlt, -⟩ := List.getElem?_eq_some_iff.mp h
    have hrank := hranks n hlt
    rw [h] at hrank
    exact (Option.some.inj hrank).symm
  · rintro rfl
    cases l <;> rfl

theorem rank_injective {a b : Level} (h : a.rank = b.rank) : a = b := by
  have ha := ofRank?_eq_some_iff.mpr (rfl : a.rank = a.rank)
  rw [h, ofRank?_eq_some_iff.mpr rfl] at ha
  exact (Option.some.inj ha).symm

/-- A level is the most verbose of those that are named, or `warn` if none is. -/
inductive IsMostVerbose (named : Level → Prop) : Level → Prop
  | most {l : Level} (isNamed : named l) (bound : ∀ l', named l' → l'.rank ≤ l.rank) :
    IsMostVerbose named l
  | unnamed (silent : ∀ l, ¬ named l) : IsMostVerbose named .warn

section IsMostVerbose

variable {named named' : Level → Prop} {a b : Level}

theorem IsMostVerbose.unique (ha : IsMostVerbose named a) (hb : IsMostVerbose named b) :
    a = b := by
  cases ha with
  | most isNamed bound =>
    cases hb with
    | most isNamed' bound' =>
      exact rank_injective (Nat.le_antisymm (bound' a isNamed) (bound b isNamed'))
    | unnamed silent => exact absurd isNamed (silent a)
  | unnamed silent =>
    cases hb with
    | most isNamed' bound' => exact absurd isNamed' (silent b)
    | unnamed => rfl

theorem IsMostVerbose.congr (h : ∀ l, named l ↔ named' l) (ha : IsMostVerbose named a) :
    IsMostVerbose named' a := by
  obtain rfl : named = named' := funext fun l => propext (h l)
  exact ha

/-- Naming more levels never lowers the most verbose one, once there is one. -/
theorem IsMostVerbose.rank_le (ha : IsMostVerbose named a) (hb : IsMostVerbose named' b)
    (hsome : ∃ l, named l) (hmono : ∀ l, named l → named' l) : a.rank ≤ b.rank := by
  cases ha with
  | most isNamed =>
    cases hb with
    | most _ bound => exact bound a (hmono a isNamed)
    | unnamed silent => exact absurd (hmono a isNamed) (silent a)
  | unnamed silent =>
    obtain ⟨l, hl⟩ := hsome
    exact absurd hl (silent l)

end IsMostVerbose

theorem max_eq_or (a b : Level) : a.max b = a ∨ a.max b = b := by
  rw [max]
  split
  · exact .inr rfl
  · exact .inl rfl

theorem rank_max (a b : Level) : a.rank ≤ (a.max b).rank ∧ b.rank ≤ (a.max b).rank := by
  rw [max]
  split
  · exact ⟨‹_›, Nat.le_refl _⟩
  · exact ⟨Nat.le_refl _, by omega⟩

/-- The better of the levels so far and the next one. -/
theorem exists_foldl_max (ls : List Level) (a : Level) :
    ∃ m, ls.foldl (fun best l => some (best.elim l (·.max l))) (some a) = some m ∧
      m ∈ a :: ls ∧ ∀ l ∈ a :: ls, l.rank ≤ m.rank := by
  induction ls generalizing a with
  | nil => exact ⟨a, rfl, by simp, by simp⟩
  | cons b ls ih =>
    obtain ⟨m, hfold, hmem, hbound⟩ := ih (a.max b)
    have hleft := (rank_max a b).1
    have hright := (rank_max a b).2
    have hbest := hbound _ List.mem_cons_self
    refine ⟨m, hfold, ?_, ?_⟩
    · rcases List.mem_cons.mp hmem with rfl | hmem
      · rcases max_eq_or a b with h | h
        · simp [h]
        · simp [h]
      · simp [hmem]
    · intro l hl
      simp only [List.mem_cons] at hl
      rcases hl with rfl | rfl | hl
      · omega
      · omega
      · exact hbound l (List.mem_cons_of_mem _ hl)

/-- **The fold over levels finds the most verbose one.** -/
theorem isMostVerbose_foldl (ls : List Level) :
    IsMostVerbose (· ∈ ls)
      ((ls.foldl (fun best l => some (best.elim l (·.max l))) none).getD .warn) := by
  rcases ls with - | ⟨a, ls⟩
  · exact .unnamed (by simp)
  · obtain ⟨m, hfold, hmem, hbound⟩ := exists_foldl_max ls a
    rw [List.foldl_cons, Option.elim_none, hfold]
    exact .most hmem hbound

/-! ### Names of levels -/

/-- A text names a level: by its word in letters of either case, or by its rank. -/
inductive Named (text : String) (l : Level) : Prop
  | word (spelled : sameAscii text l.name = true)
  | number (counted : Decimal.IsNumeral text l.rank)

theorem isOwnSmall_name (l : Level) : ∀ c ∈ l.name.toList, IsOwnSmall c := by
  cases l <;> exact List.all_iff_forall_prop.mp (by decide)

theorem map_asciiLower_name (l : Level) : l.name.toList.map asciiLower = l.name.toList := by
  cases l <;> rfl

theorem sameAscii_name_iff {text : String} {l : Level} :
    sameAscii text l.name = true ↔ lowerText text = l.name := by
  rw [lowerText_eq_iff l.isOwnSmall_name, sameAscii, beq_iff_eq, map_asciiLower_name]

/-- The word of a level has letters only, and a numeral has a digit. -/
theorem not_spelled_of_isNumeral {text : String} {n : Nat} (h : Decimal.IsNumeral text n)
    (l : Level) : ¬ sameAscii text l.name = true := by
  obtain ⟨sign, ds, -, hne, hds, htext, -⟩ := h
  obtain ⟨d, hd⟩ := List.exists_mem_of_ne_nil ds hne
  have hdigit : ∀ d < 10, ¬ IsOwnSmall (asciiLower d.digitChar) := by decide
  rw [sameAscii, beq_iff_eq, map_asciiLower_name]
  intro heq
  refine hdigit d (hds d hd) (l.isOwnSmall_name _ ?_)
  rw [← heq]
  refine List.mem_map_of_mem ?_
  rw [htext]
  exact List.mem_append_right _ (List.mem_map_of_mem hd)

theorem find?_name_eq_some_iff {word : String} {l : Level} :
    (all.find? fun l => l.name == word) = some l ↔ word = l.name := by
  constructor
  · intro h
    exact (beq_iff_eq.mp (List.find?_some (p := fun l : Level => l.name == word) h)).symm
  · rintro rfl
    cases l <;> rfl

/-- **A text is read as the level that it names, trimmed**, and no other text is read. -/
theorem read?_eq_some_iff {text : String} {l : Level} :
    read? text = some l ↔ Named (trim text) l := by
  rw [read?]
  rcases hnumeral : Decimal.numeralUpTo? 255 (trim text) with - | n
  · -- a numeral that is too large names nothing, and nothing else is a word and a numeral
    simp only [find?_name_eq_some_iff, ← sameAscii_name_iff]
    constructor
    · exact .word
    · rintro (spelled | counted)
      · exact spelled
      · have hsmall : l.rank ≤ 255 := by cases l <;> decide
        rw [Decimal.numeralUpTo?, Decimal.numeral?_eq_some_iff.mpr counted,
          Option.filter_some_pos (by simpa using hsmall)] at hnumeral
        cases hnumeral
  · simp only [ofRank?_eq_some_iff]
    have hn : Decimal.IsNumeral (trim text) n :=
      Decimal.numeral?_eq_some_iff.mp (Option.filter_eq_some_iff.mp hnumeral).1
    constructor
    · rintro rfl
      exact .number hn
    · rintro (spelled | counted)
      · exact absurd spelled (not_spelled_of_isNumeral hn l)
      · rw [← Decimal.numeral?_eq_some_iff] at hn counted
        exact Option.some.inj (hn.symm.trans counted)

end Level

namespace Config

/-! ### Filters -/

/-- A directive names a level: what stands behind its last equals sign does, when trimmed. -/
def DirectiveNames (directive : String) (l : Level) : Prop :=
  ∃ text : String, BehindLast '=' directive.toList text.toList ∧ Level.Named (trim text) l

theorem directiveLevel?_eq_some_iff {directive : String} {l : Level} :
    directiveLevel? directive.toList = some l ↔ DirectiveNames directive l := by
  rw [directiveLevel?, Level.read?_eq_some_iff]
  constructor
  · intro h
    exact ⟨_, by rw [String.toList_ofList]; exact behindLast_afterLast _ _, h⟩
  · rintro ⟨text, hbehind, h⟩
    rw [hbehind.afterLast_eq, String.ofList_toList]
    exact h

variable {ds : List String}

/-- Joined directives are read one by one. -/
theorem mem_filterMap_directives_iff (h : ∀ d ∈ ds, ',' ∉ d.toList) {l : Level} :
    l ∈ (directives (",".intercalate ds)).filterMap directiveLevel?
      ↔ ∃ d ∈ ds, DirectiveNames d l := by
  rcases List.eq_nil_or_concat ds with rfl | ⟨init, last, hds⟩
  · have hsilent : (directives (",".intercalate [])).filterMap directiveLevel? = [] := by decide
    rw [hsilent]
    simp
  rw [directives, pieces_toList_intercalate rfl h (by simp [hds])]
  simp [directiveLevel?_eq_some_iff]

theorem isMostVerbose_filterLevel (h : ∀ d ∈ ds, ',' ∉ d.toList) :
    Level.IsMostVerbose (fun l => ∃ d ∈ ds, DirectiveNames d l)
      (filterLevel (",".intercalate ds)) :=
  (Level.isMostVerbose_foldl _).congr fun _ => mem_filterMap_directives_iff h

/-- The settings with a filter made of directives. -/
def withDirectives (c : Config) (ds : List String) : Config :=
  { c with text := fun s => if s = .logFilter then ",".intercalate ds else c.text s }

theorem isMostVerbose_logLevel (c : Config) (h : ∀ d ∈ ds, ',' ∉ d.toList) :
    Level.IsMostVerbose (fun l => ∃ d ∈ ds, DirectiveNames d l) (c.withDirectives ds).logLevel :=
  isMostVerbose_filterLevel h

/-- **The log level is the most verbose level that a directive names**, or `warn` if none
names any.  So it depends on the set of directives only, a directive that names nothing can
stand anywhere, and one more directive never makes the level less verbose, once there is
one that names a level. -/
theorem logLevel_most_verbose (c : Config) (ds : List String) (h : ∀ d ∈ ds, ',' ∉ d.toList) :
    Level.IsMostVerbose (fun l => ∃ d ∈ ds, DirectiveNames d l) (c.withDirectives ds).logLevel ∧
      (∀ others, (∀ d, d ∈ others ↔ d ∈ ds) →
        (c.withDirectives others).logLevel = (c.withDirectives ds).logLevel) ∧
      ∀ before after d, ds = before ++ after → ',' ∉ d.toList →
        ((∀ l, ¬ DirectiveNames d l) →
          (c.withDirectives (before ++ d :: after)).logLevel = (c.withDirectives ds).logLevel) ∧
        ((∃ d ∈ ds, ∃ l, DirectiveNames d l) →
          (c.withDirectives ds).logLevel.rank
            ≤ (c.withDirectives (before ++ d :: after)).logLevel.rank) := by
  have hlevel := isMostVerbose_logLevel c h
  refine ⟨hlevel, ?_, ?_⟩
  · intro others hsame
    have hothers : ∀ d ∈ others, ',' ∉ d.toList := fun d hd => h d ((hsame d).mp hd)
    refine (isMostVerbose_logLevel c hothers).unique (hlevel.congr fun l => ?_)
    simp only [hsame]
  · rintro before after d rfl hd
    have hmore : ∀ d' ∈ before ++ d :: after, ',' ∉ d'.toList := by
      simp only [List.mem_append, List.mem_cons] at h ⊢
      rintro d' (hd' | rfl | hd')
      exacts [h d' (.inl hd'), hd, h d' (.inr hd')]
    have hinserted (l : Level) : (∃ d' ∈ before ++ d :: after, DirectiveNames d' l)
        ↔ DirectiveNames d l ∨ ∃ d' ∈ before ++ after, DirectiveNames d' l := by
      simp only [List.mem_append, List.mem_cons]
      grind
    constructor
    · intro hsilent
      refine (isMostVerbose_logLevel c hmore).unique (hlevel.congr fun l => ?_)
      rw [hinserted, or_iff_right (hsilent l)]
    · rintro ⟨d', hd', l, hl⟩
      refine hlevel.rank_le (isMostVerbose_logLevel c hmore) ⟨l, d', hd', hl⟩ fun l hl => ?_
      rw [hinserted]
      exact .inr hl

/-- Directives that name nothing, the level 3 and the level 1. -/
def chatter : List String :=
  ["loud", "page=+03", "net=quiet= Warn "]

theorem logLevel_most_verbose_chatter :
    (∀ d ∈ chatter, ',' ∉ d.toList) ∧
      (default.withDirectives (chatter.reverse ++ chatter)).logLevel
        = (default.withDirectives chatter).logLevel ∧
      (∀ l, ¬ DirectiveNames "5" l) ∧
      (default.withDirectives ("5" :: chatter)).logLevel
        = (default.withDirectives chatter).logLevel ∧
      (∃ d ∈ chatter, ∃ l, DirectiveNames d l) ∧
      (default.withDirectives chatter).logLevel.rank
        ≤ (default.withDirectives (chatter ++ ["TRACE"])).logLevel.rank := by
  have hfree : ∀ d ∈ chatter, ',' ∉ d.toList := by decide
  have hsilent : ∀ l, ¬ DirectiveNames "5" l := by
    intro l
    rw [← directiveLevel?_eq_some_iff]
    cases l <;> decide
  have hsome : ∃ d ∈ chatter, ∃ l, DirectiveNames d l :=
    ⟨"page=+03", by decide, .debug, directiveLevel?_eq_some_iff.mp (by decide)⟩
  obtain ⟨-, hset, hinsert⟩ := logLevel_most_verbose default chatter hfree
  exact ⟨hfree, hset _ (by simp), hsilent, (hinsert [] chatter "5" rfl (by decide)).1 hsilent,
    hsome, (hinsert chatter [] "TRACE" rfl (by decide)).2 hsome⟩

example : (default.withDirectives chatter).logLevel = .debug := by
  decide +kernel

end Config

end Passkey
