/-
Passkey/Proofs/Config/Overriding.lean

Which override of a setting counts.

Overrides are applied one object after the other, and every object may set any
of the settings.  Each setting has a life of its own: it ends as what the last
object says that says anything of it, and as its default if none does
(`LastWord`).  What an object says is judged setting by setting.  A text counts
unless it is blank, and counts trimmed; a timeout counts if its trimmed text is
a decimal numeral of a number that is positive and fits 32 bits.

    overridden filter os  =  for each setting, the last word of os

So no setting can end blank, with blanks around it, or as a timeout of zero, but
for the log filter: its default may come from the build (`filter`), which nobody
trims, and it stays as the build gives it until an object has a word on it.
-/
import Mathlib.Data.Nat.Digits.Defs
import Passkey.Config
import Passkey.Proofs.Text.Trim

namespace Passkey

/-! ### Decimal numerals -/

namespace Decimal

/-- The text is a decimal numeral of a number: a plus sign, which may be
missing, and digits only, at least one and the first one weighing most. -/
def IsNumeral (text : String) (n : Nat) : Prop :=
  ∃ sign ds, (sign = [] ∨ sign = ['+']) ∧ ds ≠ [] ∧ (∀ d ∈ ds, d < 10) ∧
    text.toList = sign ++ ds.map Nat.digitChar ∧ n = Nat.ofDigits 10 ds.reverse

theorem digit?_digitChar {d : Nat} (h : d < 10) : digit? d.digitChar = some d := by
  have hall : ∀ d < 10, digit? d.digitChar = some d := by decide
  exact hall d h

theorem digit?_eq_some_iff {c : Char} {d : Nat} :
    digit? c = some d ↔ d < 10 ∧ c = d.digitChar := by
  constructor
  · intro h
    rw [digit?] at h
    split at h
    · next hc =>
      have hlo : 48 ≤ c.toNat := hc.1
      have hhi : c.toNat ≤ 57 := hc.2
      obtain rfl : c.toNat - 48 = d := Option.some.inj h
      have hall : ∀ n < 10, n.digitChar = Char.ofNat (48 + n) := by decide
      refine ⟨by omega, ?_⟩
      rw [hall _ (by omega), Nat.add_sub_cancel' hlo, Char.ofNat_toNat]
    · cases h
  · rintro ⟨h, rfl⟩
    exact digit?_digitChar h

/-- Digits are read one behind the other, each weighing ten times the next. -/
theorem digitsFrom_eq_some_iff {cs : List Char} {k n : Nat} :
    digitsFrom k cs = some n ↔
      ∃ ds : List Nat, (∀ d ∈ ds, d < 10) ∧ cs = ds.map Nat.digitChar ∧
        n = ds.foldl (fun n d => 10 * n + d) k := by
  induction cs generalizing k with
  | nil =>
    constructor
    · intro h
      exact ⟨[], by simp, rfl, (Option.some.inj h).symm⟩
    · rintro ⟨ds, -, hds, rfl⟩
      obtain rfl := List.map_eq_nil_iff.mp hds.symm
      rfl
  | cons c cs ih =>
    simp only [digitsFrom, Option.bind_eq_some_iff, digit?_eq_some_iff, ih]
    constructor
    · rintro ⟨d, ⟨hd, rfl⟩, ds, hds, rfl, rfl⟩
      exact ⟨d :: ds, by simpa using ⟨hd, hds⟩, rfl, rfl⟩
    · rintro ⟨ds, hds, hcs, rfl⟩
      rcases ds with - | ⟨d, ds⟩
      · cases hcs
      · rw [List.map_cons, List.cons.injEq] at hcs
        rw [List.forall_mem_cons] at hds
        exact ⟨d, ⟨hds.1, hcs.1⟩, ds, hds.2, hcs.2, rfl⟩

theorem digits?_eq_some_iff {cs : List Char} {n : Nat} :
    digits? cs = some n ↔
      ∃ ds : List Nat, ds ≠ [] ∧ (∀ d ∈ ds, d < 10) ∧ cs = ds.map Nat.digitChar ∧
        n = Nat.ofDigits 10 ds.reverse := by
  have hvalue (ds : List Nat) :
      Nat.ofDigits 10 ds.reverse = ds.foldl (fun n d => 10 * n + d) 0 := by
    rw [Nat.ofDigits_eq_foldr, List.foldr_reverse]
    simp [Nat.add_comm]
  rcases cs with - | ⟨c, cs⟩
  · constructor
    · nofun
    · rintro ⟨ds, hne, -, hds, -⟩
      exact absurd (List.map_eq_nil_iff.mp hds.symm) hne
  · rw [digits?, digitsFrom_eq_some_iff]
    · simp only [hvalue]
      constructor
      · rintro ⟨ds, hds, hcs, hn⟩
        refine ⟨ds, ?_, hds, hcs, hn⟩
        rintro rfl
        cases hcs
      · rintro ⟨ds, -, hds, hcs, hn⟩
        exact ⟨ds, hds, hcs, hn⟩
    · simp

/-- **A numeral is read as its number**, and nothing else is read. -/
theorem numeral?_eq_some_iff {text : String} {n : Nat} :
    numeral? text = some n ↔ IsNumeral text n := by
  have plus_ne {d : Nat} (h : d < 10) : d.digitChar ≠ '+' := by
    have hall : ∀ d < 10, d.digitChar ≠ '+' := by decide
    exact hall d h
  rw [numeral?]
  split
  · next rest htext =>
    rw [digits?_eq_some_iff]
    constructor
    · rintro ⟨ds, hne, hds, rfl, hn⟩
      exact ⟨['+'], ds, .inr rfl, hne, hds, htext, hn⟩
    · rintro ⟨sign, ds, rfl | rfl, hne, hds, hcs, hn⟩
      · -- a digit is no plus sign
        rcases ds with - | ⟨d, ds⟩
        · exact absurd rfl hne
        · rw [htext, List.nil_append, List.map_cons, List.cons.injEq] at hcs
          exact absurd hcs.1.symm (plus_ne (hds d List.mem_cons_self))
      · rw [htext, List.singleton_append, List.cons.injEq] at hcs
        exact ⟨ds, hne, hds, hcs.2, hn⟩
  · next hplus =>
    rw [digits?_eq_some_iff]
    constructor
    · rintro ⟨ds, hne, hds, hcs, hn⟩
      exact ⟨[], ds, .inl rfl, hne, hds, hcs, hn⟩
    · rintro ⟨sign, ds, rfl | rfl, hne, hds, hcs, hn⟩
      · exact ⟨ds, hne, hds, hcs, hn⟩
      · exact absurd hcs (hplus _)

end Decimal

/-! ### The last word -/

section LastWord

variable {α β : Type}

/-- What becomes of something that objects may set, one after the other: it is
what the last object says that says anything, or the default if none does. -/
inductive LastWord (gives : α → β → Prop) (default : β) (os : List α) (b : β) : Prop
  /-- The last object that says anything says this, and the later ones are silent. -/
  | said {before later : List α} {o : α} (objects : os = before ++ o :: later) (word : gives o b)
      (silent : ∀ o' ∈ later, ∀ b', ¬ gives o' b')
  /-- All objects are silent. -/
  | unsaid (silent : ∀ o ∈ os, ∀ b', ¬ gives o b') (default_eq : b = default)

/-- **Setting one after the other leaves the last word.** -/
theorem lastWord_foldl {gives : α → β → Prop} {given : α → Option β}
    (h : ∀ o b, given o = some b ↔ gives o b) (default : β) (os : List α) :
    LastWord gives default os (os.foldl (fun b o => (given o).getD b) default) := by
  induction os using List.reverseRecOn with
  | nil => exact .unsaid (by simp) rfl
  | append_singleton os o ih =>
    rw [List.foldl_append, List.foldl_cons, List.foldl_nil]
    rcases hset : given o with - | b
    · -- the new object is silent, and the word before it stays the last one
      have hsilent : ∀ b, ¬ gives o b := by
        intro b hb
        rw [(h o b).mpr hb] at hset
        cases hset
      cases ih with
      | said objects word silent =>
        refine .said (by rw [objects, List.append_assoc, List.cons_append]) word ?_
        simpa [or_imp, forall_and] using ⟨silent, hsilent⟩
      | unsaid silent default_eq =>
        refine .unsaid ?_ default_eq
        simpa [or_imp, forall_and] using ⟨silent, hsilent⟩
    · exact .said rfl ((h o b).mp hset) (by simp)

/-- What holds of the default and of every word holds of the last one. -/
theorem LastWord.keeps {gives : α → β → Prop} {default b : β} {os : List α} {P : β → Prop}
    (h : LastWord gives default os b) (hdefault : P default)
    (hgives : ∀ o b, gives o b → P b) : P b := by
  cases h with
  | said objects word silent => exact hgives _ b word
  | unsaid silent default_eq => exact default_eq ▸ hdefault

end LastWord

/-! ### Overrides -/

open Text

/-- An object says something of a text setting if it sets it to a text that is
not blank: what is left when that is trimmed. -/
def Overrides.GivesText (s : TextSetting) (o : Overrides) (value : String) : Prop :=
  ∃ t, o.text s = some t ∧ ¬ AllBlank t.toList ∧ value = trim t

/-- An object says something of the timeout if it sets it to a text that is,
trimmed, a decimal numeral of a positive number of 32 bits. -/
def Overrides.GivesTimeout (o : Overrides) (value : Nat) : Prop :=
  ∃ t, o.requestTimeout = some t ∧ Decimal.IsNumeral (trim t) value ∧
    1 ≤ value ∧ value ≤ 4294967295

namespace Config

/-- The settings when overrides were applied in turn, each of them normalized first, in a build with
a log filter or without one. -/
def overridden (filter : Option String) (os : List Overrides) : Config :=
  os.foldl (fun c o => c.override o.normalized) (builtIn filter)

variable {o : Overrides} {s : TextSetting}

theorem timeout?_eq_some_iff {text : String} {n : Nat} :
    timeout? text = some n ↔ Decimal.IsNumeral text n ∧ 1 ≤ n ∧ n ≤ 4294967295 := by
  simp only [timeout?, Decimal.numeralUpTo?, maxTimeout, Option.filter_eq_some_iff,
    Decimal.numeral?_eq_some_iff]
  constructor
  · rintro ⟨⟨h, hle⟩, hpos⟩
    exact ⟨h, of_decide_eq_true hpos, of_decide_eq_true hle⟩
  · rintro ⟨h, hpos, hle⟩
    exact ⟨⟨h, decide_eq_true hle⟩, decide_eq_true hpos⟩

theorem givesText_iff {value : String} :
    o.normalized.text s = some value ↔ o.GivesText s value := by
  simp only [Overrides.normalized, Option.bind_eq_some_iff, nonBlank?_eq_some_iff,
    Overrides.GivesText, ne_eq, trim_eq_empty_iff]
  tauto

/-- A blank text is no numeral, so it does not matter that it is dropped first. -/
theorem givesTimeout_iff {value : Nat} :
    o.normalized.requestTimeout.bind timeout? = some value ↔ o.GivesTimeout value := by
  simp only [Overrides.normalized, Option.bind_eq_some_iff, nonBlank?_eq_some_iff,
    timeout?_eq_some_iff, Overrides.GivesTimeout]
  constructor
  · rintro ⟨-, ⟨t, ht, rfl, -⟩, hvalue⟩
    exact ⟨t, ht, hvalue⟩
  · rintro ⟨t, ht, hvalue⟩
    refine ⟨trim t, ⟨t, ht, rfl, ?_⟩, hvalue⟩
    intro hblank
    obtain ⟨⟨sign, ds, -, hne, -, hcs, -⟩, -⟩ := hvalue
    rw [hblank] at hcs
    have hnil := List.append_eq_nil_iff.mp hcs.symm
    exact hne (List.map_eq_nil_iff.mp hnil.2)

theorem text_foldl (c : Config) (os : List Overrides) (s : TextSetting) :
    (os.foldl (fun c o => c.override o.normalized) c).text s
      = os.foldl (fun v o => (o.normalized.text s).getD v) (c.text s) := by
  induction os generalizing c with
  | nil => rfl
  | cons o os ih => exact ih _

theorem requestTimeout_foldl (c : Config) (os : List Overrides) :
    (os.foldl (fun c o => c.override o.normalized) c).requestTimeout
      = os.foldl (fun v o => (o.normalized.requestTimeout.bind timeout?).getD v)
          c.requestTimeout := by
  induction os generalizing c with
  | nil => rfl
  | cons o os ih => exact ih _

/-- **A text setting ends as the last word of the overrides.** -/
theorem text_overridden (filter : Option String) (os : List Overrides) (s : TextSetting) :
    LastWord (Overrides.GivesText s) (s.builtIn filter) os ((overridden filter os).text s) := by
  rw [overridden, text_foldl]
  apply lastWord_foldl
  intro o value
  exact givesText_iff

/-- **The timeout ends as the last word of the overrides.** -/
theorem requestTimeout_overridden (filter : Option String) (os : List Overrides) :
    LastWord Overrides.GivesTimeout 10000 os (overridden filter os).requestTimeout := by
  rw [overridden, requestTimeout_foldl]
  apply lastWord_foldl
  intro o value
  exact givesTimeout_iff

/-- A setting is not blank and has no blanks at its ends. -/
def IsTidy (value : String) : Prop :=
  ¬ AllBlank value.toList ∧ trim value = value

instance (value : String) : Decidable (IsTidy value) :=
  decidable_of_iff (trim value ≠ "" ∧ trim value = value)
    (and_congr_left' (not_congr trim_eq_empty_iff))

theorem isTidy_of_givesText {value : String} (h : o.GivesText s value) : IsTidy value := by
  obtain ⟨t, -, hblank, rfl⟩ := h
  rw [IsTidy, ← trim_eq_empty_iff, trim_trim, trim_eq_empty_iff]
  exact ⟨hblank, rfl⟩

/-- Every default is tidy but that of the log filter, which is as tidy as the build makes it. -/
theorem isTidy_builtIn_iff (filter : Option String) (s : TextSetting) :
    IsTidy (s.builtIn filter) ↔ (s = .logFilter → ∀ f ∈ filter, IsTidy f) := by
  cases s
  case logFilter =>
    cases filter with
    | none => exact iff_of_true (by decide) fun _ => nofun
    | some f => simp [TextSetting.builtIn]
  all_goals
    rw [TextSetting.builtIn]
    exact iff_of_true (by decide) nofun

/-- **Each text setting ends tidy**, unless it is the log filter, the build gives an untidy one, and
no object has a word on it. -/
theorem isTidy_overridden_iff (filter : Option String) (os : List Overrides) (s : TextSetting) :
    IsTidy ((overridden filter os).text s) ↔
      (∃ o ∈ os, ∃ value, o.GivesText s value) ∨ (s = .logFilter → ∀ f ∈ filter, IsTidy f) := by
  rw [← isTidy_builtIn_iff]
  cases text_overridden filter os s with
  | @said before later o objects word silent =>
    have hmem : o ∈ os := by simp [objects]
    exact iff_of_true (isTidy_of_givesText word) (.inl ⟨o, hmem, _, word⟩)
  | unsaid silent default_eq =>
    rw [default_eq]
    refine (or_iff_right ?_).symm
    rintro ⟨o, ho, value, word⟩
    exact silent o ho value word

/-- A page that sets the register button and the timeout, and sets them again
to a blank text and to a number that is too large. -/
def hesitant (elsewhere : Option String) : List Overrides :=
  [⟨fun s => if s = .registerButton then some " join\n" else none, some "+0250"⟩,
    ⟨fun s => if s = .registerButton then some "\t" else elsewhere, some "4294967296"⟩]

example : (overridden none (hesitant none)).text .registerButton = "join" ∧
    (overridden none (hesitant none)).requestTimeout = 250 := by
  decide

end Config

end Passkey
