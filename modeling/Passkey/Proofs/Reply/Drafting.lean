/-
Passkey/Proofs/Reply/Drafting.lean

What the members of an object make of a reply.

A draft has three parts, and each of them only knows the members of its own name
(`Fills`): the first one is kept if it means something of the right kind, and
there must be no second one.  So the parts do not hear of each other, nor of the
order in which members of different names come, and in the end each part is what
the members say under its name (`Said`).
-/
import Passkey.Proofs.Json.Reading
import Passkey.Reply

namespace Passkey.Reply

open Json Outcome

attribute [ext] Draft

/-! ### The parts of a draft -/

section Parts

variable {α : Type}

/-- The name of a member denotes a text. -/
def Named (m : Entry) (name : String) : Prop :=
  Denotes m.name name.toList

theorem Named.unique {m : Entry} {name name' : String} (h : Named m name) (h' : Named m name') :
    name = name' :=
  String.toList_inj.mp (Denotes.unique h h')

/-- What a member makes of the part of a draft that has a name. -/
def Fills (name : String) (means : List Char → α → Prop) (part : Option α) (m : Entry)
    (part' : Option α) : Prop :=
  (Named m name ∧ part = none ∧ ∃ a, means m.value a ∧ part' = some a)
    ∨ (¬ Named m name ∧ part' = part)

variable {name name' : String} {means : List Char → α → Prop} {m : Entry} {part part' : Option α}

/-- A member of the name of a part finds it empty and fills it. -/
theorem fills_iff_of_named (hm : Named m name) :
    Fills name means part m part' ↔ part = none ∧ ∃ a, means m.value a ∧ part' = some a := by
  constructor
  · rintro (⟨-, h⟩ | ⟨h, -⟩)
    · exact h
    · exact absurd hm h
  · exact fun h => .inl ⟨hm, h⟩

/-- A member of another name leaves a part alone. -/
theorem fills_iff_of_ne (hm : Named m name') (hne : name' ≠ name) :
    Fills name means part m part' ↔ part' = part := by
  have hnot : ¬ Named m name := fun h => hne (hm.unique h)
  constructor
  · rintro (⟨h, -⟩ | ⟨-, h⟩)
    · exact absurd h hnot
    · exact h
  · exact fun h => .inr ⟨hnot, h⟩

end Parts

/-- What a member makes of a draft: each part takes what concerns it.  The name
must denote a text, even if no part has it. -/
structure Draft.Adds (d : Draft) (m : Entry) (d' : Draft) : Prop where
  named : ∃ name, Named m name
  success : Fills "success" IsBool d.success m d'.success
  redirect : Fills "redirect" IsStringOrNull d.redirect m d'.redirect
  error : Fills "error" IsStringOrNull d.error m d'.error

section Adds

variable {d d' : Draft} {m : Entry} {name : String}

theorem adds_success_iff (hm : Named m "success") :
    d.Adds m d'
      ↔ d.success = none ∧ ∃ b, IsBool m.value b ∧ d' = { d with success := some b } := by
  constructor
  · intro h
    obtain ⟨hd, b, hb, hs⟩ := (fills_iff_of_named hm).mp h.success
    have hr := (fills_iff_of_ne hm (by decide)).mp h.redirect
    have he := (fills_iff_of_ne hm (by decide)).mp h.error
    exact ⟨hd, b, hb, Draft.ext hs hr he⟩
  · rintro ⟨hd, b, hb, rfl⟩
    exact ⟨⟨_, hm⟩, (fills_iff_of_named hm).mpr ⟨hd, b, hb, rfl⟩,
      (fills_iff_of_ne hm (by decide)).mpr rfl, (fills_iff_of_ne hm (by decide)).mpr rfl⟩

theorem adds_redirect_iff (hm : Named m "redirect") :
    d.Adds m d'
      ↔ d.redirect = none ∧ ∃ t, IsStringOrNull m.value t ∧
          d' = { d with redirect := some t } := by
  constructor
  · intro h
    have hs := (fills_iff_of_ne hm (by decide)).mp h.success
    obtain ⟨hd, t, ht, hr⟩ := (fills_iff_of_named hm).mp h.redirect
    have he := (fills_iff_of_ne hm (by decide)).mp h.error
    exact ⟨hd, t, ht, Draft.ext hs hr he⟩
  · rintro ⟨hd, t, ht, rfl⟩
    exact ⟨⟨_, hm⟩, (fills_iff_of_ne hm (by decide)).mpr rfl,
      (fills_iff_of_named hm).mpr ⟨hd, t, ht, rfl⟩, (fills_iff_of_ne hm (by decide)).mpr rfl⟩

theorem adds_error_iff (hm : Named m "error") :
    d.Adds m d'
      ↔ d.error = none ∧ ∃ t, IsStringOrNull m.value t ∧ d' = { d with error := some t } := by
  constructor
  · intro h
    have hs := (fills_iff_of_ne hm (by decide)).mp h.success
    have hr := (fills_iff_of_ne hm (by decide)).mp h.redirect
    obtain ⟨hd, t, ht, he⟩ := (fills_iff_of_named hm).mp h.error
    exact ⟨hd, t, ht, Draft.ext hs hr he⟩
  · rintro ⟨hd, t, ht, rfl⟩
    exact ⟨⟨_, hm⟩, (fills_iff_of_ne hm (by decide)).mpr rfl,
      (fills_iff_of_ne hm (by decide)).mpr rfl, (fills_iff_of_named hm).mpr ⟨hd, t, ht, rfl⟩⟩

/-- A member that no part has the name of adds nothing. -/
theorem adds_other_iff (hm : Named m name) (hsuccess : name ≠ "success")
    (hredirect : name ≠ "redirect") (herror : name ≠ "error") : d.Adds m d' ↔ d' = d := by
  constructor
  · intro h
    have hs := (fills_iff_of_ne hm hsuccess).mp h.success
    have hr := (fills_iff_of_ne hm hredirect).mp h.redirect
    have he := (fills_iff_of_ne hm herror).mp h.error
    exact Draft.ext hs hr he
  · rintro rfl
    exact ⟨⟨_, hm⟩, (fills_iff_of_ne hm hsuccess).mpr rfl,
      (fills_iff_of_ne hm hredirect).mpr rfl, (fills_iff_of_ne hm herror).mpr rfl⟩

end Adds

/-! ### Reading a member -/

section Member

variable {d d' : Draft} {cs left rest : List Char} {name : String}

/-- A part is read once: it was missing before. -/
theorem once_eq_ok_iff {α β : Type} {part : Option α} {x : Except Fault β} {b : β} :
    (if part.isSome then duplicate name rest else x) = .ok b ↔ part = none ∧ x = .ok b := by
  have hduplicate : duplicate name rest ≠ .ok b := by
    intro h
    rw [duplicate.eq_def] at h
    split at h
    all_goals cases h
  cases part with
  | none => exact ⟨fun h => ⟨rfl, h⟩, And.right⟩
  | some a => exact ⟨fun h => absurd h hduplicate, nofun⟩

/-- A value was read behind a name, and the draft is what became of it. -/
theorem widened_eq_ok_iff {α : Type} {value : Reader α} {g : α → Draft}
    {hle : left.length ≤ cs.length} {hlt : rest.length < cs.length} :
    (((value left).map fun p => (⟨g p.value, p.rest, p.shorter⟩ : Parsed Draft left)).map
        fun p => p.widen hle) = .ok ⟨d', rest, hlt⟩
      ↔ ∃ a, Reads value left a rest ∧ d' = g a := by
  constructor
  · intro h
    obtain ⟨p, hp, heq⟩ := map_eq_ok_iff.mp h
    obtain ⟨q, hq, rfl⟩ := map_eq_ok_iff.mp hp
    cases heq
    exact ⟨q.value, ⟨q.shorter, hq⟩, rfl⟩
  · rintro ⟨a, ⟨hlt', h⟩, rfl⟩
    rw [h]
    rfl

/-- How the value of a member with a name is read. -/
inductive Draft.Reading (d : Draft) (left rest : List Char) : String → Draft → Prop
  | success {b : Bool} (hd : d.success = none) (h : Reads (readMemberValue readBool) left b rest) :
      d.Reading left rest "success" { d with success := some b }
  | redirect {s : Option String} (hd : d.redirect = none)
      (h : Reads (readMemberValue (readNullable readText)) left s rest) :
      d.Reading left rest "redirect" { d with redirect := some s }
  | error {s : Option String} (hd : d.error = none)
      (h : Reads (readMemberValue (readNullable readText)) left s rest) :
      d.Reading left rest "error" { d with error := some s }
  | other {name : String} (hsuccess : name ≠ "success") (hredirect : name ≠ "redirect")
      (herror : name ≠ "error") (h : Reads (readMemberValue skipValue) left () rest) :
      d.Reading left rest name d

theorem reads_readMember_iff :
    Reads (readMember d) cs d' rest
      ↔ ∃ name left, Reads readString cs name left ∧ d.Reading left rest name d' := by
  constructor
  · rintro ⟨hlt, h⟩
    rw [readMember] at h
    rcases hname : readString cs with f | name
    · simp only [hname] at h
      cases h
    simp only [hname] at h
    refine ⟨name.value, name.rest, ⟨name.shorter, hname⟩, ?_⟩
    split at h
    next hs =>
      obtain ⟨hd, h⟩ := once_eq_ok_iff.mp h
      obtain ⟨b, hb, rfl⟩ :=
        (widened_eq_ok_iff (g := fun b => { d with success := some b })).mp h
      rw [hs]
      exact .success hd hb
    next hs =>
      split at h
      next hr =>
        obtain ⟨hd, h⟩ := once_eq_ok_iff.mp h
        obtain ⟨t, ht, rfl⟩ :=
          (widened_eq_ok_iff (g := fun t => { d with redirect := some t })).mp h
        rw [hr]
        exact .redirect hd ht
      next hr =>
        split at h
        next he =>
          obtain ⟨hd, h⟩ := once_eq_ok_iff.mp h
          obtain ⟨t, ht, rfl⟩ :=
            (widened_eq_ok_iff (g := fun t => { d with error := some t })).mp h
          rw [he]
          exact .error hd ht
        next he =>
          obtain ⟨_, hv, rfl⟩ := (widened_eq_ok_iff (g := fun _ => d)).mp h
          exact .other hs hr he hv
  · rintro ⟨name, left, ⟨hlt, hname⟩, hreading⟩
    -- whatever the name is, its value ends behind it
    have hlt' : rest.length < left.length := by
      cases hreading with
      | success _ h => exact h.1
      | redirect _ h => exact h.1
      | error _ h => exact h.1
      | other _ _ _ h => exact h.1
    refine ⟨Nat.lt_trans hlt' hlt, ?_⟩
    simp only [readMember, hname]
    cases hreading with
    | success hd h =>
      refine once_eq_ok_iff.mpr ⟨hd, ?_⟩
      exact (widened_eq_ok_iff (g := fun b => { d with success := some b })).mpr ⟨_, h, rfl⟩
    | redirect hd h =>
      refine once_eq_ok_iff.mpr ⟨hd, ?_⟩
      exact (widened_eq_ok_iff (g := fun t => { d with redirect := some t })).mpr ⟨_, h, rfl⟩
    | error hd h =>
      refine once_eq_ok_iff.mpr ⟨hd, ?_⟩
      exact (widened_eq_ok_iff (g := fun t => { d with error := some t })).mpr ⟨_, h, rfl⟩
    | other hs hr he h =>
      rw [if_neg hs, if_neg hr, if_neg he]
      exact (widened_eq_ok_iff (g := fun _ => d)).mpr ⟨_, h, rfl⟩

variable {α : Type} {value : Reader α} {means : List Char → α → Prop} {a : α}

/-- A name and a value that were read stand in the text of a member. -/
theorem exists_member (ht : Takes value means) (hname : Reads readString cs name left)
    (h : Reads (readMemberValue value) left a rest) :
    ∃ m ws front, Named m name ∧ AllSpace ws ∧ AllSpace front ∧ IsValue m.value ∧
      means m.value a ∧ cs = m.name ++ '"' :: (ws ++ ':' :: (front ++ (m.value ++ rest))) := by
  obtain ⟨raw, hraw, rfl⟩ := reads_readString_iff.mp hname
  obtain ⟨ws, left', hws, rfl, hread⟩ := reads_readMemberValue_iff.mp h
  obtain ⟨front, v, hfront, hv, ha, rfl⟩ := ht.value hread
  exact ⟨⟨raw, v⟩, ws, front, hraw, hws, hfront, hv, ha, rfl⟩

/-- The name and the value of a member are read, where a value may end. -/
theorem reads_member {m : Entry} {ws front : List Char} (ht : Takes value means)
    (hm : Named m name) (hws : AllSpace ws) (hfront : AllSpace front) (hvalue : IsValue m.value)
    (hrest : Stops rest) (ha : means m.value a) :
    ∃ left,
      Reads readString (m.name ++ '"' :: (ws ++ ':' :: (front ++ (m.value ++ rest)))) name left ∧
      Reads (readMemberValue value) left a rest := by
  refine ⟨_, reads_readString_iff.mpr ⟨m.name, hm, rfl⟩, ?_⟩
  exact reads_readMemberValue_iff.mpr ⟨ws, _, hws, rfl, ht.reads hfront hvalue hrest ha⟩

/-- **A member adds to a draft what concerns its parts.** -/
theorem gathers_readMember : Gathers readMember Draft.Adds where
  entry h := by
    obtain ⟨name, left, hname, hreading⟩ := reads_readMember_iff.mp h
    cases hreading with
    | success hd hb =>
      obtain ⟨m, ws, front, hm, hws, hfront, hvalue, ha, hcs⟩ :=
        exists_member takes_readBool hname hb
      have hadds := (adds_success_iff hm).mpr ⟨hd, _, ha, rfl⟩
      exact ⟨m, ws, front, hm.isBody, hws, hfront, hvalue, hadds, hcs⟩
    | redirect hd hs =>
      obtain ⟨m, ws, front, hm, hws, hfront, hvalue, ha, hcs⟩ :=
        exists_member takes_readNullable hname hs
      have hadds := (adds_redirect_iff hm).mpr ⟨hd, _, ha, rfl⟩
      exact ⟨m, ws, front, hm.isBody, hws, hfront, hvalue, hadds, hcs⟩
    | error hd hs =>
      obtain ⟨m, ws, front, hm, hws, hfront, hvalue, ha, hcs⟩ :=
        exists_member takes_readNullable hname hs
      have hadds := (adds_error_iff hm).mpr ⟨hd, _, ha, rfl⟩
      exact ⟨m, ws, front, hm.isBody, hws, hfront, hvalue, hadds, hcs⟩
    | other hs hr he hv =>
      obtain ⟨m, ws, front, hm, hws, hfront, hvalue, -, hcs⟩ :=
        exists_member takes_skipValue hname hv
      exact ⟨m, ws, front, hm.isBody, hws, hfront, hvalue, (adds_other_iff hm hs hr he).mpr rfl,
        hcs⟩
  reads := by
    intro d d' m ws front rest hws hfront hvalue hrest hadds
    obtain ⟨name, hm⟩ := hadds.named
    apply reads_readMember_iff.mpr
    by_cases hs : name = "success"
    · subst hs
      obtain ⟨hd, b, hb, rfl⟩ := (adds_success_iff hm).mp hadds
      obtain ⟨left, hname, h⟩ := reads_member takes_readBool hm hws hfront hvalue hrest hb
      exact ⟨_, left, hname, .success hd h⟩
    by_cases hr : name = "redirect"
    · subst hr
      obtain ⟨hd, s, ht, rfl⟩ := (adds_redirect_iff hm).mp hadds
      obtain ⟨left, hname, h⟩ := reads_member takes_readNullable hm hws hfront hvalue hrest ht
      exact ⟨_, left, hname, .redirect hd h⟩
    by_cases he : name = "error"
    · subst he
      obtain ⟨hd, s, ht, rfl⟩ := (adds_error_iff hm).mp hadds
      obtain ⟨left, hname, h⟩ := reads_member takes_readNullable hm hws hfront hvalue hrest ht
      exact ⟨_, left, hname, .error hd h⟩
    · obtain rfl := (adds_other_iff hm hs hr he).mp hadds
      obtain ⟨left, hname, h⟩ :=
        reads_member takes_skipValue hm hws hfront hvalue hrest (a := ()) trivial
      exact ⟨_, left, hname, .other hs hr he h⟩

end Member

/-! ### What the members say -/

/-- No member has the name. -/
def Absent (ms : List Entry) (name : String) : Prop :=
  ∀ m ∈ ms, ¬ Named m name

/-- What members say under a name: nothing if no member has it, or else what the
only member of that name means. -/
def Said {α : Type} (ms : List Entry) (name : String) (means : List Char → α → Prop)
    (nothing a : α) : Prop :=
  (Absent ms name ∧ a = nothing)
    ∨ ∃ before m after, ms = before ++ m :: after ∧ Absent before name ∧ Absent after name ∧
        Named m name ∧ means m.value a

/-- What the members of an object say about a reply.  Every name has to denote a text. -/
structure Says (ms : List Entry) (r : Reply) : Prop where
  named : ∀ m ∈ ms, ∃ name, Named m name
  success : Said ms "success" IsBool false r.success
  redirect : Said ms "redirect" IsStringOrNull none r.redirect
  error : Said ms "error" IsStringOrNull none r.error

section Said

variable {α : Type} {ms : List Entry} {m : Entry} {name : String} {means : List Char → α → Prop}
  {a nothing : α} {part' : Option α}

/-- A part that is filled stays as it is, and no further member has its name. -/
theorem gathered_some_iff :
    Gathered (Fills name means) (some a) ms part' ↔ Absent ms name ∧ part' = some a := by
  induction ms with
  | nil =>
    rw [gathered_nil_iff]
    exact ⟨fun h => ⟨nofun, h⟩, fun h => h.2⟩
  | cons m ms ih =>
    rw [gathered_cons_iff]
    constructor
    · rintro ⟨part, (⟨-, hnone, -⟩ | ⟨hm, rfl⟩), h⟩
      · cases hnone
      · obtain ⟨habsent, rfl⟩ := ih.mp h
        exact ⟨List.forall_mem_cons.mpr ⟨hm, habsent⟩, rfl⟩
    · rintro ⟨habsent, rfl⟩
      obtain ⟨hm, habsent⟩ := List.forall_mem_cons.mp habsent
      exact ⟨some a, .inr ⟨hm, rfl⟩, ih.mpr ⟨habsent, rfl⟩⟩

/-- **A part ends as what the members say under its name.** -/
theorem gathered_none_iff :
    (∃ part', Gathered (Fills name means) none ms part' ∧ part'.getD nothing = a)
      ↔ Said ms name means nothing a := by
  induction ms with
  | nil =>
    constructor
    · rintro ⟨part', h, rfl⟩
      obtain rfl := gathered_nil_iff.mp h
      exact .inl ⟨nofun, rfl⟩
    · rintro (⟨-, rfl⟩ | ⟨before, m, after, h, -⟩)
      · exact ⟨none, .nil, rfl⟩
      · exact absurd h (by simp)
  | cons m ms ih =>
    constructor
    · rintro ⟨part', h, ha⟩
      obtain ⟨part, hfills, h⟩ := gathered_cons_iff.mp h
      rcases hfills with ⟨hm, -, b, hb, rfl⟩ | ⟨hm, rfl⟩
      · obtain ⟨habsent, rfl⟩ := gathered_some_iff.mp h
        obtain rfl : b = a := ha
        exact .inr ⟨[], m, ms, rfl, nofun, habsent, hm, hb⟩
      · rcases ih.mp ⟨part', h, ha⟩ with ⟨habsent, rfl⟩ | ⟨before, k, after, rfl, hbefore, hk⟩
        · exact .inl ⟨List.forall_mem_cons.mpr ⟨hm, habsent⟩, rfl⟩
        · exact .inr ⟨m :: before, k, after, rfl, List.forall_mem_cons.mpr ⟨hm, hbefore⟩, hk⟩
    · rintro (⟨habsent, rfl⟩ | ⟨before, k, after, heq, hbefore, hafter, hk, ha⟩)
      · obtain ⟨hm, habsent⟩ := List.forall_mem_cons.mp habsent
        obtain ⟨part', h, ha⟩ := ih.mpr (.inl ⟨habsent, rfl⟩)
        exact ⟨part', .cons (.inr ⟨hm, rfl⟩) h, ha⟩
      · rcases before with - | ⟨m', before⟩
        · obtain ⟨rfl, rfl⟩ := List.cons.inj heq
          have hgathered : Gathered (Fills name means) (some a) ms (some a) :=
            gathered_some_iff.mpr ⟨hafter, rfl⟩
          exact ⟨some a, .cons (.inl ⟨hk, rfl, a, ha, rfl⟩) hgathered, rfl⟩
        · obtain ⟨rfl, rfl⟩ := List.cons.inj heq
          obtain ⟨hm, hbefore⟩ := List.forall_mem_cons.mp hbefore
          obtain ⟨part', h, ha⟩ := ih.mpr (.inr ⟨before, k, after, rfl, hbefore, hafter, hk, ha⟩)
          exact ⟨part', .cons (.inr ⟨hm, rfl⟩) h, ha⟩

end Said

/-- Members add to a draft what they add to each of its parts. -/
theorem gathered_adds_iff {ms : List Entry} {d d' : Draft} :
    Gathered Draft.Adds d ms d'
      ↔ (∀ m ∈ ms, ∃ name, Named m name) ∧
        Gathered (Fills "success" IsBool) d.success ms d'.success ∧
        Gathered (Fills "redirect" IsStringOrNull) d.redirect ms d'.redirect ∧
        Gathered (Fills "error" IsStringOrNull) d.error ms d'.error := by
  induction ms generalizing d with
  | nil =>
    simp only [gathered_nil_iff]
    constructor
    · rintro rfl
      exact ⟨nofun, rfl, rfl, rfl⟩
    · rintro ⟨-, hs, hr, he⟩
      exact Draft.ext hs hr he
  | cons m ms ih =>
    simp only [gathered_cons_iff, ih, List.forall_mem_cons]
    constructor
    · rintro ⟨k, hk, hnamed, hs, hr, he⟩
      exact ⟨⟨hk.named, hnamed⟩, ⟨_, hk.success, hs⟩, ⟨_, hk.redirect, hr⟩, ⟨_, hk.error, he⟩⟩
    · rintro ⟨⟨hm, hnamed⟩, ⟨s, hms, hs⟩, ⟨r, hmr, hr⟩, ⟨e, hme, he⟩⟩
      exact ⟨⟨s, r, e⟩, ⟨hm, hms, hmr, hme⟩, hnamed, hs, hr, he⟩

/-- **A draft that was filled from nothing is finished as what the members say.** -/
theorem gathered_iff_says {ms : List Entry} {r : Reply} :
    (∃ d, Gathered Draft.Adds .blank ms d ∧ d.finish = r) ↔ Says ms r := by
  constructor
  · rintro ⟨d, h, rfl⟩
    obtain ⟨hnamed, hs, hr, he⟩ := gathered_adds_iff.mp h
    exact ⟨hnamed, gathered_none_iff.mp ⟨_, hs, rfl⟩, gathered_none_iff.mp ⟨_, hr, rfl⟩,
      gathered_none_iff.mp ⟨_, he, rfl⟩⟩
  · rintro ⟨hnamed, hs, hr, he⟩
    obtain ⟨s, hs, hsuccess⟩ := gathered_none_iff.mpr hs
    obtain ⟨r', hr, hredirect⟩ := gathered_none_iff.mpr hr
    obtain ⟨e, he, herror⟩ := gathered_none_iff.mpr he
    refine ⟨⟨s, r', e⟩, gathered_adds_iff.mpr ⟨hnamed, hs, hr, he⟩, ?_⟩
    rw [Draft.finish, hsuccess, hredirect, herror]

end Passkey.Reply
