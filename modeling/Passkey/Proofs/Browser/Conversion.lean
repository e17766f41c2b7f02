/-
Passkey/Proofs/Browser/Conversion.lean

JSON values as values of a script, and members of a script's object.

A value of JSON has at most one counterpart among the values of a script, and
it has one exactly if each of its integers is small enough for a number of a
script.  The conversion finds it (`ofJson_eq_ok_iff`); objects keep their members, each
under its name and in its place.

A member that is put into an object takes the place of one with its name, or
comes last, so that no name stands twice.
-/
import Mathlib.Data.Option.Basic
import Passkey.Browser.ScriptValue
import Passkey.Proofs.Json.Members
import Passkey.Proofs.Outcome

namespace Passkey.Browser.ScriptValue

open Json Outcome

/-! ### Counterparts -/

/-- The value of a script that a value of JSON stands for. -/
inductive Corresponds : Value → ScriptValue → Prop
  | null : Corresponds .null .null
  | bool (b : Bool) : Corresponds (.bool b) (.bool b)
  | int {i : Int} (h : i.natAbs ≤ maxSafeInteger) :
    Corresponds (.num (.int i)) (.number (Float.ofInt i))
  | float (x : Float) : Corresponds (.num (.float x)) (.number x)
  | text (s : String) : Corresponds (.str s) (.text s)
  | list {items : List Value} {xs : List ScriptValue} (h : List.Forall₂ Corresponds items xs) :
    Corresponds (.arr items) (.list xs)
  | object {ms : Members} {xs : List (String × ScriptValue)}
    (names : xs.map Prod.fst = ms.map Prod.fst)
    (values : List.Forall₂ Corresponds (ms.map Prod.snd) (xs.map Prod.snd)) :
    Corresponds (.obj ms) (.object false xs)

theorem ofNumber_eq_ok_iff {n : Number} {x : ScriptValue} :
    ofNumber n = .ok x ↔ Corresponds (.num n) x := by
  rcases n with i | f
  · rw [ofNumber]
    split
    · next hsafe =>
      constructor
      · intro h
        cases h
        exact .int hsafe
      · intro h
        cases h
        rfl
    · next hunsafe =>
      refine ⟨nofun, fun h => ?_⟩
      cases h with
      | int hsafe => exact absurd hsafe hunsafe
  · constructor
    · intro h
      cases h
      exact .float f
    · intro h
      cases h
      rfl

theorem itemsOfJson_cons_eq_ok_iff {v : Value} {vs : List Value} {xs : List ScriptValue} :
    itemsOfJson (v :: vs) = .ok xs ↔
      ∃ x rest, ofJson v = .ok x ∧ itemsOfJson vs = .ok rest ∧ xs = x :: rest := by
  rw [itemsOfJson]
  rcases ofJson v with i | x
  · exact ⟨nofun, nofun⟩
  · dsimp only
    rw [map_eq_ok_iff]
    constructor
    · rintro ⟨rest, hrest, rfl⟩
      exact ⟨x, rest, rfl, hrest, rfl⟩
    · rintro ⟨_, rest, hx, hrest, rfl⟩
      cases hx
      exact ⟨rest, hrest, rfl⟩

theorem membersOfJson_cons_eq_ok_iff {name : String} {v : Value} {ms : Members}
    {xs : List (String × ScriptValue)} :
    membersOfJson ((name, v) :: ms) = .ok xs ↔
      ∃ x rest, ofJson v = .ok x ∧ membersOfJson ms = .ok rest ∧ xs = (name, x) :: rest := by
  rw [membersOfJson]
  rcases ofJson v with i | x
  · exact ⟨nofun, nofun⟩
  · dsimp only
    rw [map_eq_ok_iff]
    constructor
    · rintro ⟨rest, hrest, rfl⟩
      exact ⟨x, rest, rfl, hrest, rfl⟩
    · rintro ⟨_, rest, hx, hrest, rfl⟩
      cases hx
      exact ⟨rest, hrest, rfl⟩

mutual

/-- **The conversion finds the counterpart, if there is one.** -/
theorem ofJson_eq_ok_iff (v : Value) (x : ScriptValue) : ofJson v = .ok x ↔ Corresponds v x := by
  cases v with
  | null => exact ⟨fun h => by cases h; exact .null, fun h => by cases h; rfl⟩
  | bool b => exact ⟨fun h => by cases h; exact .bool b, fun h => by cases h; rfl⟩
  | num n => exact ofNumber_eq_ok_iff
  | str s => exact ⟨fun h => by cases h; exact .text s, fun h => by cases h; rfl⟩
  | arr items =>
    rw [ofJson, map_eq_ok_iff]
    constructor
    · rintro ⟨xs, hxs, rfl⟩
      exact .list ((itemsOfJson_eq_ok_iff items xs).mp hxs)
    · intro h
      cases h with
      | @list _ xs h => exact ⟨xs, (itemsOfJson_eq_ok_iff items xs).mpr h, rfl⟩
  | obj ms =>
    rw [ofJson, map_eq_ok_iff]
    constructor
    · rintro ⟨xs, hxs, rfl⟩
      obtain ⟨names, values⟩ := (membersOfJson_eq_ok_iff ms xs).mp hxs
      exact .object names values
    · intro h
      cases h with
      | @object _ xs names values =>
        exact ⟨xs, (membersOfJson_eq_ok_iff ms xs).mpr ⟨names, values⟩, rfl⟩

theorem itemsOfJson_eq_ok_iff (vs : List Value) (xs : List ScriptValue) :
    itemsOfJson vs = .ok xs ↔ List.Forall₂ Corresponds vs xs := by
  cases vs with
  | nil =>
    rw [itemsOfJson, List.forall₂_nil_left_iff]
    exact ⟨fun h => (Except.ok.inj h).symm, fun h => congrArg _ h.symm⟩
  | cons v vs =>
    rw [itemsOfJson_cons_eq_ok_iff, List.forall₂_cons_left_iff]
    simp only [ofJson_eq_ok_iff v, itemsOfJson_eq_ok_iff vs]

theorem membersOfJson_eq_ok_iff (ms : Members) (xs : List (String × ScriptValue)) :
    membersOfJson ms = .ok xs ↔
      xs.map Prod.fst = ms.map Prod.fst ∧
        List.Forall₂ Corresponds (ms.map Prod.snd) (xs.map Prod.snd) := by
  cases ms with
  | nil =>
    rw [membersOfJson, List.map_nil, List.map_nil, List.map_eq_nil_iff, List.forall₂_nil_left_iff,
      List.map_eq_nil_iff, and_self]
    exact ⟨fun h => (Except.ok.inj h).symm, fun h => congrArg _ h.symm⟩
  | cons m ms =>
    obtain ⟨name, v⟩ := m
    rw [membersOfJson_cons_eq_ok_iff, List.map_cons, List.map_cons]
    simp only [ofJson_eq_ok_iff v, membersOfJson_eq_ok_iff ms]
    constructor
    · rintro ⟨x, rest, hx, ⟨names, values⟩, rfl⟩
      exact ⟨congrArg (name :: ·) names, .cons hx values⟩
    · rintro ⟨names, values⟩
      rcases xs with - | ⟨⟨n, x⟩, rest⟩
      · cases names
      · obtain ⟨rfl, hrest⟩ := List.cons_eq_cons.mp names
        obtain ⟨hx, hvalues⟩ := List.forall₂_cons.mp values
        exact ⟨x, rest, hx, ⟨hrest, hvalues⟩, rfl⟩

end

/-! ### Members -/

section Members

variable {ms : Members} {xs : List (String × ScriptValue)} {name : String} {x : ScriptValue}

theorem lookup_member_cons (n : String) (x : ScriptValue) (xs : List (String × ScriptValue))
    (name : String) :
    List.lookup name ((n, x) :: xs) = if name = n then some x else xs.lookup name := by
  by_cases h : name = n
  · rw [List.lookup_cons, beq_iff_eq.mpr h, if_pos h]
  · rw [List.lookup_cons, beq_eq_false_iff_ne.mpr h, if_neg h]

/-- What stands under a name is converted, and nothing else is there. -/
theorem lookup_of_membersOfJson (h : membersOfJson ms = .ok xs) (name : String) :
    Option.Rel Corresponds (ms.get? name) (xs.lookup name) := by
  induction ms generalizing xs with
  | nil =>
    cases h
    exact .none
  | cons m ms ih =>
    obtain ⟨n, v⟩ := m
    obtain ⟨x, rest, hx, hrest, rfl⟩ := membersOfJson_cons_eq_ok_iff.mp h
    rw [Members.get?_cons, lookup_member_cons]
    by_cases hn : n = name
    · rw [if_pos hn, if_pos hn.symm]
      exact .some ((ofJson_eq_ok_iff v x).mp hx)
    · rw [if_neg hn, if_neg (Ne.symm hn)]
      exact ih hrest

theorem exists_membersOfJson_iff :
    (∃ xs, membersOfJson ms = .ok xs) ↔ ∀ m ∈ ms, ∃ x, Corresponds m.2 x := by
  induction ms with
  | nil => exact ⟨fun _ => nofun, fun _ => ⟨[], rfl⟩⟩
  | cons m ms ih =>
    obtain ⟨n, v⟩ := m
    rw [List.forall_mem_cons, ← ih]
    constructor
    · rintro ⟨xs, h⟩
      obtain ⟨x, rest, hx, hrest, -⟩ := membersOfJson_cons_eq_ok_iff.mp h
      exact ⟨⟨x, (ofJson_eq_ok_iff v x).mp hx⟩, rest, hrest⟩
    · rintro ⟨⟨x, hx⟩, rest, hrest⟩
      exact ⟨_, membersOfJson_cons_eq_ok_iff.mpr
        ⟨x, rest, (ofJson_eq_ok_iff v x).mpr hx, hrest, rfl⟩⟩

/-- **Putting a member writes its name and no other.** -/
theorem lookup_putMember (name : String) (x : ScriptValue) (xs : List (String × ScriptValue))
    (other : String) :
    (putMember name x xs).lookup other = if other = name then some x else xs.lookup other := by
  induction xs with
  | nil => exact lookup_member_cons name x [] other
  | cons m xs ih =>
    obtain ⟨n, y⟩ := m
    rw [putMember, lookup_member_cons]
    split
    · next hn =>
      rw [lookup_member_cons, hn]
      split
      · rfl
      · rfl
    · next hn =>
      rw [lookup_member_cons, ih]
      by_cases h : other = n
      · rw [if_pos h, if_pos h, if_neg fun hother => hn (h.symm.trans hother)]
      · rw [if_neg h, if_neg h]

theorem mem_map_fst_putMember {other : String}
    (h : other ∈ (putMember name x xs).map Prod.fst) : other = name ∨ other ∈ xs.map Prod.fst := by
  induction xs with
  | nil => exact .inl (List.mem_singleton.mp h)
  | cons m xs ih =>
    obtain ⟨n, y⟩ := m
    rw [putMember] at h
    split at h
    · exact (List.mem_cons.mp h).imp_right (List.mem_cons_of_mem n)
    · rcases List.mem_cons.mp h with h | h
      · exact .inr (h ▸ List.mem_cons_self)
      · exact (ih h).imp_right (List.mem_cons_of_mem n)

/-- Nor does a name come to stand twice. -/
theorem nodup_putMember (name : String) (x : ScriptValue) (h : (xs.map Prod.fst).Nodup) :
    ((putMember name x xs).map Prod.fst).Nodup := by
  induction xs with
  | nil => exact List.pairwise_singleton _ _
  | cons m xs ih =>
    obtain ⟨n, y⟩ := m
    obtain ⟨hn, hxs⟩ := List.nodup_cons.mp h
    rw [putMember]
    split
    · next heq => exact List.nodup_cons.mpr ⟨heq ▸ hn, hxs⟩
    · next hne =>
      refine List.nodup_cons.mpr ⟨fun hmem => ?_, ih hxs⟩
      exact (mem_map_fst_putMember hmem).elim hne hn

end Members

end Passkey.Browser.ScriptValue
