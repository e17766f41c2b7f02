/-
Passkey/Proofs/Json/Members.lean

Members of objects in the order of their names.

Putting a member into its place keeps the order, so an object that was read
holds every name once and is determined by what stands under each name:

    ms = ns  ↔  ∀ name, ms.get? name = ns.get? name      (both in order)

Looking up does not depend on the order.  Of several members with one name the
last one counts when they are put into order (`get?_ordered`).
-/
import Mathlib.Data.List.Induction
import Mathlib.Data.String.Basic
import Passkey.Json.Value

namespace Passkey.Json.Members

variable {ms ns : Members} {m : String × Value} {name n : String} {v w : Value}

/-! ### Looking up -/

@[simp] theorem get?_nil (name : String) : Members.get? [] name = none := rfl

theorem get?_cons (m : String × Value) (ms : Members) (name : String) :
    Members.get? (m :: ms) name = if m.1 = name then some m.2 else ms.get? name := by
  by_cases h : m.1 = name
  · rw [get?, List.find?_cons_of_pos (by simpa using h), if_pos h]
    rfl
  · rw [get?, List.find?_cons_of_neg (by simpa using h), if_neg h]
    rfl

theorem get?_append (ms ns : Members) (name : String) :
    Members.get? (ms ++ ns) name = (ms.get? name).or (ns.get? name) := by
  induction ms with
  | nil => rfl
  | cons m ms ih =>
    rw [List.cons_append, get?_cons, get?_cons, ih]
    by_cases h : m.1 = name
    · rw [if_pos h, if_pos h]
      rfl
    · rw [if_neg h, if_neg h]

theorem mem_of_get? (h : ms.get? name = some v) : (name, v) ∈ ms := by
  obtain ⟨⟨n, w⟩, hm, rfl⟩ := Option.map_eq_some_iff.mp h
  have hn : n = name := by simpa using List.find?_some hm
  exact hn ▸ List.mem_of_find?_eq_some hm

theorem get?_eq_none_iff : ms.get? name = none ↔ ∀ m ∈ ms, m.1 ≠ name := by
  rw [get?, Option.map_eq_none_iff, List.find?_eq_none]
  simp

theorem get?_insert (ms : Members) (name : String) (v : Value) (n : String) :
    (ms.insert name v).get? n = if name = n then some v else ms.get? n := by
  induction ms with
  | nil => exact get?_cons _ _ _
  | cons m ms ih =>
    obtain ⟨k, w⟩ := m
    rw [Members.insert]
    split
    · next hk =>
      subst hk
      rw [get?_cons, get?_cons]
      split
      · rfl
      · rfl
    · next hk =>
      split
      · rw [get?_cons]
      · rw [get?_cons, get?_cons, ih]
        by_cases h : k = n
        · rw [if_pos h, if_pos h, if_neg fun hn => hk (hn.trans h.symm)]
        · rw [if_neg h, if_neg h]

/-! ### Order -/

/-- The members stand in the order of their names, each name once. -/
def Ordered (ms : Members) : Prop :=
  ms.Pairwise fun a b => a.1 < b.1

instance (ms : Members) : Decidable (Ordered ms) :=
  inferInstanceAs (Decidable (ms.Pairwise fun a b => a.1 < b.1))

theorem ordered_nil : Ordered [] :=
  .nil

theorem mem_insert (h : m ∈ ms.insert name v) : m = (name, v) ∨ m ∈ ms := by
  induction ms with
  | nil => exact .inl (List.mem_singleton.mp h)
  | cons k ms ih =>
    obtain ⟨k, w⟩ := k
    rw [Members.insert] at h
    split at h
    · rcases List.mem_cons.mp h with h | h
      · exact .inl h
      · exact .inr (List.mem_cons_of_mem _ h)
    · split at h
      · exact List.mem_cons.mp h
      · rcases List.mem_cons.mp h with h | h
        · exact .inr (h ▸ List.mem_cons_self)
        · rcases ih h with h | h
          · exact .inl h
          · exact .inr (List.mem_cons_of_mem _ h)

/-- **Putting a member into its place keeps the order.** -/
theorem Ordered.insert (h : Ordered ms) (name : String) (v : Value) :
    Ordered (ms.insert name v) := by
  induction ms with
  | nil => exact List.pairwise_singleton _ _
  | cons k ms ih =>
    obtain ⟨k, w⟩ := k
    obtain ⟨hk, hms⟩ := List.pairwise_cons.mp h
    rw [Members.insert]
    split
    · next heq =>
      subst heq
      exact List.pairwise_cons.mpr ⟨hk, hms⟩
    · next hne =>
      split
      · next hlt =>
        refine List.pairwise_cons.mpr ⟨?_, h⟩
        intro m hm
        rcases List.mem_cons.mp hm with rfl | hm
        · exact hlt
        · exact String.lt_trans hlt (hk m hm)
      · next hnlt =>
        refine List.pairwise_cons.mpr ⟨?_, ih hms⟩
        intro m hm
        rcases mem_insert hm with rfl | hm
        · exact lt_of_le_of_ne (not_lt.mp hnlt) (Ne.symm hne)
        · exact hk m hm

theorem Ordered.without (h : Ordered ms) (names : List String) : Ordered (ms.without names) :=
  List.Pairwise.filter _ h

theorem Ordered.nodup (h : Ordered ms) : ms.Nodup := by
  refine List.Pairwise.imp ?_ h
  rintro a b hlt rfl
  exact String.lt_irrefl a.1 hlt

theorem Ordered.mem_iff (h : Ordered ms) : (name, v) ∈ ms ↔ ms.get? name = some v := by
  refine ⟨fun hm => ?_, mem_of_get?⟩
  induction ms with
  | nil => cases hm
  | cons k ms ih =>
    obtain ⟨hk, hms⟩ := List.pairwise_cons.mp h
    rw [get?_cons]
    rcases List.mem_cons.mp hm with rfl | hm
    · exact if_pos rfl
    · have hne : k.1 ≠ name := ne_of_lt (hk _ hm)
      rw [if_neg hne]
      exact ih hms hm

/-- Two lists in order that have the same members are the same. -/
theorem Ordered.eq_of_mem_iff (h : Ordered ms) (h' : Ordered ns)
    (hmem : ∀ m, m ∈ ms ↔ m ∈ ns) : ms = ns := by
  have hperm : ms.Perm ns := (List.perm_ext_iff_of_nodup h.nodup h'.nodup).mpr hmem
  refine hperm.eq_of_pairwise ?_ h h'
  intro a b _ _ hab hba
  exact absurd hba (String.lt_asymm hab)

/-- **Members in order are determined by what stands under each name.** -/
theorem Ordered.ext (h : Ordered ms) (h' : Ordered ns)
    (hget : ∀ name, ms.get? name = ns.get? name) : ms = ns := by
  refine h.eq_of_mem_iff h' ?_
  rintro ⟨name, v⟩
  rw [h.mem_iff, h'.mem_iff, hget]

theorem mem_without {names : List String} : m ∈ ms.without names ↔ m ∈ ms ∧ m.1 ∉ names := by
  rw [without, List.mem_filter]
  simp

/-! ### Putting into order -/

theorem foldl_insert_concat (ms : Members) (m : String × Value) :
    ordered (ms ++ [m]) = (ordered ms).insert m.1 m.2 := by
  rw [ordered, List.foldl_append]
  rfl

theorem ordered_ordered (ms : Members) : Ordered (ordered ms) := by
  induction ms using List.reverseRecOn with
  | nil => exact ordered_nil
  | append_singleton ms m ih =>
    rw [foldl_insert_concat]
    exact ih.insert m.1 m.2

/-- What stands under a name in order is what stood there last. -/
theorem get?_ordered (ms : Members) (name : String) :
    (ordered ms).get? name = Members.get? ms.reverse name := by
  induction ms using List.reverseRecOn with
  | nil => rfl
  | append_singleton ms m ih =>
    rw [foldl_insert_concat, get?_insert, ih, List.reverse_append, List.reverse_singleton,
      List.singleton_append, get?_cons]

/-- Members with different names are looked up in order as they were before. -/
theorem get?_ordered_of_nodup (h : (ms.map (·.1)).Nodup) (name : String) :
    (ordered ms).get? name = ms.get? name := by
  rw [get?_ordered]
  induction ms with
  | nil => rfl
  | cons m ms ih =>
    obtain ⟨hm, hms⟩ := List.nodup_cons.mp h
    rw [List.reverse_cons, get?_append, ih hms, get?_cons, get?_cons]
    by_cases heq : m.1 = name
    · have hnone : Members.get? ms name = none := by
        rw [get?_eq_none_iff]
        intro k hk hkn
        exact hm (List.mem_map.mpr ⟨k, hk, hkn.trans heq.symm⟩)
      rw [hnone, if_pos heq, if_pos heq, Option.none_or]
    · rw [if_neg heq, get?_nil, Option.or_none, if_neg heq]

theorem Ordered.map_nodup (h : Ordered ms) : (ms.map (·.1)).Nodup :=
  List.pairwise_map.mpr (h.imp fun hlt => ne_of_lt hlt)

/-- What is in order stays as it is. -/
theorem Ordered.ordered_eq (h : Ordered ms) : ordered ms = ms :=
  (ordered_ordered ms).ext h (get?_ordered_of_nodup h.map_nodup)

end Passkey.Json.Members
