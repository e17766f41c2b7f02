/-
Passkey/Proofs/Json/Tidy.lean

Values that were read from text.

A reader puts every member into its place and goes no deeper than it may, so
what it returns is tidy: the members of every object stand in the order of
their names, each name once, and the nesting is bounded.  A tidy value is its
own normal form.  If its numbers are integers, its text reads back as the
value itself (`Tidy.parse_text`).
-/
import Passkey.Proofs.Json.RoundTrip
import Passkey.Proofs.Outcome

namespace Passkey.Json

open Outcome

/-! ### Loops -/

section Loops

variable {α σ : Type} {first : Bool} {cs : List Char}

/-- Every item of an array that was read is one that the reader of items returned. -/
theorem forall_mem_of_readItems {item : Reader α} {P : α → Prop}
    (hitem : ∀ cs p, item cs = .ok p → P p.value) {p : Parsed (List α) cs}
    (h : readItems item first cs = .ok p) : ∀ a ∈ p.value, P a := by
  fun_induction readItems item first cs with
  | case1 first cs f hf => cases h
  | case2 first cs hn =>
    rcases hc : closeArray cs with f | q
    · rw [hc] at h
      cases h
    · rw [hc] at h
      cases h
      exact nofun
  | case3 first cs start hn f hf => cases h
  | case4 first cs start hn q hq hlt f hf ih => cases h
  | case5 first cs start hn q hq hlt qs hqs ih =>
    cases h
    intro a ha
    rcases List.mem_cons.mp ha with rfl | ha
    · exact hitem _ q hq
    · exact ih hqs a ha

/-- What every member keeps holds when the object was read. -/
theorem invariant_of_foldMembers {member : σ → Reader σ} {I : σ → Prop}
    (hmember : ∀ s cs p, I s → member s cs = .ok p → I p.value) {s : σ} {p : Parsed σ cs}
    (hs : I s) (h : foldMembers member s first cs = .ok p) : I p.value := by
  fun_induction foldMembers member s first cs with
  | case1 s first cs f hf => cases h
  | case2 s first cs hn =>
    rcases hc : closeObject cs with f | q
    · rw [hc] at h
      cases h
    · rw [hc] at h
      cases h
      exact hs
  | case3 s first cs start hn f hf => cases h
  | case4 s first cs start hn q hq hlt f hf ih => cases h
  | case5 s first cs start hn q hq hlt r hr ih =>
    cases h
    exact ih (hmember s _ q hs hq) hr

end Loops

/-! ### Tidy values -/

/-- A value whose objects have their members in order, and whose arrays and
objects are nested at most `depth` deep. -/
inductive Value.Tidy : Nat → Value → Prop
  | null {depth : Nat} : Tidy depth .null
  | bool {depth : Nat} (b : Bool) : Tidy depth (.bool b)
  | num {depth : Nat} (n : Number) : Tidy depth (.num n)
  | str {depth : Nat} (s : String) : Tidy depth (.str s)
  | arr {depth : Nat} {items : List Value} (h : ∀ v ∈ items, Tidy depth v) :
    Tidy (depth + 1) (.arr items)
  | obj {depth : Nat} {members : Members} (ordered : members.Ordered)
    (h : ∀ m ∈ members, Tidy depth m.2) : Tidy (depth + 1) (.obj members)

/-- Every number in the value is an integer of a machine word. -/
inductive Value.Integral : Value → Prop
  | null : Integral .null
  | bool (b : Bool) : Integral (.bool b)
  | int {i : Int} (h : IsWord i) : Integral (.num (.int i))
  | str (s : String) : Integral (.str s)
  | arr {items : List Value} (h : ∀ v ∈ items, Integral v) : Integral (.arr items)
  | obj {members : Members} (h : ∀ m ∈ members, Integral m.2) : Integral (.obj members)

namespace Value

variable {v : Value} {depth : Nat}

theorem Tidy.mono (h : v.Tidy depth) {depth' : Nat} (hle : depth ≤ depth') : v.Tidy depth' := by
  induction h generalizing depth' with
  | null => exact .null
  | bool b => exact .bool b
  | num n => exact .num n
  | str s => exact .str s
  | arr h ih =>
    rcases depth' with - | depth'
    · exact absurd hle (Nat.not_succ_le_zero _)
    · exact .arr fun v hv => ih v hv (Nat.le_of_succ_le_succ hle)
  | obj ordered h ih =>
    rcases depth' with - | depth'
    · exact absurd hle (Nat.not_succ_le_zero _)
    · exact .obj ordered fun m hm => ih m hm (Nat.le_of_succ_le_succ hle)

section Objects

variable {ms : Members} {name : String}

theorem Tidy.ordered (h : (Value.obj ms).Tidy depth) : ms.Ordered := by
  cases h with
  | obj ordered => exact ordered

/-- A member has one level less than its object. -/
theorem Tidy.of_mem {m : String × Value} (h : (Value.obj ms).Tidy (depth + 1)) (hm : m ∈ ms) :
    m.2.Tidy depth := by
  cases h with
  | obj _ h => exact h m hm

theorem Tidy.of_get? (h : (Value.obj ms).Tidy (depth + 1)) (hv : ms.get? name = some v) :
    v.Tidy depth :=
  h.of_mem (Members.mem_of_get? hv)

theorem Tidy.member (h : (Value.obj ms).Tidy depth) (hv : ms.get? name = some v) :
    v.Tidy depth := by
  rcases depth with - | depth
  · cases h
  · exact (h.of_get? hv).mono (Nat.le_succ depth)

end Objects

/-- A tidy value is its own normal form. -/
theorem Tidy.normal_eq (h : v.Tidy depth) : v.normal = v := by
  induction h with
  | null => rfl
  | bool b => rfl
  | num n => rfl
  | str s => rfl
  | @arr depth items h ih =>
    have hitems : items.map normal = items := by
      rw [List.map_congr_left ih, List.map_id']
    rw [normal, normalItems_eq, hitems]
  | @obj depth members ordered h ih =>
    have hmembers : members.map (fun m => (m.1, m.2.normal)) = members := by
      have hm : ∀ m ∈ members, (m.1, m.2.normal) = m := fun m hm => by rw [ih m hm]
      rw [List.map_congr_left hm, List.map_id']
    rw [normal, normalMembers_eq, hmembers, ordered.ordered_eq]

theorem Tidy.fits (h : v.Tidy depth) (hv : v.Integral) : v.Fits depth := by
  induction h with
  | null => exact .null
  | bool b => exact .bool b
  | num n =>
    cases hv with
    | int hi => exact .int hi
  | str s => exact .str s
  | arr h ih =>
    cases hv with
    | arr hv => exact .arr fun v hm => ih v hm (hv v hm)
  | obj ordered h ih =>
    cases hv with
    | obj hv => exact .obj fun m hm => ih m hm (hv m hm)

/-- **The text of a tidy value reads as the value**, if its numbers are integers. -/
theorem Tidy.parse_text (h : v.Tidy maxDepth) (hv : v.Integral) :
    Value.parse v.text = .ok v := by
  rw [Json.parse_text (h.fits hv), h.normal_eq]

end Value

/-! ### What was read is tidy -/

theorem tidy_of_readWord {word : String} {v : Value} {c : Char} {rest : List Char} {depth : Nat}
    {p : Parsed Value (c :: rest)} (hv : v.Tidy depth) (h : readWord word v c rest = .ok p) :
    p.value.Tidy depth := by
  rw [readWord] at h
  split at h
  · cases h
  · cases h
    exact hv

theorem tidy_of_readUnsigned {negative : Bool} {cs : List Char} {p : Parsed Value cs} {depth : Nat}
    (h : readUnsigned negative cs = .ok p) : p.value.Tidy depth := by
  rw [readUnsigned] at h
  split at h
  · cases h
  · cases h
    exact .num _

theorem tidy_of_readScalar {c : Char} {cs : List Char} {p : Parsed Value (c :: cs)} {depth : Nat}
    (h : readScalar c cs = .ok p) : p.value.Tidy depth := by
  rw [readScalar.eq_def] at h
  split at h
  · exact tidy_of_readWord .null h
  · exact tidy_of_readWord (.bool true) h
  · exact tidy_of_readWord (.bool false) h
  · obtain ⟨q, -, rfl⟩ := map_eq_ok_iff.mp h
    exact .str _
  · obtain ⟨q, hq, rfl⟩ := map_eq_ok_iff.mp h
    show q.value.Tidy depth
    exact tidy_of_readUnsigned hq
  · split at h
    · exact tidy_of_readUnsigned h
    · cases h

/-- Putting a member that was read among tidy ones keeps them tidy. -/
theorem tidy_of_insertMember {value : Reader Value} {depth : Nat}
    (hvalue : ∀ cs p, value cs = .ok p → p.value.Tidy depth) {ms : Members} {cs : List Char}
    {p : Parsed Members cs} (hms : ms.Ordered ∧ ∀ m ∈ ms, m.2.Tidy depth)
    (h : insertMember value ms cs = .ok p) :
    p.value.Ordered ∧ ∀ m ∈ p.value, m.2.Tidy depth := by
  rw [insertMember] at h
  rcases hname : readString cs with f | name
  · simp only [hname] at h
    cases h
  · simp only [hname] at h
    obtain ⟨q, hq, rfl⟩ := map_eq_ok_iff.mp h
    rw [readMemberValue] at hq
    rcases hcolon : readColon name.rest with f | colon
    · simp only [hcolon] at hq
      cases hq
    · simp only [hcolon] at hq
      obtain ⟨v, hv, rfl⟩ := map_eq_ok_iff.mp hq
      refine ⟨hms.1.insert _ _, ?_⟩
      intro m hm
      rcases Members.mem_insert hm with rfl | hm
      · exact hvalue _ v hv
      · exact hms.2 m hm

/-- **A value that was read is tidy**: the induction is on the depth that is left. -/
theorem tidy_of_readValue {depth : Nat} {cs : List Char} {p : Parsed Value cs}
    (h : readValue depth cs = .ok p) : p.value.Tidy depth := by
  induction depth generalizing cs with
  | zero =>
    rw [readValue.eq_def] at h
    split at h
    · cases h
    · dsimp only at h
      split at h
      · cases h
      · cases h
      · obtain ⟨q, hq, rfl⟩ := map_eq_ok_iff.mp h
        show q.value.Tidy _
        exact tidy_of_readScalar hq
  | succ depth ih =>
    rw [readValue.eq_def] at h
    split at h
    · cases h
    · dsimp only at h
      split at h
      · obtain ⟨q, hq, rfl⟩ := map_eq_ok_iff.mp h
        exact .arr (forall_mem_of_readItems (fun _ _ hp => ih hp) hq)
      · obtain ⟨q, hq, rfl⟩ := map_eq_ok_iff.mp h
        obtain ⟨ho, hm⟩ := invariant_of_foldMembers
          (I := fun ms => ms.Ordered ∧ ∀ m ∈ ms, m.2.Tidy depth)
          (fun _ _ _ hms hp => tidy_of_insertMember (fun _ _ hp => ih hp) hms hp)
          ⟨Members.ordered_nil, fun _ hm => absurd hm List.not_mem_nil⟩ hq
        exact .obj ho hm
      · obtain ⟨q, hq, rfl⟩ := map_eq_ok_iff.mp h
        show q.value.Tidy _
        exact tidy_of_readScalar hq

/-- **The value of a text is tidy.** -/
theorem Value.tidy_of_parse {text : String} {v : Value} (h : Value.parse text = .ok v) :
    v.Tidy maxDepth := by
  rw [Value.parse, readAll] at h
  rcases hp : readValue maxDepth text.toList with f | p
  · simp only [hp] at h
    cases h
  · simp only [hp] at h
    obtain ⟨-, -, rfl⟩ := map_eq_ok_iff.mp h
    exact tidy_of_readValue hp

end Passkey.Json
