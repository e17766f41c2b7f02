/-
Passkey/Proofs/Json/Typed.lean

Values of an expected kind, and members that may be missing.

Each reader of values accepts exactly the values of one shape, and the shape
determines what is read.  The lemmas here say so, one for each reader; nothing
later opens the readers.
-/
import Passkey.Options
import Passkey.Proofs.Base64.Decode
import Passkey.Proofs.Json.Members
import Passkey.Proofs.Outcome

namespace Passkey

open Outcome

namespace Json.Value

/-- The value is a text that spells the byte string. -/
def Spells (v : Value) (bytes : Bytes) : Prop :=
  ∃ s, v = .str s ∧ Base64.decode s = .ok bytes

section Kinds

variable {v : Value} {s : String} {bytes : Bytes} {items : List Value} {texts : List String}

theorem spells_ofBytes (bytes : Bytes) : (ofBytes bytes).Spells bytes := by
  refine ⟨_, rfl, ?_⟩
  have hempty : Text.AllBlank "".toList := nofun
  have h := Base64.decode_surround hempty hempty bytes
  rwa [String.empty_append, String.append_empty] at h

/-- A value spells at most one byte string. -/
theorem Spells.unique {bytes' : Bytes} (h : v.Spells bytes) (h' : v.Spells bytes') :
    bytes = bytes' := by
  obtain ⟨s, rfl, hs⟩ := h
  obtain ⟨t, ht, hs'⟩ := h'
  cases ht
  rw [hs] at hs'
  exact Except.ok.inj hs'

theorem asText_eq_ok_iff : v.asText = .ok s ↔ v = .str s := by
  constructor
  · intro h
    cases v with
    | str t =>
      cases h
      rfl
    | _ => cases h
  · rintro rfl
    rfl

theorem asBytes_eq_ok_iff : v.asBytes = .ok bytes ↔ v.Spells bytes := by
  constructor
  · intro h
    rw [asBytes] at h
    split at h
    · cases h
    · next s hs =>
      split at h
      · next b hb =>
        cases h
        refine ⟨s, asText_eq_ok_iff.mp hs, ?_⟩
        rw [Base64.decode, hb]
      · cases h
  · rintro ⟨s, rfl, hs⟩
    rw [Base64.decode] at hs
    split at hs
    · next b hb =>
      cases hs
      simp only [asBytes, asText, hb]
    · cases hs

theorem asItems_eq_ok_iff : v.asItems = .ok items ↔ v = .arr items := by
  constructor
  · intro h
    cases v with
    | arr is =>
      cases h
      rfl
    | _ => cases h
  · rintro rfl
    rfl

theorem forall₂_asText_iff :
    List.Forall₂ (fun v s => v.asText = .ok s) items texts ↔ items = texts.map .str := by
  simp only [asText_eq_ok_iff]
  rw [← List.forall₂_eq_eq_eq, List.forall₂_map_right_iff]

theorem asTexts_eq_ok_iff : v.asTexts = .ok texts ↔ v = .ofTexts texts := by
  rw [asTexts, ofTexts]
  constructor
  · intro h
    obtain ⟨items, hv, h⟩ := bind_eq_ok_iff.mp h
    rw [asItems_eq_ok_iff.mp hv, forall₂_asText_iff.mp (mapM_eq_ok_iff.mp h)]
  · rintro rfl
    exact mapM_eq_ok_iff.mpr (forall₂_asText_iff.mpr rfl)

end Kinds

end Json.Value

/-! ### Members -/

section Members

open Json

variable {α : Type} {ms : Members} {name : String} {read : Value → Except Cause α} {a default : α}

theorem readMember?_eq_some_iff :
    readMember? ms name read = .ok (some a) ↔ ∃ v, ms.get? name = some v ∧ read v = .ok a := by
  rw [readMember?]
  rcases ms.get? name with - | v
  · exact ⟨nofun, nofun⟩
  · constructor
    · intro h
      obtain ⟨b, hb, h⟩ := map_eq_ok_iff.mp h
      cases h
      exact ⟨v, rfl, hb⟩
    · rintro ⟨w, hw, h⟩
      cases hw
      exact map_eq_ok_iff.mpr ⟨a, h, rfl⟩

theorem memberOr_eq_ok_iff :
    memberOr ms name default read = .ok a
      ↔ (ms.get? name = none ∧ a = default) ∨ ∃ v, ms.get? name = some v ∧ read v = .ok a := by
  rw [memberOr]
  rcases ms.get? name with - | v
  · refine ⟨fun h => .inl ⟨rfl, (Except.ok.inj h).symm⟩, ?_⟩
    rintro (⟨-, rfl⟩ | ⟨v, hv, -⟩)
    · rfl
    · cases hv
  · refine ⟨fun h => .inr ⟨v, rfl, h⟩, ?_⟩
    rintro (⟨hv, -⟩ | ⟨w, hw, h⟩)
    · cases hv
    · cases hw
      exact h

end Members

end Passkey
