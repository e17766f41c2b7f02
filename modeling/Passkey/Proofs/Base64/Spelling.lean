/-
Passkey/Proofs/Base64/Spelling.lean

The four spellings of a byte string.

A spelling reads exactly what it writes.  What the four write for one byte
string are rewritings of one text, the URL-safe one without padding:

    ⟨urlSafe, false⟩  --fill up-->   ⟨urlSafe, true⟩
           |                               |
    - _ to + /                        - _ to + /
           v                               v
    ⟨standard, false⟩               ⟨standard, true⟩

and dropping the padding and going back to the URL-safe symbols leads from
each of them to that one text (`plain_write`).  So a text that two spellings
read is read as the same bytes.
-/
import Mathlib.Data.List.TakeWhile
import Passkey.Proofs.Base64.Symbols
import Passkey.Proofs.Text.Trim

namespace Passkey.Base64

open Text

/-! ### What a spelling reads -/

section Read

variable {cs : List Char} {bytes : Bytes}

theorem Spelling.write_unpadded (a : Alphabet) (bytes : Bytes) :
    Spelling.write ⟨a, false⟩ bytes = (sextets bytes).map a.symbol := rfl

theorem Spelling.write_padded (a : Alphabet) (bytes : Bytes) :
    Spelling.write ⟨a, true⟩ bytes
      = (sextets bytes).map a.symbol ++ padding (sextets bytes).length := by
  have hlen : ((sextets bytes).map a.symbol).length = (sextets bytes).length := List.length_map _
  rw [← hlen]
  rfl

theorem eq_pad_of_mem {n : Nat} {c : Char} (h : c ∈ padding n) : c = '=' :=
  List.eq_of_mem_replicate h

theorem takeWhile_padding (hcs : '=' ∉ cs) (n : Nat) :
    (cs ++ padding n).takeWhile (· != '=') = cs := by
  have hpos : ∀ c ∈ cs, (c != '=') = true := by
    intro c hc
    rw [bne_iff_ne]
    rintro rfl
    exact hcs hc
  rw [List.takeWhile_append_of_pos hpos, List.takeWhile_eq_nil_iff.mpr, List.append_nil]
  intro h
  rw [eq_pad_of_mem (List.get_mem _ ⟨0, h⟩)]
  decide

theorem pad_notMem_symbols (a : Alphabet) (ds : List (Fin 64)) : '=' ∉ ds.map a.symbol := by
  intro h
  obtain ⟨d, -, hd⟩ := List.mem_map.mp h
  exact a.symbol_ne_pad d hd

/-- **A spelling reads exactly what it writes.** -/
theorem Spelling.read?_eq_some_iff {s : Spelling} :
    s.read? cs = some bytes ↔ cs = s.write bytes := by
  obtain ⟨a, - | -⟩ := s
  · exact a.read?_eq_some_iff
  · rw [Spelling.write_padded]
    constructor
    · intro h
      simp only [Spelling.read?, if_true] at h
      split at h
      · next hpad =>
        -- the text is its symbols and what follows them, which is the padding
        have hsymbols := Alphabet.read?_eq_some_iff.mp h
        have hcs := List.take_append_drop (cs.takeWhile (· != '=')).length cs
        rw [← List.prefix_iff_eq_take.mp (List.takeWhile_prefix _), hpad, hsymbols,
          List.length_map] at hcs
        exact hcs.symm
      · cases h
    · rintro rfl
      simp only [Spelling.read?, if_true]
      rw [takeWhile_padding (pad_notMem_symbols a _), List.drop_left, List.length_map, if_pos rfl]
      exact Alphabet.read?_eq_some_iff.mpr rfl

end Read

/-! ### One text in four spellings -/

/-- The symbols of a text in the URL-safe alphabet, without its padding. -/
def plain (cs : List Char) : List Char :=
  (cs.filter (· != '=')).map urlSafeChar

theorem plain_symbols (a : Alphabet) (ds : List (Fin 64)) (n : Nat) :
    plain (ds.map a.symbol ++ padding n) = ds.map Alphabet.urlSafe.symbol := by
  have hsymbols : (ds.map a.symbol).filter (· != '=') = ds.map a.symbol := by
    refine List.filter_eq_self.mpr fun c hc => bne_iff_ne.mpr ?_
    rintro rfl
    exact pad_notMem_symbols a ds hc
  have hpad : (padding n).filter (· != '=') = [] := by
    refine List.filter_eq_nil_iff.mpr fun c hc => ?_
    rw [eq_pad_of_mem hc]
    decide
  rw [plain, List.filter_append, hsymbols, hpad, List.append_nil, List.map_map]
  exact List.map_congr_left fun d _ => urlSafeChar_symbol a d

/-- **Every spelling of a byte string is one text** but for its padding and
its alphabet. -/
theorem plain_write (s : Spelling) (bytes : Bytes) :
    plain (s.write bytes) = Spelling.write ⟨.urlSafe, false⟩ bytes := by
  obtain ⟨a, - | -⟩ := s
  · rw [Spelling.write_unpadded, ← List.append_nil (List.map _ _)]
    exact plain_symbols a (sextets bytes) 0
  · rw [Spelling.write_padded]
    exact plain_symbols a (sextets bytes) _

theorem Spelling.write_inj {s s' : Spelling} {bytes bytes' : Bytes}
    (h : s.write bytes = s'.write bytes') : bytes = bytes' := by
  have hplain := congrArg plain h
  rw [plain_write, plain_write] at hplain
  exact Option.some.inj
    ((Spelling.read?_eq_some_iff.mpr rfl).symm.trans (Spelling.read?_eq_some_iff.mpr hplain))

/-! ### What a spelling consists of -/

section Write

variable {c : Char} {bytes : Bytes}

theorem Spelling.mem_write {s : Spelling} (h : c ∈ s.write bytes) :
    (∃ d, c = s.alphabet.symbol d) ∨ (s.padded = true ∧ c = '=') := by
  obtain ⟨a, - | -⟩ := s
  · obtain ⟨d, -, hd⟩ := List.mem_map.mp h
    exact .inl ⟨d, hd.symm⟩
  · rw [Spelling.write_padded] at h
    rcases List.mem_append.mp h with h | h
    · obtain ⟨d, -, hd⟩ := List.mem_map.mp h
      exact .inl ⟨d, hd.symm⟩
    · exact .inr ⟨rfl, eq_pad_of_mem h⟩

/-- A character that is no symbol of the alphabet, and no `=`, is not written. -/
theorem Spelling.notMem_write {s : Spelling} (hc : c ≠ '=')
    (h : ∀ d, s.alphabet.symbol d ≠ c) : c ∉ s.write bytes := by
  intro hmem
  rcases Spelling.mem_write hmem with ⟨d, hd⟩ | ⟨-, hd⟩
  · exact h d hd.symm
  · exact hc hd

theorem Spelling.noBlank_write (s : Spelling) (bytes : Bytes) : NoBlank (s.write bytes) := by
  intro c hc
  rcases Spelling.mem_write hc with ⟨d, rfl⟩ | ⟨-, rfl⟩
  · exact s.alphabet.isBlank_symbol d
  · decide

theorem length_padding (n : Nat) : (n + (padding n).length) % 4 = 0 := by
  rw [padding, List.length_replicate]
  omega

theorem Spelling.length_write (s : Spelling) (bytes : Bytes) : (s.write bytes).length % 4 ≠ 1 := by
  obtain ⟨a, - | -⟩ := s
  · rw [Spelling.write_unpadded, List.length_map]
    exact length_sextets bytes
  · rw [Spelling.write_padded, List.length_append, List.length_map, length_padding]
    decide

end Write

end Passkey.Base64
