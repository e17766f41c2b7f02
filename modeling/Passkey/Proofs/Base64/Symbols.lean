/-
Passkey/Proofs/Base64/Symbols.lean

The symbols of the two alphabets.

Each alphabet names the sextets without ambiguity.  The two agree but for the
last two sextets, which the URL-safe one writes `-` and `_` and the standard
one `+` and `/`; so one alphabet is the other after an exchange of these
symbols.  No symbol is blank, and none is the sign of the padding.
-/
import Passkey.Proofs.Base64.Sextets

namespace Passkey.Base64

open Text

/-! ### Symbols and sextets -/

theorem Alphabet.sextet?_symbol (a : Alphabet) (d : Fin 64) :
    a.sextet? (a.symbol d) = some d := by
  rcases a with - | - <;> revert d <;> decide

theorem ofNat_add_sub {base : Nat} {c : Char} (h : base ≤ c.toNat) :
    Char.ofNat (base + (c.toNat - base)) = c := by
  rw [Nat.add_sub_of_le h, Char.ofNat_toNat]

theorem Alphabet.symbol_of_sextet? {a : Alphabet} {c : Char} {d : Fin 64}
    (h : a.sextet? c = some d) : a.symbol d = c := by
  have hle {x y : Char} (h : x ≤ y) : x.toNat ≤ y.toNat := h
  unfold sextet? at h
  -- each of the three ranges is shifted back to where it came from
  split at h
  · next hc =>
    have hA : 65 ≤ c.toNat := hle hc.1
    have hZ : c.toNat ≤ 90 := hle hc.2
    cases h
    unfold symbol
    rw [val_ofNat (by show c.toNat - 65 < 64; omega),
      if_pos (by show c.toNat - 65 < 26; omega)]
    exact ofNat_add_sub hA
  split at h
  · next hc =>
    have ha : 97 ≤ c.toNat := hle hc.1
    have hz : c.toNat ≤ 122 := hle hc.2
    cases h
    unfold symbol
    rw [val_ofNat (by show c.toNat - 97 + 26 < 64; omega),
      if_neg (by omega), if_pos (by show c.toNat - 97 + 26 < 52; omega), Nat.add_sub_cancel]
    exact ofNat_add_sub ha
  split at h
  · next hc =>
    have h0 : 48 ≤ c.toNat := hle hc.1
    have h9 : c.toNat ≤ 57 := hle hc.2
    cases h
    unfold symbol
    rw [val_ofNat (by show c.toNat - 48 + 52 < 64; omega),
      if_neg (by omega), if_neg (by omega), if_pos (by show c.toNat - 48 + 52 < 62; omega),
      Nat.add_sub_cancel]
    exact ofNat_add_sub h0
  · -- the two symbols in which the alphabets differ
    rcases a with - | -
    all_goals
      simp only at h
      split at h
      · next hc =>
        cases h
        exact hc.symm
      split at h
      · next hc =>
        cases h
        exact hc.symm
      · cases h

theorem Alphabet.sextet?_eq_some_iff {a : Alphabet} {c : Char} {d : Fin 64} :
    a.sextet? c = some d ↔ c = a.symbol d := by
  constructor
  · exact fun h => (symbol_of_sextet? h).symm
  · rintro rfl
    exact a.sextet?_symbol d

theorem Alphabet.mapM_sextet? {a : Alphabet} {cs : List Char} {ds : List (Fin 64)} :
    cs.mapM a.sextet? = some ds ↔ cs = ds.map a.symbol := by
  induction cs generalizing ds with
  | nil => cases ds <;> simp
  | cons c cs ih =>
    -- one symbol that is none makes the whole text unreadable
    rw [List.mapM_cons]
    rcases ds with - | ⟨d, ds⟩
    · rcases hc : a.sextet? c with - | e
      · simp
      · rcases hr : cs.mapM a.sextet? with - | es <;> simp
    · rw [List.map_cons, List.cons.injEq, ← sextet?_eq_some_iff, ← ih]
      rcases hc : a.sextet? c with - | e
      · simp
      · rcases hr : cs.mapM a.sextet? with - | es
        · simp
        · simp

theorem Alphabet.map_symbol_inj {a : Alphabet} {ds es : List (Fin 64)}
    (h : ds.map a.symbol = es.map a.symbol) : ds = es :=
  Option.some.inj ((mapM_sextet?.mpr rfl).symm.trans (mapM_sextet?.mpr h))

theorem Alphabet.read?_eq_some_iff {a : Alphabet} {cs : List Char} {bytes : Bytes} :
    a.read? cs = some bytes ↔ cs = (sextets bytes).map a.symbol := by
  rw [read?, Option.bind_eq_some_iff]
  constructor
  · rintro ⟨ds, hds, ho⟩
    rw [mapM_sextet?.mp hds, octets?_eq_some_iff.mp ho]
  · intro h
    exact ⟨sextets bytes, mapM_sextet?.mpr h, octets?_sextets bytes⟩

/-! ### The alphabets -/

/-- The URL-safe alphabet, in the order of its sextets. -/
theorem symbols_urlSafe :
    String.ofList ((List.finRange 64).map Alphabet.urlSafe.symbol)
      = "ABCDEFGHIJKLMNOPQRSTUVWXYZabcdefghijklmnopqrstuvwxyz0123456789-_" := by
  decide

theorem Alphabet.symbol_ne_pad (a : Alphabet) (d : Fin 64) : a.symbol d ≠ '=' := by
  rcases a with - | - <;> revert d <;> decide

theorem Alphabet.isBlank_symbol (a : Alphabet) (d : Fin 64) : isBlank (a.symbol d) = false := by
  rcases a with - | - <;> revert d <;> decide

/-- The standard symbol for a URL-safe one. -/
def standardChar (c : Char) : Char :=
  if c = '-' then '+' else if c = '_' then '/' else c

/-- The URL-safe symbol for a standard one. -/
def urlSafeChar (c : Char) : Char :=
  if c = '+' then '-' else if c = '/' then '_' else c

theorem standardChar_symbol (d : Fin 64) :
    standardChar (Alphabet.urlSafe.symbol d) = Alphabet.standard.symbol d := by
  revert d
  decide

theorem urlSafeChar_symbol (a : Alphabet) (d : Fin 64) :
    urlSafeChar (a.symbol d) = Alphabet.urlSafe.symbol d := by
  rcases a with - | - <;> revert d <;> decide

theorem symbol_urlSafe_ne (d : Fin 64) :
    Alphabet.urlSafe.symbol d ≠ '+' ∧ Alphabet.urlSafe.symbol d ≠ '/' := by
  revert d
  decide

theorem symbol_standard_ne (d : Fin 64) :
    Alphabet.standard.symbol d ≠ '-' ∧ Alphabet.standard.symbol d ≠ '_' := by
  revert d
  decide

/-- But for two symbols the alphabets are one. -/
theorem symbol_standard_eq {d : Fin 64} : Alphabet.standard.symbol d ≠ '+' →
    Alphabet.standard.symbol d ≠ '/' →
      Alphabet.standard.symbol d = Alphabet.urlSafe.symbol d := by
  revert d
  decide

theorem symbol_urlSafe_eq {d : Fin 64} : Alphabet.urlSafe.symbol d ≠ '-' →
    Alphabet.urlSafe.symbol d ≠ '_' →
      Alphabet.urlSafe.symbol d = Alphabet.standard.symbol d := by
  revert d
  decide

end Passkey.Base64
