/-
Passkey/Proofs/Json/Scalars.lean

Strings and integers read back as they are written.

A string is written with escapes, and the scanner undoes one escape after the
other up to the closing quote.  An integer is written in digits, and the
scanner takes digits as long as there are any: what follows must not go on
with the number.  In the text of a value only a comma or a closing bracket
can follow another value (`Ends`), so both come back whatever surrounds them.
-/
import Passkey.Json.Reader

namespace Passkey.Json

open Decimal

/-! ### Readers at work -/

/-- A reader takes the front of a text, which says `a`, and leaves the rest. -/
def Reads {α : Type} (reader : Reader α) (cs : List Char) (a : α) (rest : List Char) : Prop :=
  ∃ h, reader cs = .ok ⟨a, rest, h⟩

/-- What may follow a value: nothing, a comma or a closing bracket. -/
def Ends : List Char → Prop
  | [] => True
  | c :: _ => c = ',' ∨ c = ']' ∨ c = '}'

/-! ### Strings -/

/-- A character comes back from its two hexadecimal digits. -/
theorem hexFour?_hexDigit {c : Char} (h : c < ' ') :
    hexFour? '0' '0' (hexDigit (c.toNat / 16)) (hexDigit (c.toNat % 16)) = some c.toNat := by
  have hall : ∀ n < 32, hexFour? '0' '0' (hexDigit (n / 16)) (hexDigit (n % 16)) = some n := by
    decide
  exact hall c.toNat h

theorem scanEscape_control {c : Char} (h : c < ' ') (rest : List Char) :
    scanEscape ('u' :: '0' :: '0' :: hexDigit (c.toNat / 16) :: hexDigit (c.toNat % 16) :: rest)
      = .ok (c, rest) := by
  have hlt : c.toNat < 32 := h
  have hhex : scanHex ('0' :: '0' :: hexDigit (c.toNat / 16) :: hexDigit (c.toNat % 16) :: rest)
      = .ok (c.toNat, rest) := by
    rw [scanHex, hexFour?_hexDigit h]
  simp only [scanEscape, hhex, bind, Except.bind]
  rw [if_neg (by omega), if_neg (by omega), Char.ofNat_toNat]

theorem scanString_backslash {cs rest : List Char} {c : Char}
    (h : scanEscape cs = .ok (c, rest)) :
    scanString ('\\' :: cs) = (scanString rest).map fun (s, left) => (c :: s, left) := by
  rw [scanString]
  split
  · next f hf =>
    rw [h] at hf
    cases hf
  · next d left hd =>
    rw [h] at hd
    cases hd
    rfl

/-- The scanner undoes one escape. -/
theorem scanString_escapeChar (c : Char) (rest : List Char) :
    scanString (escapeChar c ++ rest)
      = (scanString rest).map fun (s, left) => (c :: s, left) := by
  have short {e : Char} (h : shortEscape? e = some c) (hu : e ≠ 'u') :
      scanString ('\\' :: e :: rest)
        = (scanString rest).map fun (s, left) => (c :: s, left) := by
    refine scanString_backslash ?_
    rw [scanEscape.eq_3 _ _ hu, h]
  rw [escapeChar]
  split
  · next hc => exact short (by rw [hc]; rfl) (by decide)
  split
  · next hc => exact short (by rw [hc]; rfl) (by decide)
  split
  · next hc => exact short (by rw [hc]; rfl) (by decide)
  split
  · next hc => exact short (by rw [hc]; rfl) (by decide)
  split
  · next hc => exact short (by rw [hc]; rfl) (by decide)
  split
  · next hc => exact short (by rw [hc]; rfl) (by decide)
  split
  · next hc => exact short (by rw [hc]; rfl) (by decide)
  split
  · next hc => exact scanString_backslash (scanEscape_control hc rest)
  · next hq hb _ _ _ _ _ hc => rw [List.singleton_append, scanString.eq_4 c rest hq hb, if_neg hc]

/-- **The characters of a string come back**, up to the closing quote. -/
theorem scanString_escape (cs rest : List Char) :
    scanString (cs.flatMap escapeChar ++ '"' :: rest) = .ok (cs, rest) := by
  induction cs with
  | nil => rw [List.flatMap_nil, List.nil_append, scanString]
  | cons c cs ih =>
    rw [List.flatMap_cons, List.append_assoc, scanString_escapeChar, ih]
    rfl

theorem readString_of_scanString {cs s rest : List Char} (h : scanString cs = .ok (s, rest)) :
    Reads readString cs (String.ofList s) rest := by
  refine ⟨length_scanString h, ?_⟩
  rw [readString]
  split
  · next f hf =>
    rw [h] at hf
    cases hf
  · next s' rest' hs =>
    rw [h] at hs
    cases hs
    rfl

/-- A string comes back from behind its opening quote. -/
theorem reads_string (s : String) (rest : List Char) :
    Reads readString (s.toList.flatMap escapeChar ++ '"' :: rest) s rest := by
  have h := readString_of_scanString (scanString_escape s.toList rest)
  rwa [String.ofList_toList] at h

/-! ### Integers -/

/-- The integers that fit a machine word, with or without a sign. -/
def IsWord (i : Int) : Prop :=
  -0x8000000000000000 ≤ i ∧ i ≤ 0xFFFFFFFFFFFFFFFF

theorem digit?_of_isDigit {c : Char} (h : c.isDigit = true) :
    digit? c = some (c.toNat - '0'.toNat) := by
  rw [Char.isDigit, Bool.and_eq_true, decide_eq_true_eq, decide_eq_true_eq] at h
  exact if_pos h

theorem digit?_of_ends {c : Char} (h : c = ',' ∨ c = ']' ∨ c = '}') : digit? c = none := by
  rcases h with rfl | rfl | rfl
  · rfl
  · rfl
  · rfl

theorem le_ofDigitChars (cs : List Char) (n : Nat) : n ≤ Nat.ofDigitChars 10 cs n := by
  induction cs generalizing n with
  | nil => exact Nat.le_refl n
  | cons c cs ih =>
    have hstep : n ≤ 10 * n + (c.toNat - '0'.toNat) := by omega
    exact Nat.le_trans hstep (ih _)

/-- The digits of a number do not start with a zero, but for zero itself. -/
theorem toDigits_head {n : Nat} {cs : List Char} (h : Nat.toDigits 10 n = '0' :: cs) :
    n = 0 ∧ cs = [] := by
  induction n using Nat.strongRecOn generalizing cs with
  | ind n ih =>
    rcases Nat.lt_or_ge n 10 with hlt | hge
    · rw [Nat.toDigits_of_lt_base hlt, List.cons.injEq] at h
      have hall : ∀ n < 10, n.digitChar = '0' → n = 0 := by decide
      exact ⟨hall n hlt h.1, h.2.symm⟩
    · rw [Nat.toDigits_of_base_le (by decide) hge] at h
      rcases hd : Nat.toDigits 10 (n / 10) with - | ⟨d, ds⟩
      · exact absurd hd Nat.toDigits_ne_nil
      · rw [hd, List.cons_append, List.cons.injEq] at h
        obtain ⟨hz, -⟩ := ih (n / 10) (by omega) (h.1 ▸ hd)
        omega

section Numbers

variable {negative : Bool} {n s : Nat} {cs rest : List Char}

/-- A number ends where a value ends. -/
theorem scanWhole_ends (h : Ends rest) :
    scanWhole negative s rest = .ok (integerOf negative s, rest) := by
  rcases rest with - | ⟨c, rest⟩
  · rfl
  · rw [scanWhole, digit?_of_ends h]
    rcases h with rfl | rfl | rfl
    · rfl
    · rfl
    · rfl

/-- The scanner takes all digits of a number that fits a machine word. -/
theorem scanWhole_digits (hcs : ∀ c ∈ cs, c.isDigit = true)
    (hle : Nat.ofDigitChars 10 cs s ≤ maxSignificand) (h : Ends rest) :
    scanWhole negative s (cs ++ rest)
      = .ok (integerOf negative (Nat.ofDigitChars 10 cs s), rest) := by
  induction cs generalizing s with
  | nil => exact scanWhole_ends h
  | cons c cs ih =>
    have hc := digit?_of_isDigit (hcs c List.mem_cons_self)
    have hfits : 10 * s + (c.toNat - '0'.toNat) ≤ maxSignificand :=
      Nat.le_trans (le_ofDigitChars cs _) hle
    rw [List.cons_append, scanWhole, hc]
    simp only [if_pos hfits]
    exact ih (fun d hd => hcs d (List.mem_cons_of_mem c hd)) hle

theorem scanUnsigned_of_digit {c : Char} {d : Nat} (h : digit? c = some (d + 1)) :
    scanUnsigned negative (c :: cs) = scanWhole negative (d + 1) cs := by
  rw [scanUnsigned.eq_def]
  simp only [h]

/-- **The digits of a number come back.** -/
theorem scanUnsigned_toDigits (negative : Bool) (hle : n ≤ maxSignificand) (h : Ends rest) :
    scanUnsigned negative (Nat.toDigits 10 n ++ rest) = .ok (integerOf negative n, rest) := by
  have hval : Nat.ofDigitChars 10 (Nat.toDigits 10 n) 0 = n := Nat.ofDigitChars_ten_toDigits
  have hdigits : ∀ c ∈ Nat.toDigits 10 n, c.isDigit = true := fun c hc =>
    Nat.isDigit_of_mem_toDigits (by decide) (by decide) hc
  rcases hd : Nat.toDigits 10 n with - | ⟨c, cs⟩
  · exact absurd hd Nat.toDigits_ne_nil
  rw [hd] at hval hdigits
  by_cases hz : c = '0'
  · -- a leading zero stands alone, and only the text of zero has one
    subst hz
    obtain ⟨rfl, rfl⟩ := toDigits_head hd
    rcases rest with - | ⟨c, rest⟩
    · rfl
    · show (if (digit? c).isSome then _ else scanAfterWhole negative 0 (c :: rest)) = _
      rw [digit?_of_ends h]
      rcases h with rfl | rfl | rfl
      · rfl
      · rfl
      · rfl
  · have hc := digit?_of_isDigit (hdigits c List.mem_cons_self)
    have hpos : c.toNat - '0'.toNat ≠ 0 := by
      intro h0
      refine hz (Char.toNat_inj.mp ?_)
      have hge : '0'.toNat ≤ c.toNat := by
        have hb := hdigits c List.mem_cons_self
        rw [Char.isDigit, Bool.and_eq_true, decide_eq_true_eq] at hb
        exact hb.1
      omega
    have hval' : Nat.ofDigitChars 10 cs (c.toNat - '0'.toNat) = n := by
      rw [← hval, Nat.ofDigitChars_cons, Nat.mul_zero, Nat.zero_add]
    obtain ⟨d, hd'⟩ := Nat.exists_eq_succ_of_ne_zero hpos
    rw [hd'] at hc hval'
    rw [List.cons_append, scanUnsigned_of_digit hc,
      scanWhole_digits (fun e he => hdigits e (List.mem_cons_of_mem c he)) (hval'.symm ▸ hle) h,
      hval']

theorem reads_unsigned (negative : Bool) (hle : n ≤ maxSignificand) (h : Ends rest) :
    Reads (readUnsigned negative) (Nat.toDigits 10 n ++ rest) (.num (integerOf negative n))
      rest := by
  have hs := scanUnsigned_toDigits negative hle h
  refine ⟨length_scanUnsigned hs, ?_⟩
  rw [readUnsigned]
  split
  · next f hf =>
    rw [hs] at hf
    cases hf
  · next m left hm =>
    rw [hs] at hm
    cases hm
    rfl

end Numbers

end Passkey.Json
