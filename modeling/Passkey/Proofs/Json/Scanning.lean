/-
Passkey/Proofs/Json/Scanning.lean

Strings and numbers, taken from the front of a text.

A string ends at its closing quote, so scanning or skipping it is settled by the
grammar alone, in both directions.  Scanning gives the characters that the string
denotes, and skipping finds no fault in half a surrogate pair.

A number has no end of its own.  What is skipped is a number, but a number is
skipped whole only where it cannot go on, that is where white space, a comma, a
closing bracket or nothing follows (`Stops`).  Behind a value in JSON text
nothing else can follow.
-/
import Passkey.Proofs.Json.Grammar
import Passkey.Proofs.Json.RoundTrip
import Passkey.Proofs.Outcome

namespace Passkey.Json

open Outcome

/-! ### Strings -/

section Strings

variable {cs s raw rest : List Char} {c : Char} {n : Nat}

theorem scanHex_eq_ok_iff :
    scanHex cs = .ok (n, rest)
      ↔ ∃ a b c d, hexFour? a b c d = some n ∧ cs = a :: b :: c :: d :: rest := by
  constructor
  · intro h
    unfold scanHex at h
    split at h
    next a b c d left =>
      split at h
      next m hm =>
        cases h
        exact ⟨a, b, c, d, hm, rfl⟩
      · cases h
    · cases h
  · rintro ⟨a, b, c, d, h, rfl⟩
    rw [scanHex, h]

theorem scanLowSurrogate_eq_ok_iff {high : Nat} :
    scanLowSurrogate high cs = .ok (c, rest)
      ↔ ∃ low left, (0xDC00 ≤ low ∧ low ≤ 0xDFFF) ∧ scanHex left = .ok (low, rest) ∧
          c = Char.ofNat ((high - 0xD800) * 0x400 + (low - 0xDC00) + 0x10000) ∧
          cs = '\\' :: 'u' :: left := by
  constructor
  · intro h
    unfold scanLowSurrogate at h
    split at h
    · cases h
    · split at h
      · cases h
      next left =>
        obtain ⟨⟨low, rest'⟩, hhex, hok⟩ := bind_eq_ok_iff.mp h
        dsimp only at hok
        split at hok
        next hlow =>
          simp only [Except.ok.injEq, Prod.mk.injEq] at hok
          exact ⟨low, left, hlow, hok.2 ▸ hhex, hok.1.symm, rfl⟩
        · cases hok
      · cases h
    · cases h
  · rintro ⟨low, left, hlow, hhex, hc, rfl⟩
    rw [hc]
    exact bind_eq_ok_iff.mpr ⟨(low, rest), hhex, if_pos hlow⟩

theorem shortEscape?_ne {e : Char} (h : shortEscape? e = some c) : e ≠ 'u' := by
  rintro rfl
  cases h

theorem scanEscape_eq_ok_iff :
    scanEscape cs = .ok (c, rest) ↔ ∃ code, Escapes code c ∧ cs = code ++ rest := by
  constructor
  · intro h
    unfold scanEscape at h
    split at h
    · cases h
    next left =>
      obtain ⟨⟨n, rest'⟩, hhex, hok⟩ := bind_eq_ok_iff.mp h
      obtain ⟨a, b, c₁, d, hn, rfl⟩ := scanHex_eq_ok_iff.mp hhex
      dsimp only at hok
      split at hok
      · cases hok
      next hlow =>
        split at hok
        next hhigh =>
          obtain ⟨low, left', hlow', hhex', hc, rfl⟩ := scanLowSurrogate_eq_ok_iff.mp hok
          obtain ⟨a', b', c', d', hn', rfl⟩ := scanHex_eq_ok_iff.mp hhex'
          rw [hc]
          exact ⟨_, .pair hn hhigh hn' hlow', rfl⟩
        next hhigh =>
          cases hok
          exact ⟨_, .code hn (by omega), rfl⟩
    next e left hu =>
      split at h
      next hshort =>
        cases h
        exact ⟨_, .short hshort, rfl⟩
      · cases h
  · rintro ⟨code, hcode, rfl⟩
    cases hcode with
    | short h =>
      rw [List.singleton_append, scanEscape.eq_3 _ _ (shortEscape?_ne h), h]
    | code h hn =>
      refine bind_eq_ok_iff.mpr ⟨_, scanHex_eq_ok_iff.mpr ⟨_, _, _, _, h, rfl⟩, ?_⟩
      dsimp only
      rw [if_neg (by omega), if_neg (by omega)]
      rfl
    | pair h hhigh h' hlow =>
      refine bind_eq_ok_iff.mpr ⟨_, scanHex_eq_ok_iff.mpr ⟨_, _, _, _, h, rfl⟩, ?_⟩
      dsimp only
      rw [if_neg (by omega), if_pos hhigh]
      exact scanLowSurrogate_eq_ok_iff.mpr
        ⟨_, _, hlow, scanHex_eq_ok_iff.mpr ⟨_, _, _, _, h', rfl⟩, rfl, rfl⟩

/-- **A string is scanned up to its closing quote**, as the characters that it denotes. -/
theorem scanString_eq_ok_iff :
    scanString cs = .ok (s, rest) ↔ ∃ raw, Denotes raw s ∧ cs = raw ++ '"' :: rest := by
  constructor
  · intro h
    fun_induction scanString cs generalizing s with
    | case1 => cases h
    | case2 left =>
      cases h
      exact ⟨[], .nil, rfl⟩
    | case3 => cases h
    | case4 left c left' he ih =>
      obtain ⟨⟨s', rest'⟩, hs, heq⟩ := map_eq_ok_iff.mp h
      cases heq
      obtain ⟨code, hcode, rfl⟩ := scanEscape_eq_ok_iff.mp he
      obtain ⟨raw, hraw, rfl⟩ := ih hs
      exact ⟨_, .escape hcode hraw, by simp⟩
    | case5 => cases h
    | case6 c left hquote hslash hc ih =>
      obtain ⟨⟨s', rest'⟩, hs, heq⟩ := map_eq_ok_iff.mp h
      cases heq
      obtain ⟨raw, hraw, rfl⟩ := ih hs
      exact ⟨c :: raw, .plain hc (fun h => hquote h) (fun h => hslash h) hraw, rfl⟩
  · rintro ⟨raw, hraw, rfl⟩
    induction hraw with
    | nil => rw [List.nil_append, scanString]
    | plain hc hquote hslash _ ih =>
      rw [List.cons_append, scanString.eq_4 _ _ hquote hslash, if_neg hc, ih]
      rfl
    | escape hcode _ ih =>
      rw [List.cons_append, List.append_assoc,
        scanString_backslash (scanEscape_eq_ok_iff.mpr ⟨_, hcode, rfl⟩), ih]
      rfl

theorem skipString_code {a b c d : Char} (h : hexFour? a b c d = some n) (cs : List Char) :
    skipString ('\\' :: 'u' :: a :: b :: c :: d :: cs) = skipString cs := by
  have hhex : scanHex (a :: b :: c :: d :: cs) = .ok (n, cs) :=
    scanHex_eq_ok_iff.mpr ⟨a, b, c, d, h, rfl⟩
  rw [skipString]
  split
  next f hf =>
    rw [hhex] at hf
    cases hf
  next m left hm =>
    rw [hhex] at hm
    cases hm
    rfl

theorem exists_of_skipString (h : skipString cs = .ok rest) :
    ∃ body, IsBody body ∧ cs = body ++ '"' :: rest := by
  fun_induction skipString cs with
  | case1 => cases h
  | case2 left =>
    cases h
    exact ⟨[], .nil, rfl⟩
  | case3 => cases h
  | case4 => cases h
  | case5 left n left' hhex ih =>
    obtain ⟨a, b, c, d, hn, rfl⟩ := scanHex_eq_ok_iff.mp hhex
    obtain ⟨body, hbody, rfl⟩ := ih h
    exact ⟨_, .escape (.code hn) hbody, rfl⟩
  | case6 e left hu hshort ih =>
    obtain ⟨c, hc⟩ := Option.isSome_iff_exists.mp hshort
    obtain ⟨body, hbody, rfl⟩ := ih h
    exact ⟨_, .escape (.short hc) hbody, rfl⟩
  | case7 => cases h
  | case8 => cases h
  | case9 c left hquote hend hcode hshort hc ih =>
    obtain ⟨body, hbody, rfl⟩ := ih h
    refine ⟨c :: body, .plain hc hquote ?_ hbody, rfl⟩
    -- behind a backslash another branch would have been taken
    rintro rfl
    rcases hleft : body ++ '"' :: rest with - | ⟨e, left⟩
    · exact List.cons_ne_nil _ _ (List.append_eq_nil_iff.mp hleft).2
    · exact hshort e left rfl hleft

/-- **A string is passed over up to its closing quote**, whatever its escapes name. -/
theorem skipString_eq_ok_iff :
    skipString cs = .ok rest ↔ ∃ body, IsBody body ∧ cs = body ++ '"' :: rest := by
  refine ⟨exists_of_skipString, ?_⟩
  rintro ⟨body, hbody, rfl⟩
  induction hbody with
  | nil => rw [List.nil_append, skipString]
  | plain hc hquote hslash _ ih =>
    rw [List.cons_append, skipString.eq_6 _ _ hquote, if_neg hc, ih]
    all_goals
      intros
      exact absurd ‹_› hslash
  | escape hcode _ ih =>
    rw [List.cons_append, List.append_assoc]
    cases hcode with
    | short h =>
      rw [List.singleton_append, skipString.eq_5 _ _ (shortEscape?_ne h), h]
      exact ih
    | code h => exact (skipString_code h _).trans ih

end Strings

/-! ### Where a value ends -/

/-- No number goes on here: white space, a comma, a closing bracket or nothing follows. -/
def Stops : List Char → Prop
  | [] => True
  | c :: _ => isSpace c = true ∨ c = ',' ∨ c = ']' ∨ c = '}'

/-- No digit follows. -/
def NoDigit (cs : List Char) : Prop :=
  ∀ c ∈ cs.head?, c.isDigit = false

section Stops

variable {c : Char} {rest : List Char}

theorem Stops.head (h : Stops (c :: rest)) :
    c.isDigit = false ∧ c ≠ '.' ∧ c ≠ 'e' ∧ c ≠ 'E' := by
  have hcases : c = ' ' ∨ c = '\t' ∨ c = '\n' ∨ c = '\r' ∨ c = ',' ∨ c = ']' ∨ c = '}' := by
    simpa [Stops, isSpace, or_assoc] using h
  rcases hcases with rfl | rfl | rfl | rfl | rfl | rfl | rfl
  all_goals decide

theorem Stops.noDigit (h : Stops rest) : NoDigit rest := by
  rcases rest with - | ⟨c, rest⟩
  · nofun
  · simpa [NoDigit] using h.head.1

/-- White space stops a number, and so does what follows if there is none. -/
theorem AllSpace.stops {ws : List Char} (h : AllSpace ws) (hrest : Stops rest) :
    Stops (ws ++ rest) := by
  rcases ws with - | ⟨c, ws⟩
  · exact hrest
  · exact .inl (h c List.mem_cons_self)

end Stops

/-! ### Numbers -/

section Numbers

open Decimal

variable {c : Char} {cs ds rest : List Char}

theorem isSome_digit? (c : Char) : (digit? c).isSome = c.isDigit := by
  rcases h : c.isDigit with - | -
  · rw [Option.isSome_eq_false_iff, Option.isNone_iff_eq_none, digit?, if_neg]
    intro hc
    have hdigit : c.isDigit = true := by
      rw [Char.isDigit, Bool.and_eq_true, decide_eq_true_eq, decide_eq_true_eq]
      exact hc
    rw [h] at hdigit
    cases hdigit
  · rw [digit?_of_isDigit h]
    rfl

theorem exists_allDigits (cs : List Char) : ∃ ds, AllDigits ds ∧ cs = ds ++ skipDigits cs := by
  refine ⟨cs.takeWhile (digit? · |>.isSome), ?_, List.takeWhile_append_dropWhile.symm⟩
  intro c hc
  have hsome : (digit? c).isSome = true :=
    List.mem_takeWhile_imp (p := fun c => (digit? c).isSome) hc
  rwa [isSome_digit?] at hsome

/-- Digits are dropped up to where none follows. -/
theorem skipDigits_append (hds : AllDigits ds) (hrest : NoDigit rest) :
    skipDigits (ds ++ rest) = rest := by
  rw [skipDigits, List.dropWhile_append_of_pos (fun c hc => (isSome_digit? c).trans (hds c hc))]
  rcases rest with - | ⟨c, rest⟩
  · rfl
  · refine List.dropWhile_cons_of_neg ?_
    rw [isSome_digit?, hrest c rfl]
    exact Bool.false_ne_true

theorem exists_of_skipExponent (h : skipExponent cs = .ok rest) :
    ∃ sign c ds, (sign = [] ∨ sign = ['+'] ∨ sign = ['-']) ∧ c.isDigit = true ∧ AllDigits ds ∧
      cs = sign ++ c :: (ds ++ rest) := by
  rw [skipExponent.eq_def] at h
  dsimp only at h
  split at h
  · cases h
  next c left hcs =>
    split at h
    next hc =>
      cases h
      rw [isSome_digit?] at hc
      obtain ⟨ds, hds, hleft⟩ := exists_allDigits left
      rw [hleft] at hcs
      split at hcs
      · exact ⟨['+'], c, ds, by simp, hc, hds, congrArg _ hcs⟩
      · exact ⟨['-'], c, ds, by simp, hc, hds, congrArg _ hcs⟩
      · exact ⟨[], c, ds, by simp, hc, hds, hcs⟩
    · cases h

theorem skipExponent_append {sign : List Char} (hsign : sign = [] ∨ sign = ['+'] ∨ sign = ['-'])
    (hc : c.isDigit = true) (hds : AllDigits ds) (hrest : NoDigit rest) :
    skipExponent (sign ++ c :: (ds ++ rest)) = .ok rest := by
  have hdigits : (if (digit? c).isSome then Except.ok (skipDigits (ds ++ rest))
      else Except.error (Fault.at .badNumber (c :: (ds ++ rest)))) = .ok rest := by
    rw [isSome_digit?, if_pos hc, skipDigits_append hds hrest]
  rcases hsign with rfl | rfl | rfl
  · have hplus : c ≠ '+' := ne_of_isDigit hc (by decide)
    have hminus : c ≠ '-' := ne_of_isDigit hc (by decide)
    rw [List.nil_append, skipExponent.eq_def]
    simpa [hplus, hminus] using hdigits
  · exact hdigits
  · exact hdigits

theorem exists_of_skipOptionalExponent (h : skipOptionalExponent cs = .ok rest) :
    ∃ exponent, IsExponent exponent ∧ cs = exponent ++ rest := by
  rw [skipOptionalExponent.eq_def] at h
  split at h
  · obtain ⟨sign, c, ds, hsign, hc, hds, rfl⟩ := exists_of_skipExponent h
    exact ⟨_, .some (.inl rfl) hsign hc hds, by simp⟩
  · obtain ⟨sign, c, ds, hsign, hc, hds, rfl⟩ := exists_of_skipExponent h
    exact ⟨_, .some (.inr rfl) hsign hc hds, by simp⟩
  · cases h
    exact ⟨[], .none, rfl⟩

theorem skipOptionalExponent_append {exponent : List Char} (h : IsExponent exponent)
    (hrest : Stops rest) : skipOptionalExponent (exponent ++ rest) = .ok rest := by
  cases h with
  | none =>
    rcases rest with - | ⟨c, rest⟩
    · rfl
    · obtain ⟨-, -, he, hE⟩ := hrest.head
      rw [List.nil_append, skipOptionalExponent.eq_3]
      · rintro left heq
        exact he (List.head_eq_of_cons_eq heq)
      · rintro left heq
        exact hE (List.head_eq_of_cons_eq heq)
  | some he hsign hc hds =>
    have hskip := skipExponent_append hsign hc hds hrest.noDigit
    rw [List.cons_append, List.append_assoc, List.cons_append]
    rcases he with rfl | rfl
    · exact hskip
    · exact hskip

/-- An exponent is no digit, whether or not there is one. -/
theorem IsExponent.noDigit {exponent : List Char} (h : IsExponent exponent) (hrest : Stops rest) :
    NoDigit (exponent ++ rest) := by
  cases h with
  | none => exact hrest.noDigit
  | some he =>
    intro c hc
    obtain rfl := Option.some.inj hc
    rcases he with rfl | rfl
    all_goals rfl

theorem exists_of_skipFraction (h : skipFraction cs = .ok rest) :
    ∃ fraction, IsFraction fraction ∧ cs = fraction ++ rest := by
  rw [skipFraction.eq_def] at h
  split at h
  · split at h
    · cases h
    next c left =>
      split at h
      next hc =>
        rw [isSome_digit?] at hc
        obtain ⟨ds, hds, hleft⟩ := exists_allDigits left
        obtain ⟨exponent, hexponent, hskipped⟩ := exists_of_skipOptionalExponent h
        refine ⟨_, .some hc hds hexponent, ?_⟩
        rw [hleft, hskipped]
        simp
      · cases h
  · obtain ⟨exponent, hexponent, rfl⟩ := exists_of_skipOptionalExponent h
    exact ⟨exponent, .none hexponent, rfl⟩

theorem skipFraction_append {fraction : List Char} (h : IsFraction fraction)
    (hrest : Stops rest) : skipFraction (fraction ++ rest) = .ok rest := by
  cases h with
  | none h =>
    rw [skipFraction.eq_3]
    · exact skipOptionalExponent_append h hrest
    -- neither an exponent nor what stops a number starts with a point
    · intro cs heq
      cases h with
      | none =>
        rcases rest with - | ⟨c, rest⟩
        · cases heq
        · exact hrest.head.2.1 (List.head_eq_of_cons_eq heq)
      | some he =>
        rcases he with rfl | rfl
        all_goals cases heq
  | @some c ds exponent hc hds h =>
    rw [List.cons_append, List.cons_append, List.append_assoc, skipFraction, isSome_digit?,
      if_pos hc, skipDigits_append hds (h.noDigit hrest)]
    exact skipOptionalExponent_append h hrest

/-- A fraction is no digit, whether or not there is one. -/
theorem IsFraction.noDigit {fraction : List Char} (h : IsFraction fraction) (hrest : Stops rest) :
    NoDigit (fraction ++ rest) := by
  cases h with
  | none h => exact h.noDigit hrest
  | some =>
    intro c hc
    obtain rfl := Option.some.inj hc
    rfl

theorem digit?_eq_zero_iff : digit? c = some 0 ↔ c = '0' := by
  constructor
  · intro h
    rw [digit?] at h
    split at h
    next hc =>
      have hlo : 48 ≤ c.toNat := hc.1
      have hzero : c.toNat - 48 = 0 := Option.some.inj h
      exact Char.toNat_inj.mp (show c.toNat = 48 by omega)
    · cases h
  · rintro rfl
    rfl

/-- **What is skipped as a number is one.** -/
theorem exists_of_skipNumber (h : skipNumber cs = .ok rest) :
    ∃ number, IsUnsigned number ∧ cs = number ++ rest := by
  rw [skipNumber.eq_def] at h
  split at h
  · cases h
  next c left =>
    have zero {left : List Char} (hc : digit? c = some 0) (h : skipFraction left = .ok rest) :
        ∃ number, IsUnsigned number ∧ c :: left = number ++ rest := by
      obtain ⟨fraction, hfraction, rfl⟩ := exists_of_skipFraction h
      obtain rfl := digit?_eq_zero_iff.mp hc
      exact ⟨_, ⟨['0'], fraction, .zero, hfraction, rfl⟩, by simp⟩
    split at h
    · cases h
    next hc =>
      split at h
      · exact zero hc h
      · split at h
        · cases h
        · exact zero hc h
    next d hzero hc =>
      obtain ⟨ds, hds, hleft⟩ := exists_allDigits left
      obtain ⟨fraction, hfraction, hskipped⟩ := exists_of_skipFraction h
      have hdigit : c.isDigit = true := by
        rw [← isSome_digit?, hc]
        rfl
      have hne : c ≠ '0' := by
        rintro rfl
        rw [digit?_eq_zero_iff.mpr rfl] at hc
        exact hzero (Option.some.inj hc).symm
      refine ⟨_, ⟨c :: ds, fraction, .digits hdigit hne hds, hfraction, rfl⟩, ?_⟩
      rw [hleft, hskipped]
      simp

/-- **A number is skipped** where it cannot go on. -/
theorem skipNumber_append {number : List Char} (h : IsUnsigned number) (hrest : Stops rest) :
    skipNumber (number ++ rest) = .ok rest := by
  obtain ⟨whole, fraction, hwhole, hfraction, rfl⟩ := h
  have hskip := skipFraction_append hfraction hrest
  have hnoDigit := hfraction.noDigit hrest
  rw [List.append_assoc]
  cases hwhole with
  | zero =>
    rw [List.singleton_append]
    rcases hbehind : fraction ++ rest with - | ⟨c, left⟩
    · rw [hbehind] at hskip
      exact hskip
    · rw [hbehind] at hskip hnoDigit
      show (if (digit? c).isSome then _ else _) = _
      rw [isSome_digit?, hnoDigit c rfl, if_neg Bool.false_ne_true]
      exact hskip
  | @digits c ds hc hzero hds =>
    rw [List.cons_append, skipNumber.eq_def]
    dsimp only
    split
    next hnone =>
      have hsome := isSome_digit? c
      rw [hnone, hc] at hsome
      cases hsome
    next h0 => exact absurd (digit?_eq_zero_iff.mp h0) hzero
    · rw [skipDigits_append hds hnoDigit]
      exact hskip

end Numbers

end Passkey.Json
