/-
Passkey/Json/Scan.lean

The words and strings of JSON text.

A scanner takes characters from the front of a text and returns what is left.
Each comes with the lemma that it leaves no more than it was given, on which
the readers of nested values rest.
-/
import Passkey.Json.Fault

namespace Passkey.Json

/-! ### Blanks and words -/

/-- The white space that JSON allows between tokens. -/
def isSpace (c : Char) : Bool :=
  c == ' ' || c == '\t' || c == '\n' || c == '\r'

/-- Drops white space. -/
def skipSpace (cs : List Char) : List Char :=
  cs.dropWhile isSpace

theorem length_skipSpace (cs : List Char) : (skipSpace cs).length ≤ cs.length :=
  (List.dropWhile_sublist _).length_le

theorem le_of_skipSpace {cs rest : List Char} {c : Char} (h : skipSpace cs = c :: rest) :
    (c :: rest).length ≤ cs.length :=
  h ▸ length_skipSpace cs

theorem lt_of_skipSpace {cs rest : List Char} {c : Char} (h : skipSpace cs = c :: rest) :
    rest.length < cs.length :=
  le_of_skipSpace h

/-- Takes the characters of a word whose first character was taken already. -/
def scanWord : List Char → List Char → Except Fault (List Char)
  | [], cs => .ok cs
  | _ :: _, [] => .error (.before .endInValue [])
  | w :: word, c :: cs => if c = w then scanWord word cs else .error (.at .wordDue (c :: cs))

theorem length_scanWord {word cs rest : List Char} (h : scanWord word cs = .ok rest) :
    rest.length ≤ cs.length := by
  induction word generalizing cs with
  | nil => simp only [scanWord, Except.ok.injEq] at h; simp [h]
  | cons w word ih =>
    cases cs with
    | nil => simp [scanWord] at h
    | cons c cs =>
      simp only [scanWord] at h
      split at h
      · exact Nat.le_succ_of_le (ih h)
      · simp at h

/-! ### Strings -/

/-- The value of a hexadecimal digit. -/
def hexValue? (c : Char) : Option Nat :=
  if '0' ≤ c ∧ c ≤ '9' then some (c.toNat - '0'.toNat)
  else if 'a' ≤ c ∧ c ≤ 'f' then some (c.toNat - 'a'.toNat + 10)
  else if 'A' ≤ c ∧ c ≤ 'F' then some (c.toNat - 'A'.toNat + 10)
  else none

/-- The value of four hexadecimal digits. -/
def hexFour? (a b c d : Char) : Option Nat := do
  return (((← hexValue? a) * 16 + (← hexValue? b)) * 16 + (← hexValue? c)) * 16 + (← hexValue? d)

/-- The fault of an escape without four hexadecimal digits.  With fewer than
four bytes left the text has ended; otherwise its place is behind four bytes. -/
def hexFault (cs : List Char) : Fault :=
  if byteCount cs < 4 then .before .endInString [] else ⟨.badEscape, some (byteCount cs - 4)⟩

/-- Takes the four digits of an escape. -/
def scanHex : List Char → Except Fault (Nat × List Char)
  | a :: b :: c :: d :: rest =>
    match hexFour? a b c d with
    | some n => .ok (n, rest)
    | none => .error (hexFault (a :: b :: c :: d :: rest))
  | cs => .error (hexFault cs)

theorem length_scanHex {cs rest : List Char} {n : Nat} (h : scanHex cs = .ok (n, rest)) :
    rest.length < cs.length := by
  unfold scanHex at h
  split at h
  · split at h
    · simp only [Except.ok.injEq, Prod.mk.injEq] at h
      simp only [← h.2, List.length_cons]
      omega
    · simp at h
  · simp at h

/-- The character that a one-letter escape means. -/
def shortEscape? (c : Char) : Option Char :=
  match c with
  | '"' => some '"'
  | '\\' => some '\\'
  | '/' => some '/'
  | 'b' => some '\x08'
  | 'f' => some '\x0c'
  | 'n' => some '\n'
  | 'r' => some '\r'
  | 't' => some '\t'
  | _ => none

/-- Takes the second half of a surrogate pair, whose first half is `high`. -/
def scanLowSurrogate (high : Nat) : List Char → Except Fault (Char × List Char)
  | [] => .error (.before .endInString [])
  | '\\' :: cs =>
    match cs with
    | [] => .error (.before .endInString [])
    | 'u' :: cs => do
      let (low, rest) ← scanHex cs
      if 0xDC00 ≤ low ∧ low ≤ 0xDFFF then
        .ok (Char.ofNat ((high - 0xD800) * 0x400 + (low - 0xDC00) + 0x10000), rest)
      else .error (.before .loneSurrogate rest)
    | cs => .error (.at .surrogateCutShort cs)
  | cs => .error (.at .surrogateCutShort cs)

theorem length_scanLowSurrogate {high : Nat} {cs rest : List Char} {c : Char}
    (h : scanLowSurrogate high cs = .ok (c, rest)) : rest.length < cs.length := by
  unfold scanLowSurrogate at h
  split at h
  · simp at h
  · split at h
    · simp at h
    · rename_i cs'
      cases hx : scanHex cs' with
      | error e => simp [hx, bind, Except.bind] at h
      | ok p =>
        obtain ⟨low, r⟩ := p
        simp only [hx, bind, Except.bind] at h
        split at h
        · simp only [Except.ok.injEq, Prod.mk.injEq] at h
          have := length_scanHex hx
          simp only [← h.2, List.length_cons]
          omega
        · simp at h
    · simp at h
  · simp at h

/-- Takes what follows the backslash of an escape. -/
def scanEscape : List Char → Except Fault (Char × List Char)
  | [] => .error (.before .endInString [])
  | 'u' :: cs => do
    let (n, rest) ← scanHex cs
    if 0xDC00 ≤ n ∧ n ≤ 0xDFFF then .error (.before .loneSurrogate rest)
    else if 0xD800 ≤ n ∧ n ≤ 0xDBFF then scanLowSurrogate n rest
    else .ok (Char.ofNat n, rest)
  | c :: cs =>
    match shortEscape? c with
    | some e => .ok (e, cs)
    | none => .error (.at .badEscape (c :: cs))

theorem length_scanEscape {cs rest : List Char} {c : Char} (h : scanEscape cs = .ok (c, rest)) :
    rest.length < cs.length := by
  unfold scanEscape at h
  split at h
  · simp at h
  · rename_i cs'
    cases hx : scanHex cs' with
    | error e => simp [hx, bind, Except.bind] at h
    | ok p =>
      obtain ⟨n, r⟩ := p
      have hr := length_scanHex hx
      simp only [hx, bind, Except.bind] at h
      split at h
      · simp at h
      · split at h
        · have := length_scanLowSurrogate h
          simp only [List.length_cons]; omega
        · simp only [Except.ok.injEq, Prod.mk.injEq] at h
          simp only [← h.2, List.length_cons]; omega
  · split at h
    · simp only [Except.ok.injEq, Prod.mk.injEq] at h
      simp [← h.2]
    · simp at h

/-- Takes the characters of a string, up to and with its closing quote. -/
def scanString : List Char → Except Fault (List Char × List Char)
  | [] => .error (.before .endInString [])
  | '"' :: rest => .ok ([], rest)
  | '\\' :: rest =>
    match _h : scanEscape rest with
    | .error f => .error f
    | .ok (c, rest') => (scanString rest').map fun (cs, left) => (c :: cs, left)
  | c :: rest =>
    if c < ' ' then .error (.before .rawControl rest)
    else (scanString rest).map fun (cs, left) => (c :: cs, left)
termination_by cs => cs.length
decreasing_by
  · have := length_scanEscape _h; simp only [List.length_cons]; omega
  · simp

theorem length_scanString {cs s rest : List Char} (h : scanString cs = .ok (s, rest)) :
    rest.length < cs.length := by
  fun_induction scanString cs generalizing s with
  | case1 => simp at h
  | case2 rest' => simp only [Except.ok.injEq, Prod.mk.injEq] at h; simp [h.2]
  | case3 => simp at h
  | case4 rest' c left he ih =>
    cases hs : scanString left with
    | error f => simp [hs, Except.map] at h
    | ok p =>
      obtain ⟨s', r⟩ := p
      simp only [hs, Except.map, Except.ok.injEq, Prod.mk.injEq] at h
      have h1 := ih (h.2 ▸ hs)
      have h2 := length_scanEscape he
      simp only [List.length_cons]; omega
  | case5 => simp at h
  | case6 c rest' _ _ _ ih =>
    cases hs : scanString rest' with
    | error f => simp [hs, Except.map] at h
    | ok p =>
      obtain ⟨s', r⟩ := p
      simp only [hs, Except.map, Except.ok.injEq, Prod.mk.injEq] at h
      have h1 := ih (h.2 ▸ hs)
      simp only [List.length_cons]; omega

end Passkey.Json
