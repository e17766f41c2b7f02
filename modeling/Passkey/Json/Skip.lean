/-
Passkey/Json/Skip.lean

Passing over a JSON value that nobody asked for.

A skipped value has to be well formed, but it is not decoded: its numbers may
be out of range, its escapes may name half a surrogate pair, and its arrays
and objects may be nested to any depth, because the open ones are kept in a
list instead of being read by recursion.
-/
import Passkey.Json.Reader

namespace Passkey.Json

/-! ### Strings and numbers -/

/-- Passes over the rest of a string, up to and with its closing quote. -/
def skipString : List Char → Except Fault (List Char)
  | [] => .error (.before .endInString [])
  | '"' :: rest => .ok rest
  | ['\\'] => .error (.before .endInString [])
  | '\\' :: 'u' :: rest =>
    match _h : scanHex rest with
    | .error f => .error f
    | .ok (_, left) => skipString left
  | '\\' :: c :: rest =>
    if (shortEscape? c).isSome then skipString rest else .error (.at .badEscape (c :: rest))
  | c :: rest => if c < ' ' then .error (.before .rawControl (c :: rest)) else skipString rest
termination_by cs => cs.length
decreasing_by
  · have := length_scanHex _h; simp only [List.length_cons]; omega
  · simp only [List.length_cons]; omega
  · simp

theorem length_skipString {cs rest : List Char} (h : skipString cs = .ok rest) :
    rest.length < cs.length := by
  fun_induction skipString cs with
  | case1 => simp at h
  | case2 left => simp only [Except.ok.injEq] at h; simp [h]
  | case3 => simp at h
  | case4 => simp at h
  | case5 left n left' hs ih =>
    have h1 := ih h
    have h2 := length_scanHex hs
    simp only [List.length_cons]; omega
  | case6 c left _ _ ih =>
    have h1 := ih h
    simp only [List.length_cons]; omega
  | case7 => simp at h
  | case8 => simp at h
  | case9 c left _ _ _ _ _ ih =>
    have h1 := ih h
    simp only [List.length_cons]; omega

/-- Passes over an exponent, behind its letter. -/
def skipExponent (cs : List Char) : Except Fault (List Char) :=
  let cs := match cs with
    | '+' :: cs => cs
    | '-' :: cs => cs
    | cs => cs
  match cs with
  | [] => .error (.at .badNumber [])
  | c :: rest =>
    if (Decimal.digit? c).isSome then .ok (skipDigits rest) else .error (.at .badNumber (c :: rest))

/-- Passes over an exponent, if one follows. -/
def skipOptionalExponent : List Char → Except Fault (List Char)
  | 'e' :: cs => skipExponent cs
  | 'E' :: cs => skipExponent cs
  | cs => .ok cs

/-- Passes over a fraction and an exponent, if they follow. -/
def skipFraction : List Char → Except Fault (List Char)
  | '.' :: cs =>
    match cs with
    | [] => .error (.at .badNumber [])
    | c :: rest =>
      if (Decimal.digit? c).isSome then skipOptionalExponent (skipDigits rest)
      else .error (.at .badNumber (c :: rest))
  | cs => skipOptionalExponent cs

/-- Passes over a number without its sign. -/
def skipNumber : List Char → Except Fault (List Char)
  | [] => .error (.at .badNumber [])
  | c :: cs =>
    match Decimal.digit? c with
    | none => .error (.at .badNumber (c :: cs))
    | some 0 =>
      match cs with
      | [] => skipFraction []
      | c' :: _ =>
        if (Decimal.digit? c').isSome then .error (.at .badNumber cs) else skipFraction cs
    | some _ => skipFraction (skipDigits cs)

section Lengths

variable {cs rest : List Char}

theorem length_skipExponent (h : skipExponent cs = .ok rest) : rest.length ≤ cs.length := by
  unfold skipExponent at h
  simp only at h
  split at h
  · simp at h
  · rename_i c left hc
    have hle : (c :: left).length ≤ cs.length := by
      rw [← hc]
      split <;> simp
    split at h
    · simp only [Except.ok.injEq] at h
      have := length_skipDigits left
      rw [← h]
      simp only [List.length_cons] at hle
      omega
    · simp at h

theorem length_skipOptionalExponent (h : skipOptionalExponent cs = .ok rest) :
    rest.length ≤ cs.length := by
  unfold skipOptionalExponent at h
  split at h
  · exact Nat.le_succ_of_le (length_skipExponent h)
  · exact Nat.le_succ_of_le (length_skipExponent h)
  · simp_all

theorem length_skipFraction (h : skipFraction cs = .ok rest) : rest.length ≤ cs.length := by
  unfold skipFraction at h
  split at h
  · split at h
    · simp at h
    · split at h
      · exact Nat.le_trans
          (Nat.le_trans (length_skipOptionalExponent h) (length_skipDigits _)) (by simp; omega)
      · simp at h
  · exact length_skipOptionalExponent h

theorem length_skipNumber (h : skipNumber cs = .ok rest) : rest.length < cs.length := by
  unfold skipNumber at h
  split at h
  · simp at h
  · split at h
    · simp at h
    · split at h
      · exact Nat.lt_succ_of_le (length_skipFraction h)
      · split at h
        · simp at h
        · exact Nat.lt_succ_of_le (length_skipFraction h)
    · exact Nat.lt_succ_of_le
        (Nat.le_trans (length_skipFraction h) (length_skipDigits _))

end Lengths

/-! ### Values -/

/-- An array or object that is still open. -/
inductive Container where
  | array
  | object
deriving DecidableEq, Repr

namespace Container

/-- The character that closes it. -/
def closer : Container → Char
  | array => ']'
  | object => '}'

/-- The fault of a text that ends inside it. -/
def cutShort : Container → Cause
  | array => .endInArray
  | object => .endInObject

/-- The fault of an item that neither a comma nor the closer follows. -/
def separatorDue : Container → Cause
  | array => .commaOrBracketDue
  | object => .commaOrBraceDue

/-- Passes over what comes before a value: nothing in an array, a name and a
colon in an object. -/
def skipLabel (k : Container) (cs : List Char) : Except Fault (List Char) :=
  match k with
  | array => .ok cs
  | object =>
    match skipSpace cs with
    | [] => .error (.at .endInObject [])
    | '"' :: rest =>
      match skipString rest with
      | .error f => .error f
      | .ok rest => (readColon rest).map (·.rest)
    | c :: rest => .error (.at .nameDue (c :: rest))

theorem length_skipLabel {k : Container} {cs rest : List Char} (h : k.skipLabel cs = .ok rest) :
    rest.length ≤ cs.length := by
  unfold skipLabel at h
  split at h
  · simp_all
  · split at h
    · simp at h
    · rename_i left hs
      split at h
      · simp at h
      · rename_i left' hl
        cases hc : readColon left' with
        | error f => simp [hc, Except.map] at h
        | ok p =>
          simp only [hc, Except.map, Except.ok.injEq] at h
          have h1 := p.shorter
          have h2 := length_skipString hl
          have h3 := length_skipSpace cs
          simp only [hs, List.length_cons] at h3
          rw [← h]
          omega
    · simp at h

end Container

/-- Where a skip stands: before a value, behind a value, or behind the
character that opened the innermost container. -/
inductive SkipPoint where
  | beforeValue
  | behindValue
  | behindOpener
deriving DecidableEq, Repr

/-- Going on from behind an opener takes no character, so that point weighs more. -/
def SkipPoint.weight : SkipPoint → Nat
  | beforeValue => 0
  | behindValue => 0
  | behindOpener => 1

/-- A value that is neither an array nor an object is passed over. -/
def skipScalar (c : Char) (rest : List Char) : Except Fault (List Char) :=
  match c with
  | 'n' => scanWord "ull".toList rest
  | 't' => scanWord "rue".toList rest
  | 'f' => scanWord "alse".toList rest
  | '"' => skipString rest
  | '-' => skipNumber rest
  | c => if (Decimal.digit? c).isSome then skipNumber (c :: rest) else .error (.at .valueDue (c :: rest))

theorem length_skipScalar {c : Char} {cs rest : List Char} (h : skipScalar c cs = .ok rest) :
    rest.length ≤ cs.length := by
  unfold skipScalar at h
  split at h
  · exact length_scanWord h
  · exact length_scanWord h
  · exact length_scanWord h
  · exact Nat.le_of_lt (length_skipString h)
  · exact Nat.le_of_lt (length_skipNumber h)
  · split at h
    · exact Nat.le_of_lt_succ (length_skipNumber h)
    · simp at h

/-- Passes over a value and the containers that are open around it.  A round
takes a character, or goes from behind an opener to before a value. -/
def skipFrom (point : SkipPoint) (stack : List Container) (cs : List Char) :
    Except Fault (List Char) :=
  match point, stack with
  | .beforeValue, stack =>
    match h : skipSpace cs with
    | [] => .error (.at .endInValue [])
    | c :: rest =>
      have : rest.length < cs.length := lt_of_skipSpace h
      if c = '[' then skipFrom .behindOpener (.array :: stack) rest
      else if c = '{' then skipFrom .behindOpener (.object :: stack) rest
      else
        match h' : skipScalar c rest with
        | .error f => .error f
        | .ok left =>
          have := length_skipScalar h'
          skipFrom .behindValue stack left
  | .behindValue, [] => .ok cs
  | .behindValue, k :: stack =>
    match h : skipSpace cs with
    | [] => .error (.at k.cutShort [])
    | c :: rest =>
      have : rest.length < cs.length := lt_of_skipSpace h
      if c = ',' then
        match h' : k.skipLabel rest with
        | .error f => .error f
        | .ok left =>
          have := Container.length_skipLabel h'
          skipFrom .beforeValue (k :: stack) left
      else if c = k.closer then skipFrom .behindValue stack rest
      else .error (.at k.separatorDue (c :: rest))
  | .behindOpener, [] => .ok cs
  | .behindOpener, k :: stack =>
    match h : skipSpace cs with
    | [] => .error (.at k.cutShort [])
    | c :: rest =>
      have hle : (c :: rest).length ≤ cs.length := le_of_skipSpace h
      if c = k.closer then
        have : rest.length < cs.length := hle
        skipFrom .behindValue stack rest
      else
        match h' : k.skipLabel (c :: rest) with
        | .error f => .error f
        | .ok left =>
          have := Nat.le_trans (Container.length_skipLabel h') hle
          skipFrom .beforeValue (k :: stack) left
termination_by 2 * cs.length + point.weight
decreasing_by all_goals simp only [SkipPoint.weight]; omega

theorem length_skipFrom {point : SkipPoint} {stack : List Container} {cs rest : List Char}
    (h : skipFrom point stack cs = .ok rest) :
    rest.length ≤ cs.length ∧ (point = .beforeValue → rest.length < cs.length) := by
  fun_induction skipFrom point stack cs <;> grind

/-- Passes over one value. -/
def skipValue : Reader Unit := fun cs =>
  match h : skipFrom .beforeValue [] cs with
  | .error f => .error f
  | .ok rest => .ok ⟨(), rest, (length_skipFrom h).2 rfl⟩

end Passkey.Json
