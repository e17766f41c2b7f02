/-
Passkey/Proofs/Json/Grammar.lean

What JSON text is.

The grammar of RFC 8259 as predicates on characters.  A value is a word, a
number, a string or a container, and a container is an opener, entries and a
closer:

    array    [  front value   ,  front value   ...  ]
    object   {  label front value   ,  label front value   ...  }

where a label is a name and a colon.  White space may stand in front of every
value, comma, name, colon and closer.  What stands inside a container is
described from any point behind an entry on (`IsItems`), which is how the
readers go through it.

The text between the quotes of a string is text whatever its escapes name
(`IsBody`), but it denotes characters only if no escape names half a surrogate
pair (`Denotes`).
-/
import Mathlib.Data.List.TakeWhile
import Passkey.Json.Skip

namespace Passkey.Json

/-! ### White space -/

/-- The characters are white space that JSON allows between tokens. -/
def AllSpace (ws : List Char) : Prop :=
  ∀ c ∈ ws, isSpace c = true

section Space

variable {ws cs rest : List Char} {c : Char}

theorem allSpace_nil : AllSpace [] :=
  nofun

theorem AllSpace.append {ws' : List Char} (h : AllSpace ws) (h' : AllSpace ws') :
    AllSpace (ws ++ ws') := by
  intro c hc
  rcases List.mem_append.mp hc with hc | hc
  · exact h c hc
  · exact h' c hc

theorem skipSpace_append (h : AllSpace ws) (cs : List Char) :
    skipSpace (ws ++ cs) = skipSpace cs :=
  List.dropWhile_append_of_pos h

/-- What is dropped is white space. -/
theorem exists_allSpace (cs : List Char) : ∃ ws, AllSpace ws ∧ cs = ws ++ skipSpace cs := by
  refine ⟨cs.takeWhile isSpace, ?_, List.takeWhile_append_dropWhile.symm⟩
  intro c hc
  exact List.mem_takeWhile_imp hc

/-- Where a text goes on behind white space. -/
theorem skipSpace_eq_cons_iff :
    skipSpace cs = c :: rest
      ↔ isSpace c = false ∧ ∃ ws, AllSpace ws ∧ cs = ws ++ c :: rest := by
  constructor
  · intro h
    obtain ⟨ws, hws, hcs⟩ := exists_allSpace cs
    have hhead := List.head?_dropWhile_not isSpace cs
    rw [← skipSpace, h] at hhead
    exact ⟨by simpa using hhead, ws, hws, h ▸ hcs⟩
  · rintro ⟨hc, ws, hws, rfl⟩
    rw [skipSpace_append hws]
    exact List.dropWhile_cons_of_neg (by rw [hc]; exact Bool.false_ne_true)

theorem skipSpace_eq_nil_iff : skipSpace cs = [] ↔ AllSpace cs :=
  List.dropWhile_eq_nil_iff

end Space

/-! ### Strings -/

/-- What may follow a backslash: a letter, or `u` and four hexadecimal digits. -/
inductive IsEscape : List Char → Prop
  | short {e c : Char} (h : shortEscape? e = some c) : IsEscape [e]
  | code {a b c d : Char} {n : Nat} (h : hexFour? a b c d = some n) : IsEscape ['u', a, b, c, d]

/-- What may stand between the quotes of a string. -/
inductive IsBody : List Char → Prop
  | nil : IsBody []
  | plain {c : Char} {rest : List Char} (hc : ¬ c < ' ') (hquote : c ≠ '"') (hslash : c ≠ '\\')
      (hrest : IsBody rest) : IsBody (c :: rest)
  | escape {code rest : List Char} (hcode : IsEscape code) (hrest : IsBody rest) :
      IsBody ('\\' :: (code ++ rest))

/-- What follows a backslash, and the character that it means: two codes that
name the halves of a surrogate pair mean one character. -/
inductive Escapes : List Char → Char → Prop
  | short {e c : Char} (h : shortEscape? e = some c) : Escapes [e] c
  | code {a b c d : Char} {n : Nat} (h : hexFour? a b c d = some n)
      (hn : ¬ (0xD800 ≤ n ∧ n ≤ 0xDFFF)) : Escapes ['u', a, b, c, d] (Char.ofNat n)
  | pair {a b c d a' b' c' d' : Char} {high low : Nat} (h : hexFour? a b c d = some high)
      (hhigh : 0xD800 ≤ high ∧ high ≤ 0xDBFF) (h' : hexFour? a' b' c' d' = some low)
      (hlow : 0xDC00 ≤ low ∧ low ≤ 0xDFFF) :
      Escapes ['u', a, b, c, d, '\\', 'u', a', b', c', d']
        (Char.ofNat ((high - 0xD800) * 0x400 + (low - 0xDC00) + 0x10000))

/-- What stands between the quotes of a string, and the characters that it denotes. -/
inductive Denotes : List Char → List Char → Prop
  | nil : Denotes [] []
  | plain {c : Char} {rest s : List Char} (hc : ¬ c < ' ') (hquote : c ≠ '"') (hslash : c ≠ '\\')
      (hrest : Denotes rest s) : Denotes (c :: rest) (c :: s)
  | escape {code rest s : List Char} {c : Char} (hcode : Escapes code c)
      (hrest : Denotes rest s) : Denotes ('\\' :: (code ++ rest)) (c :: s)

/-! ### Numbers -/

/-- The characters are decimal digits. -/
def AllDigits (ds : List Char) : Prop :=
  ∀ d ∈ ds, d.isDigit = true

/-- The whole part of a number: a leading zero stands alone. -/
inductive IsWhole : List Char → Prop
  | zero : IsWhole ['0']
  | digits {c : Char} {ds : List Char} (hc : c.isDigit = true) (hzero : c ≠ '0')
      (hds : AllDigits ds) : IsWhole (c :: ds)

/-- The exponent of a number, which may be missing. -/
inductive IsExponent : List Char → Prop
  | none : IsExponent []
  | some {e c : Char} {sign ds : List Char} (he : e = 'e' ∨ e = 'E')
      (hsign : sign = [] ∨ sign = ['+'] ∨ sign = ['-']) (hc : c.isDigit = true)
      (hds : AllDigits ds) : IsExponent (e :: (sign ++ c :: ds))

/-- The fraction of a number, which may be missing, and its exponent. -/
inductive IsFraction : List Char → Prop
  | none {cs : List Char} (h : IsExponent cs) : IsFraction cs
  | some {c : Char} {ds cs : List Char} (hc : c.isDigit = true) (hds : AllDigits ds)
      (h : IsExponent cs) : IsFraction ('.' :: c :: (ds ++ cs))

/-- A number without its sign. -/
def IsUnsigned (cs : List Char) : Prop :=
  ∃ whole fraction, IsWhole whole ∧ IsFraction fraction ∧ cs = whole ++ fraction

/-! ### Values -/

/-- A value that is neither an array nor an object. -/
inductive IsScalar : List Char → Prop
  | word {w : List Char} (h : w ∈ ["null".toList, "true".toList, "false".toList]) : IsScalar w
  | unsigned {cs : List Char} (h : IsUnsigned cs) : IsScalar cs
  | negative {cs : List Char} (h : IsUnsigned cs) : IsScalar ('-' :: cs)
  | string {body : List Char} (h : IsBody body) : IsScalar ('"' :: (body ++ ['"']))

/-- An entry of a container as it is written: what stands between the quotes
of its name, if it has one, and its value. -/
structure Entry where
  name : List Char
  value : List Char
deriving DecidableEq

namespace Container

/-- The character that opens it. -/
def opener : Container → Char
  | array => '['
  | object => '{'

/-- What stands before the value of an entry with a name. -/
inductive IsLabel : Container → List Char → List Char → Prop
  | array : IsLabel array [] []
  | object {name ws ws' : List Char} (hws : AllSpace ws) (hname : IsBody name)
      (hws' : AllSpace ws') : IsLabel object name (ws ++ '"' :: (name ++ '"' :: (ws' ++ [':'])))

/-- The text of some entries up to the closer behind them, from the opener on if
the first entry comes first, or else from behind the entry before them. -/
inductive IsItems (k : Container) : (first : Bool) → List Entry → List Char → Prop
  | nil {first : Bool} {ws : List Char} (hws : AllSpace ws) : IsItems k first [] ws
  | first {e : Entry} {es : List Entry} {label front cs : List Char}
      (hlabel : k.IsLabel e.name label) (hfront : AllSpace front) (h : IsItems k false es cs) :
      IsItems k true (e :: es) (label ++ (front ++ (e.value ++ cs)))
  | comma {e : Entry} {es : List Entry} {ws label front cs : List Char} (hws : AllSpace ws)
      (hlabel : k.IsLabel e.name label) (hfront : AllSpace front) (h : IsItems k false es cs) :
      IsItems k false (e :: es) (ws ++ ',' :: (label ++ (front ++ (e.value ++ cs))))

end Container

/-- A value. -/
inductive IsValue : List Char → Prop
  | scalar {v : List Char} (h : IsScalar v) : IsValue v
  | container {k : Container} {es : List Entry} {cs : List Char} (h : k.IsItems true es cs)
      (hvalues : ∀ e ∈ es, IsValue e.value) : IsValue (k.opener :: (cs ++ [k.closer]))

/-- The text of a value, with white space around it. -/
def IsText (cs : List Char) : Prop :=
  ∃ front v back, AllSpace front ∧ IsValue v ∧ AllSpace back ∧ cs = front ++ (v ++ back)

/-- The text of an object with given members, in the order in which they are written. -/
def IsObject (ms : List Entry) (cs : List Char) : Prop :=
  ∃ front inside back, AllSpace front ∧ Container.object.IsItems true ms inside ∧
    (∀ m ∈ ms, IsValue m.value) ∧ AllSpace back ∧
    cs = front ++ '{' :: (inside ++ '}' :: back)

/-! ### Members without white space -/

/-- A member without white space. -/
def Entry.member (m : Entry) : List Char :=
  '"' :: (m.name ++ '"' :: ':' :: m.value)

/-- An object with its members, without white space. -/
def objectOf : List Entry → List Char
  | [] => ['{', '}']
  | m :: ms => '{' :: (m.member ++ (ms.flatMap (fun m => ',' :: m.member) ++ ['}']))

section Compact

variable {ms : List Entry}

theorem isItems_members (h : ∀ m ∈ ms, IsBody m.name) :
    Container.object.IsItems false ms (ms.flatMap fun m => ',' :: m.member) := by
  induction ms with
  | nil => exact .nil allSpace_nil
  | cons m ms ih =>
    obtain ⟨hm, hms⟩ := List.forall_mem_cons.mp h
    have hitems := Container.IsItems.comma allSpace_nil (.object allSpace_nil hm allSpace_nil)
      allSpace_nil (ih hms)
    simpa [Entry.member] using hitems

theorem isObject_objectOf (h : ∀ m ∈ ms, IsBody m.name) (hvalues : ∀ m ∈ ms, IsValue m.value) :
    IsObject ms (objectOf ms) := by
  cases ms with
  | nil => exact ⟨[], [], [], allSpace_nil, .nil allSpace_nil, hvalues, allSpace_nil, rfl⟩
  | cons m ms =>
    obtain ⟨hm, hms⟩ := List.forall_mem_cons.mp h
    refine ⟨[], _, [], allSpace_nil, .first (.object allSpace_nil hm allSpace_nil) allSpace_nil
      (isItems_members hms), hvalues, allSpace_nil, ?_⟩
    simp [objectOf, Entry.member]

end Compact

end Passkey.Json
