/-
Passkey/Text/Blank.lean

Blank characters and trimming.

Everything the page, the server and the user hand over as text is trimmed
before it is judged, and "blank" means the Unicode property White_Space: the
ASCII blanks, the no-break spaces and the typographic spaces, but no
zero-width character.
-/
import Passkey.Text.CodePoints

namespace Passkey.Text

/-- The characters with the property White_Space. -/
def whiteSpace : CodePoints :=
  ⟨[(0x9, 0xD), (0x20, 0x20), (0x85, 0x85), (0xA0, 0xA0), (0x1680, 0x1680), (0x2000, 0x200A),
    (0x2028, 0x2029), (0x202F, 0x202F), (0x205F, 0x205F), (0x3000, 0x3000)]⟩

/-- Whether the character is blank. -/
def isBlank (c : Char) : Bool :=
  whiteSpace.contains c

/-- Drops the blank characters at the front. -/
def trimLeft (cs : List Char) : List Char :=
  cs.dropWhile isBlank

/-- Drops the blank characters at the back. -/
def trimRight (cs : List Char) : List Char :=
  (cs.reverse.dropWhile isBlank).reverse

/-- Drops the blank characters at both ends. -/
def trimBlank (cs : List Char) : List Char :=
  trimRight (trimLeft cs)

/-- The text without the blank characters at its ends. -/
def trim (s : String) : String :=
  String.ofList (trimBlank s.toList)

/-- The text without the blank characters at its end. -/
def trimEnd (s : String) : String :=
  String.ofList (trimRight s.toList)

/-- The trimmed text, if anything is left of it. -/
def nonBlank? (s : String) : Option String :=
  match trimBlank s.toList with
  | [] => none
  | cs => some (String.ofList cs)

theorem nonBlank?_eq_some_iff {s t : String} :
    nonBlank? s = some t ↔ t = trim s ∧ trim s ≠ "" := by
  rw [nonBlank?, trim]
  rcases trimBlank s.toList with - | ⟨c, cs⟩
  · simp
  · have hne : String.ofList (c :: cs) ≠ "" := by simp
    exact ⟨fun h => ⟨(Option.some.inj h).symm, hne⟩, fun h => congrArg some h.1.symm⟩

end Passkey.Text
