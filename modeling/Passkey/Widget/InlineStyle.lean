/-
Passkey/Widget/InlineStyle.lean

Inline styles, declaration by declaration.

A strict content security policy blocks `style` attributes but not
assignments to single style properties.  A style text is therefore split at
its semicolons, each piece at its first colon, and the property is named the
way the style object names it: `font-size` becomes `fontSize`.
-/
import Passkey.Text.Blank
import Passkey.Text.Case
import Passkey.Text.Split

namespace Passkey.Widget

open Text

/-- Whether writing the attribute has to become assignments of style properties. -/
def isStyleAttribute (name : String) : Bool :=
  sameAscii name "style"

/-- A word with its first character made capital. -/
def capitalize : List Char → List Char
  | [] => []
  | c :: rest => upper c ++ rest

/-- Joins the words of a dashed name, all but the first one capitalized. -/
def camelizeChars (name : List Char) : List Char :=
  match pieces '-' name with
  | [] => []
  | first :: words => first ++ words.flatMap capitalize

/-- The name of a style property as the style object spells it. -/
def camelize (property : String) : String :=
  String.ofList (camelizeChars property.toList)

/-- One assignment to a style property, which is named as the style object names it; the value is
trimmed. -/
structure Declaration where
  property : String
  value : String
deriving DecidableEq, Repr

/-- Reads one piece of a style text.  A piece without a colon, or without a
property before it, declares nothing. -/
def Declaration.ofPiece? (piece : List Char) : Option Declaration :=
  (cutAt ':' piece).bind fun (property, value) =>
    match camelizeChars (trimBlank property) with
    | [] => none
    | name => some ⟨String.ofList name, String.ofList (trimBlank value)⟩

/-- The declarations of a style text, in order. -/
def declarations (style : String) : List Declaration :=
  (pieces ';' style.toList).filterMap Declaration.ofPiece?

end Passkey.Widget
