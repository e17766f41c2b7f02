/-
Passkey/Browser/Console.lean

Lines of the console, and which of them are shown.

A line has a level and a source, which is the path of the part that writes
it.  A filter is a list of directives; each allows a level and everything more
severe to the sources whose path starts with its target.  Of the directives
that concern a source the one with the longest target counts, and a source
that none concerns is silent.
-/
import Passkey.Config
import Passkey.Text.Quoted

namespace Passkey.Browser

open Text

/-! ### Lines -/

/-- The parts that write lines. -/
inductive Source where
  /-- Loading of the page. -/
  | loading
  /-- The page as a ceremony sees it. -/
  | document
  /-- Submissions. -/
  | submission
  /-- The platform. -/
  | platform
  /-- The widgets. -/
  | widgets
  /-- The ceremony itself. -/
  | ceremony
deriving DecidableEq, Repr

/-- The path of a part. -/
def Source.path : Source → String
  | loading => "webauthn_bridge::web"
  | document => "webauthn_bridge::web::dom"
  | submission => "webauthn_bridge::web::http"
  | platform => "webauthn_bridge::web::navigator"
  | widgets => "webauthn_bridge::web::widgets"
  | ceremony => "webauthn_bridge::ceremony"

/-- A line before it is written: what it says, and details of it, each with a name. -/
structure Entry where
  level : Level
  source : Source
  message : String
  details : List (String × String)
deriving DecidableEq, Repr

/-- A character as it stands in a message: those that could steer a terminal are written by
their numbers. -/
def harmless (c : Char) : String :=
  let n := c.toNat
  if n = 0x07 || n = 0x08 || n = 0x0C || n = 0x1B || n = 0x7F then
    "\\x" ++ (if n < 0x10 then "0" else "") ++ hexText n
  else if 0x80 ≤ n ∧ n ≤ 0x9F then "\\u\x7b" ++ hexText n ++ "\x7d"
  else c.toString

/-- A message as it is written. -/
def harmlessText (s : String) : String :=
  String.join (s.toList.map harmless)

/-- The label of a level, as wide as the widest one. -/
def paddedLabel (l : Level) : String :=
  String.ofList (List.replicate (5 - l.label.length) ' ') ++ l.label

/-- The text of a line.  `span` names what the line is part of. -/
def Entry.line (e : Entry) (span : Option String) : String :=
  let details := e.details.map fun (name, value) => " " ++ name ++ "=" ++ value
  let inside := match span with
    | some s => s ++ ": "
    | none => ""
  trimEnd (paddedLabel e.level ++ " " ++ inside ++ harmlessText e.message ++ String.join details)

/-! ### Filters -/

/-- Allows lines up to a level, if any, to the sources whose paths start with a target. -/
structure Directive where
  target : String
  level : Option Level
deriving DecidableEq, Repr

/-- Reads a level of a directive: its name in any case of ASCII letters, or a number up to
five; `off` and zero allow nothing. -/
def readAllowed? (s : String) : Option (Option Level) :=
  match Decimal.numeral? s with
  | some 0 => some none
  | some (n + 1) => (Level.ofRank? n).map some
  | none =>
    if sameAscii s "off" then some none
    else (Level.all.find? fun l => sameAscii s l.name).map some

/-- Whether a directive may start with the character. -/
def startsDirective (c : Char) : Bool :=
  c == '-' || c == ':' || c == '_' || c.isAlphanum || 0x80 ≤ c.toNat

/-- Reads a directive.  A level alone concerns all sources, and a target alone allows
everything to its own.  What stands behind white space is read as a whole, and it is no
directive if it has an equals sign. -/
def Directive.read? (cs : List Char) : Option Directive :=
  if !((trimBlank cs).head?.any startsDirective) then none
  else
    match cutAt '=' cs with
    | some (target, level) =>
      if cs.head?.any isBlank then none
      else if level.isEmpty then some ⟨String.ofList target, some .trace⟩
      else (readAllowed? (String.ofList level)).map fun l => ⟨String.ofList target, l⟩
    | none =>
      match readAllowed? (String.ofList cs) with
      | some l => some ⟨"", l⟩
      | none => some ⟨String.ofList cs, some .trace⟩

/-- Directives in the order in which they were given. -/
abbrev Filter := List Directive

/-- Reads a filter.  Pieces that are no directives are passed over; if none is left, one level
concerns all sources. -/
def Filter.read (text : String) : Filter :=
  match (pieces ',' text.toList).filterMap Directive.read? with
  | [] => [⟨"", some (Config.filterLevel text)⟩]
  | ds => ds

/-- The directive that counts for a source: the longest one, of equally long ones the last. -/
def Filter.directive? (f : Filter) (path : String) : Option Directive :=
  (f.filter fun d => d.target.toList.isPrefixOf path.toList).foldl
    (fun best d =>
      match best with
      | none => some d
      | some b => if b.target.length ≤ d.target.length then some d else some b)
    none

/-- Whether a line of a level from a source is shown. -/
def Filter.allows (f : Filter) (source : Source) (level : Level) : Bool :=
  match f.directive? source.path with
  | some d => d.level.any (level.rank ≤ ·.rank)
  | none => false

end Passkey.Browser
