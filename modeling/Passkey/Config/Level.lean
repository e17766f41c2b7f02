/-
Passkey/Config/Level.lean

How verbose the console is.
-/
import Passkey.Decimal.Numeral
import Passkey.Text.Blank
import Passkey.Text.Case

namespace Passkey

/-- The severity of a console line, most severe first. -/
inductive Level where
  | error
  | warn
  | info
  | debug
  | trace
deriving DecidableEq, Repr

namespace Level

/-- The place of a level on the scale of verbosity. -/
def rank : Level → Nat
  | error => 0
  | warn => 1
  | info => 2
  | debug => 3
  | trace => 4

/-- The more verbose of two levels. -/
def max (a b : Level) : Level :=
  if a.rank ≤ b.rank then b else a

/-- The levels, most severe first. -/
def all : List Level := [error, warn, info, debug, trace]

/-- The name of a level in small letters. -/
def name : Level → String
  | error => "error"
  | warn => "warn"
  | info => "info"
  | debug => "debug"
  | trace => "trace"

/-- The name of a level as a console line shows it. -/
def label : Level → String
  | error => "ERROR"
  | warn => "WARN"
  | info => "INFO"
  | debug => "DEBUG"
  | trace => "TRACE"

/-- The level with a given place on the scale. -/
def ofRank? (n : Nat) : Option Level :=
  all[n]?

/-- Reads a level: its name, in any case, or its place on the scale. -/
def read? (text : String) : Option Level :=
  let text := Text.trim text
  match Decimal.numeralUpTo? 255 text with
  | some n => ofRank? n
  | none => all.find? fun l => l.name == Text.lowerText text

end Level

end Passkey
