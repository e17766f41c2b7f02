/-
Passkey/Config.lean

Names of elements and classes, the request timeout and the log filter.

Every setting has a default; that of the log filter may come from the build.  A
page may override settings through a global object; a blank override counts as
absent, and so does a timeout that is not a positive number of milliseconds.
No setting depends on the override of another.
-/
import Passkey.Config.Level
import Passkey.Text.Split

namespace Passkey

open Text

/-- The settings whose value is a text. -/
inductive TextSetting where
  /-- The id of the button that starts a registration. -/
  | registerButton
  /-- The id of the button that starts an authentication. -/
  | authenticateButton
  /-- The id of the input that carries the options. -/
  | optionsInput
  /-- The id of the instruction message. -/
  | message
  /-- The id of the generic error area. -/
  | errorArea
  /-- The id of the text inside the generic error area. -/
  | errorMessage
  /-- The class of every error element. -/
  | errorClass
  /-- The class that hides an element. -/
  | hiddenClass
  /-- The class of a busy trigger. -/
  | busyClass
  /-- Which lines reach the console. -/
  | logFilter
deriving DecidableEq, Repr

namespace TextSetting

/-- All text settings. -/
def all : List TextSetting :=
  [registerButton, authenticateButton, optionsInput, message, errorArea, errorMessage,
    errorClass, hiddenClass, busyClass, logFilter]

/-- The member of the global object that overrides the setting. -/
def member : TextSetting → String
  | registerButton => "register_button_id"
  | authenticateButton => "authenticate_button_id"
  | optionsInput => "options_input_id"
  | message => "message_id"
  | errorArea => "error_id"
  | errorMessage => "error_message_id"
  | errorClass => "error_class"
  | hiddenClass => "hidden_class"
  | busyClass => "busy_class"
  | logFilter => "log_filter"

/-- The value of the setting on a page that overrides nothing.  The log filter may be given by the
build, which is not asked to give a sensible one. -/
def builtIn (filter : Option String) : TextSetting → String
  | registerButton => "webauthn-register"
  | authenticateButton => "webauthn-authenticate"
  | optionsInput => "webauthn-options"
  | message => "webauthn-message"
  | errorArea => "webauthn-error"
  | errorMessage => "webauthn-error-message"
  | errorClass => "error-message"
  | hiddenClass => "hidden"
  | busyClass => "loading"
  | logFilter => filter.getD "warn"

end TextSetting

/-- The settings of a page; the timeout of a submission is in milliseconds. -/
structure Config where
  text : TextSetting → String
  requestTimeout : Nat

/-- What a page overrides; a timeout is a text still. -/
structure Overrides where
  text : TextSetting → Option String
  requestTimeout : Option String

namespace Config

/-- The global object that holds the overrides. -/
def globalName : String := "WEBAUTHN_BRIDGE_CONFIG"

/-- The member of the global object that overrides the timeout. -/
def timeoutMember : String := "request_timeout_ms"

/-- The settings of a page that overrides nothing, in a build with a log filter or without one. -/
def builtIn (filter : Option String) : Config := ⟨TextSetting.builtIn filter, 10000⟩

/-- The settings of a page that overrides nothing, in a build without a log filter. -/
def default : Config := builtIn none

/-- The largest timeout that can be set. -/
def maxTimeout : Nat := 0xFFFFFFFF

/-- A timeout as an override may set it: a numeral that is positive and not too large. -/
def timeout? (text : String) : Option Nat :=
  (Decimal.numeralUpTo? maxTimeout text).filter (0 < ·)

/-- The settings with overrides applied. -/
def override (c : Config) (o : Overrides) : Config where
  text s := (o.text s).getD (c.text s)
  requestTimeout := (o.requestTimeout.bind timeout?).getD c.requestTimeout

end Config

/-- The overrides as the page states them: each text trimmed, blank ones dropped. -/
def Overrides.normalized (o : Overrides) : Overrides where
  text s := (o.text s).bind nonBlank?
  requestTimeout := o.requestTimeout.bind nonBlank?

/-- The overrides that a lookup of members by name gives. -/
def Overrides.ofMembers (lookup : String → Option String) : Overrides where
  text s := lookup s.member
  requestTimeout := lookup Config.timeoutMember

namespace Config

/-- The pieces of a filter between its commas. -/
def directives (filter : String) : List (List Char) :=
  pieces ',' filter.toList

/-- The level that a directive names: what stands behind its last equals sign. -/
def directiveLevel? (directive : List Char) : Option Level :=
  Level.read? (String.ofList (afterLast '=' directive))

/-- The most verbose level that a filter names, or `warn` if it names none. -/
def filterLevel (filter : String) : Level :=
  ((directives filter).filterMap directiveLevel?).foldl
    (fun best l => some (best.elim l (·.max l))) none |>.getD .warn

/-- The most verbose level that the log filter names. -/
def logLevel (c : Config) : Level :=
  filterLevel (c.text .logFilter)

end Config

end Passkey
