/-
Passkey/Failure.lean

Why a ceremony fails, and which message the visitor sees.

A failure has two texts.  Its `message` is meant for the console and carries
every detail.  Its `key` names the error element that the page reveals; it is
short, and it is never blank, so that no failure is shown as an empty area.
-/
import Passkey.Text.Blank
import Passkey.Text.Case

namespace Passkey

open Text

/-- A call of the platform's credential interface that was rejected, with the name of the exception
if it has one. -/
structure Rejection where
  name : Option String
  message : String
deriving DecidableEq, Repr

/-- The rejection as one line: its name, if any, before its message. -/
def Rejection.display (r : Rejection) : String :=
  match r.name with
  | some name => name ++ ": " ++ r.message
  | none => r.message

/-- Why a ceremony failed. -/
inductive Failure where
  /-- The options of the page cannot be used. -/
  | badOptions (detail : String)
  /-- A security key is typing a one-time password into the page. -/
  | typing
  /-- The platform rejected the ceremony. -/
  | platform (name : Option String) (message : String)
  /-- The server rejected the credential and named an error. -/
  | server (key : String)
  /-- The credential could not be delivered. -/
  | transport (name : Option String) (message : String)
  /-- The page lacks something it needs. -/
  | page (detail : String)
deriving DecidableEq, Repr

/-- A rejection is a failure of the platform. -/
def Failure.ofRejection (r : Rejection) : Failure :=
  .platform r.name r.message

namespace Failure

/-- The key of a failure that carries no usable name. -/
def unknownKey : String := "unknown"

/-- The key of a failure that may be named: its name, trimmed and in small letters. -/
def nameKey (name : Option String) : String :=
  match name.bind nonBlank? with
  | some name => lowerText name
  | none => unknownKey

/-- The id of the error element to reveal. -/
def key : Failure → String
  | badOptions _ => "parse"
  | typing => "otp"
  | platform name _ => nameKey name
  | transport name _ => nameKey name
  | server key => if (nonBlank? key).isSome then key else unknownKey
  | page _ => unknownKey

/-- The name of the exception behind the failure. -/
def name? : Failure → Option String
  | platform name _ => name
  | transport name _ => name
  | _ => none

/-- Whether the visitor may try again.  Options that cannot be used stay so. -/
def isRecoverable : Failure → Bool
  | badOptions _ => false
  | _ => true

/-- The failure as a line for the console. -/
def message : Failure → String
  | badOptions detail => "invalid ceremony options: " ++ detail
  | typing => "security key appears to be typing a one-time password"
  | platform _ message => "platform rejected the ceremony: " ++ message
  | server key => "server rejected the credential: " ++ key
  | transport _ message => "request failed: " ++ message
  | page detail => "page error: " ++ detail

/-- The failure of a member that should be base64 and is not. -/
def badBase64 : Failure :=
  .badOptions "Invalid base64: invalid Base64 encoding"

end Failure

end Passkey
