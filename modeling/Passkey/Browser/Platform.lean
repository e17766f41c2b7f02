/-
Passkey/Browser/Platform.lean

The platform's interface for credentials.

It is asked with an object of a script: the members that pass through become
values of the script, and every binary member becomes an array of bytes.
What it answers is read back, and what it throws is read as a rejection.
-/
import Passkey.Browser

namespace Passkey.Browser

open ScriptValue (text? putMember membersOfJson)

/-! ### Asking -/

/-- The members that pass through, as members of a script's object. -/
def passThrough (members : Json.Members) : Except Rejection (List (String × ScriptValue)) :=
  (membersOfJson members).mapError fun i =>
    ⟨none, "Failed to convert options: " ++ toString i
      ++ " can't be represented as a JavaScript number"⟩

/-- A listed credential; transports are left out if there are none. -/
def descriptorValue (d : Descriptor) : ScriptValue :=
  .object false ([("type", .text d.kind), ("id", .bytes d.id)] ++
    if d.transports.isEmpty then [] else [("transports", .list (d.transports.map .text))])

/-- Puts a list of credentials into its place; an empty one is left out. -/
def putDescriptors (name : String) (ds : List Descriptor) (members : List (String × ScriptValue)) :
    List (String × ScriptValue) :=
  if ds.isEmpty then members else putMember name (.list (ds.map descriptorValue)) members

/-- What the platform is asked with, inside its wrapper. -/
def publicKey : Options → Except Rejection (List (String × ScriptValue))
  | .registration o => do
    let members := putMember "challenge" (.bytes o.challenge) (← passThrough o.extra)
    let user := putMember "id" (.bytes o.user.id) (← passThrough o.user.extra)
    return putDescriptors "excludeCredentials" o.exclude
      (putMember "user" (.object false user) members)
  | .authentication o => do
    let members := putMember "challenge" (.bytes o.challenge) (← passThrough o.extra)
    return putDescriptors "allowCredentials" o.allow members

/-- The object that is handed to the platform. -/
def question (o : Options) : Except Rejection ScriptValue :=
  (publicKey o).map fun members => .object false [("publicKey", .object false members)]

/-! ### Answers -/

/-- What an authenticator's response is. -/
inductive PlatformResponse where
  /-- The response to a registration.  `transports` is what the platform lists when it is
  asked for them, if it can be asked. -/
  | attestation (object clientData : Bytes) (transports : Option ScriptValue)
  /-- The response to an authentication. -/
  | assertion (data clientData signature : Bytes) (userHandle : Option Bytes)
  /-- Neither of them. -/
  | other

/-- What the platform answers. -/
inductive PlatformAnswer where
  /-- A credential. -/
  | credential (envelope : Envelope PlatformResponse)
  /-- Anything else. -/
  | value (v : ScriptValue)

/-- The texts in a list of transports; anything but a list holds none. -/
def transportTexts : Option ScriptValue → List String
  | some (.list items) => items.filterMap text?
  | _ => []

/-- A credential that does not answer the question. -/
def wrongResponse : Rejection := ⟨none, "Invalid response type"⟩

/-- Reads a credential that answers a question of a mode. -/
def readCredential (mode : Mode) (e : Envelope PlatformResponse) : Except Rejection Credential :=
  match mode, e.response with
  | .registration, .attestation object clientData transports =>
    .ok (.registration ⟨e.id, e.rawId, e.kind, ⟨object, clientData, transportTexts transports⟩⟩)
  | .authentication, .assertion data clientData signature userHandle =>
    .ok (.authentication ⟨e.id, e.rawId, e.kind, ⟨data, clientData, signature, userHandle⟩⟩)
  | _, _ => .error wrongResponse

/-- Reads an answer of the platform to a question of a mode. -/
def readAnswer (mode : Mode) : PlatformAnswer → Except Rejection Credential
  | .credential e => readCredential mode e
  | .value v =>
    .error ⟨none, if v.isNothing then "No credential returned" else "Invalid credential type"⟩

/-- A property that is a text, if it can be read and is one. -/
def textProperty? (v : ScriptValue) (name : String) : Option String :=
  match v.get name with
  | .ok w => w.text?
  | .error _ => none

/-- Reads what the platform threw. -/
def readRejection (v : ScriptValue) : Rejection :=
  ⟨textProperty? v "name", (textProperty? v "message").getD v.display⟩

end Passkey.Browser
