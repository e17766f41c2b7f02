/-
Passkey/Credential.lean

Credentials of the platform, and the payload that is posted back.

A registration nests its credential under a member of its own, an
authentication sends it bare; the server tells them apart by that.  Every
binary part travels as base64 text.
-/
import Passkey.Options

namespace Passkey

open Json

/-- What the platform answers to a registration.  There are no transports if it cannot tell them. -/
structure Attestation where
  attestationObject : Bytes
  clientData : Bytes
  transports : List String
deriving DecidableEq, Repr

/-- What the platform answers to an authentication, with the handle of the account if the
authenticator knows it. -/
structure Assertion where
  authenticatorData : Bytes
  clientData : Bytes
  signature : Bytes
  userHandle : Option Bytes
deriving DecidableEq, Repr

/-- A credential with the platform's response; its id is given as a text and as bytes. -/
structure Envelope (α : Type) where
  id : String
  rawId : Bytes
  kind : String
  response : α
deriving DecidableEq, Repr

/-- A credential of either ceremony. -/
inductive Credential where
  | registration (c : Envelope Attestation)
  | authentication (c : Envelope Assertion)
deriving DecidableEq, Repr

namespace Credential

/-- The response of a registration as a JSON value. -/
def attestationValue (a : Attestation) : Value :=
  .obj [("attestationObject", .ofBytes a.attestationObject),
    ("clientDataJSON", .ofBytes a.clientData), ("transports", .ofTexts a.transports)]

/-- The response of an authentication as a JSON value. -/
def assertionValue (a : Assertion) : Value :=
  .obj [("authenticatorData", .ofBytes a.authenticatorData),
    ("clientDataJSON", .ofBytes a.clientData), ("signature", .ofBytes a.signature),
    ("userHandle", (a.userHandle.map Value.ofBytes).getD .null)]

/-- A credential as a JSON value, around the value of its response. -/
def envelopeValue {α : Type} (response : α → Value) (c : Envelope α) : Value :=
  .obj [("id", .str c.id), ("rawId", .ofBytes c.rawId), ("type", .str c.kind),
    ("response", response c.response)]

/-- The payload that completes a ceremony. -/
def payload : Credential → Value
  | registration c => .obj [("credential", envelopeValue attestationValue c)]
  | authentication c => envelopeValue assertionValue c

/-- The body that is posted. -/
def body (c : Credential) : String :=
  c.payload.text

end Credential

end Passkey
