/-
Passkey/Proofs/Credential/Body.lean

Credentials are read back from the body that is posted.

The server has nothing but the body.  It finds out which ceremony it belongs
to by the member `credential`, looks up the members by their names and decodes
the binary ones (`Credential.read?`).  This reader inverts the writer: the
names in an object differ, so each member is found as it was written, whatever
order the reader of JSON keeps them in.

Main result: every credential comes back from its body, with an absent and an
empty account handle told apart, so no two credentials have the same body
(`body_reads_back`).
-/
import Passkey.Credential
import Passkey.Proofs.Json.Typed
import Passkey.Proofs.Json.RoundTrip

namespace Passkey

open Json

/-! ### Reading on the other side -/

namespace Json.Value

/-- The text that a value is. -/
def text? : Value → Option String
  | .str s => some s
  | _ => none

/-- The byte string that a value spells. -/
def bytes? (v : Value) : Option Bytes :=
  v.text?.bind fun s => (Base64.decode s).toOption

/-- The texts that the items of an array are. -/
def texts? : Value → Option (List String)
  | .arr items => items.mapM text?
  | _ => none

/-- The byte string that a value spells, or none if it is null. -/
def handle? : Value → Option (Option Bytes)
  | .null => some none
  | v => v.bytes?.map some

/-- Reads the member under a name. -/
def at? {α : Type} (v : Value) (name : String) (read : Value → Option α) : Option α :=
  (v.member? name).bind read

end Json.Value

/-- Reads the response to a registration. -/
def Attestation.read? (v : Value) : Option Attestation := do
  let object ← v.at? "attestationObject" Value.bytes?
  let clientData ← v.at? "clientDataJSON" Value.bytes?
  let transports ← v.at? "transports" Value.texts?
  return ⟨object, clientData, transports⟩

/-- Reads the response to an authentication. -/
def Assertion.read? (v : Value) : Option Assertion := do
  let authenticatorData ← v.at? "authenticatorData" Value.bytes?
  let clientData ← v.at? "clientDataJSON" Value.bytes?
  let signature ← v.at? "signature" Value.bytes?
  let userHandle ← v.at? "userHandle" Value.handle?
  return ⟨authenticatorData, clientData, signature, userHandle⟩

/-- Reads a credential, with the reader of its response. -/
def Envelope.read? {α : Type} (response : Value → Option α) (v : Value) : Option (Envelope α) := do
  let id ← v.at? "id" Value.text?
  let rawId ← v.at? "rawId" Value.bytes?
  let kind ← v.at? "type" Value.text?
  let response ← v.at? "response" response
  return ⟨id, rawId, kind, response⟩

/-- Reads a credential of either ceremony: a registration nests it. -/
def Credential.read? (v : Value) : Option Credential :=
  match v.member? "credential" with
  | some w => (Envelope.read? Attestation.read? w).map .registration
  | none => (Envelope.read? Assertion.read? v).map .authentication

/-! ### Members that come back -/

namespace Json.Value

variable {α : Type} {ms : Members} {name : String} {v : Value} {a : α}

theorem member?_normal (h : (ms.map (·.1)).Nodup) (name : String) :
    (Value.obj ms).normal.member? name = (ms.get? name).map normal :=
  get?_ordered_normalMembers h name

/-- What a reader gets from a member in normal form. -/
theorem at?_normal {read : Value → Option α} (h : (ms.map (·.1)).Nodup)
    (hv : ms.get? name = some v) (hread : read v.normal = some a) :
    (Value.obj ms).normal.at? name read = some a := by
  rw [at?, member?_normal h, hv]
  exact hread

theorem bytes?_ofBytes (bytes : Bytes) : (ofBytes bytes).normal.bytes? = some bytes := by
  obtain ⟨s, hs, hd⟩ := spells_ofBytes bytes
  rw [hs]
  show (Base64.decode s).toOption = _
  rw [hd]
  rfl

theorem texts?_ofTexts (texts : List String) : (ofTexts texts).normal.texts? = some texts := by
  rw [normal_ofTexts]
  show (texts.map str).mapM text? = _
  rw [List.mapM_map]
  show texts.mapM (fun s => pure (id s)) = _
  rw [List.mapM_pure, List.map_id]
  rfl

/-- The value of an account handle. -/
def ofHandle (handle : Option Bytes) : Value :=
  (handle.map ofBytes).getD null

theorem handle?_ofHandle (handle : Option Bytes) :
    (ofHandle handle).normal.handle? = some handle := by
  rcases handle with - | bytes
  · rfl
  · show (ofBytes bytes).normal.bytes?.map some = _
    rw [bytes?_ofBytes]
    rfl

theorem ofHandle_eq_null_iff {handle : Option Bytes} : ofHandle handle = .null ↔ handle = none := by
  rcases handle with - | bytes
  · exact ⟨fun _ => rfl, fun _ => rfl⟩
  · exact ⟨nofun, nofun⟩

/-- An empty account handle is the empty text, and no other handle is. -/
theorem ofHandle_eq_empty_iff {handle : Option Bytes} :
    ofHandle handle = .str "" ↔ handle = some [] := by
  rcases handle with - | bytes
  · exact ⟨nofun, nofun⟩
  · constructor
    · intro h
      have hspells : (Value.str "").Spells bytes := h ▸ spells_ofBytes bytes
      rw [hspells.unique (spells_ofBytes [])]
    · intro h
      cases h
      rfl

theorem normal_ofHandle (handle : Option Bytes) : (ofHandle handle).normal = ofHandle handle := by
  cases handle <;> rfl

end Json.Value

/-! ### Responses -/

section Credentials

open Value

variable {α : Type} {response : α → Value}

/-- The members of the response to a registration. -/
def Attestation.members (a : Attestation) : Members :=
  [("attestationObject", .ofBytes a.attestationObject), ("clientDataJSON", .ofBytes a.clientData),
    ("transports", .ofTexts a.transports)]

theorem Attestation.nodup_members (a : Attestation) : (a.members.map (·.1)).Nodup :=
  (by decide : ["attestationObject", "clientDataJSON", "transports"].Nodup)

theorem Attestation.read?_normal (a : Attestation) :
    Attestation.read? (Credential.attestationValue a).normal = some a := by
  have hobject : (obj a.members).normal.at? "attestationObject" bytes? = some a.attestationObject :=
    at?_normal a.nodup_members rfl (bytes?_ofBytes _)
  have hclient : (obj a.members).normal.at? "clientDataJSON" bytes? = some a.clientData :=
    at?_normal a.nodup_members rfl (bytes?_ofBytes _)
  have htransports : (obj a.members).normal.at? "transports" texts? = some a.transports :=
    at?_normal a.nodup_members rfl (texts?_ofTexts _)
  show Attestation.read? (obj a.members).normal = _
  rw [Attestation.read?, hobject, hclient, htransports]
  rfl

/-- The members of the response to an authentication. -/
def Assertion.members (a : Assertion) : Members :=
  [("authenticatorData", .ofBytes a.authenticatorData), ("clientDataJSON", .ofBytes a.clientData),
    ("signature", .ofBytes a.signature), ("userHandle", ofHandle a.userHandle)]

theorem Assertion.nodup_members (a : Assertion) : (a.members.map (·.1)).Nodup :=
  (by decide : ["authenticatorData", "clientDataJSON", "signature", "userHandle"].Nodup)

theorem Assertion.read?_normal (a : Assertion) :
    Assertion.read? (Credential.assertionValue a).normal = some a := by
  have hdata : (obj a.members).normal.at? "authenticatorData" bytes? = some a.authenticatorData :=
    at?_normal a.nodup_members rfl (bytes?_ofBytes _)
  have hclient : (obj a.members).normal.at? "clientDataJSON" bytes? = some a.clientData :=
    at?_normal a.nodup_members rfl (bytes?_ofBytes _)
  have hsignature : (obj a.members).normal.at? "signature" bytes? = some a.signature :=
    at?_normal a.nodup_members rfl (bytes?_ofBytes _)
  have hhandle : (obj a.members).normal.at? "userHandle" handle? = some a.userHandle :=
    at?_normal a.nodup_members rfl (handle?_ofHandle _)
  show Assertion.read? (obj a.members).normal = _
  rw [Assertion.read?, hdata, hclient, hsignature, hhandle]
  rfl

theorem Assertion.member?_userHandle (a : Assertion) :
    (Credential.assertionValue a).normal.member? "userHandle" = some (ofHandle a.userHandle) := by
  have h := member?_normal a.nodup_members "userHandle"
  exact h.trans (congrArg some (normal_ofHandle a.userHandle))

/-! ### Credentials -/

/-- The members of a credential, around the value of its response. -/
def Envelope.members (response : α → Value) (c : Envelope α) : Members :=
  [("id", .str c.id), ("rawId", .ofBytes c.rawId), ("type", .str c.kind),
    ("response", response c.response)]

theorem Envelope.nodup_members (response : α → Value) (c : Envelope α) :
    ((c.members response).map (·.1)).Nodup :=
  (by decide : ["id", "rawId", "type", "response"].Nodup)

/-- A credential comes back if its response does. -/
theorem Envelope.read?_normal {read : Value → Option α}
    (hresponse : ∀ a, read (response a).normal = some a) (c : Envelope α) :
    Envelope.read? read (Credential.envelopeValue response c).normal = some c := by
  have hnodup := c.nodup_members response
  have hid : (obj (c.members response)).normal.at? "id" text? = some c.id :=
    at?_normal hnodup rfl rfl
  have hrawId : (obj (c.members response)).normal.at? "rawId" bytes? = some c.rawId :=
    at?_normal hnodup rfl (bytes?_ofBytes _)
  have hkind : (obj (c.members response)).normal.at? "type" text? = some c.kind :=
    at?_normal hnodup rfl rfl
  have hanswer : (obj (c.members response)).normal.at? "response" read = some c.response :=
    at?_normal hnodup rfl (hresponse _)
  show Envelope.read? read (obj (c.members response)).normal = _
  rw [Envelope.read?, hid, hrawId, hkind, hanswer]
  rfl

namespace Credential

/-- **Reading a payload inverts writing it.** -/
theorem read?_payload (c : Credential) : Credential.read? c.payload.normal = some c := by
  rcases c with c | c
  · let ms : Members := [("credential", envelopeValue attestationValue c)]
    have hms : (ms.map (·.1)).Nodup := List.pairwise_singleton _ _
    have hnested : (payload (registration c)).normal.member? "credential"
        = some (envelopeValue attestationValue c).normal := member?_normal hms "credential"
    rw [Credential.read?, hnested]
    dsimp only
    rw [Envelope.read?_normal Attestation.read?_normal]
    rfl
  · have hbare : (payload (authentication c)).normal.member? "credential" = none :=
      member?_normal (c.nodup_members assertionValue) "credential"
    rw [Credential.read?, hbare]
    show (Envelope.read? Assertion.read? (envelopeValue assertionValue c).normal).map _ = _
    rw [Envelope.read?_normal Assertion.read?_normal]
    rfl

theorem fits_attestationValue (a : Attestation) (depth : Nat) :
    (attestationValue a).Fits (depth + 2) :=
  .obj (List.forall_mem_cons.mpr ⟨.str _, List.forall_mem_cons.mpr ⟨.str _,
    List.forall_mem_singleton.mpr (fits_ofTexts a.transports depth)⟩⟩)

theorem fits_assertionValue (a : Assertion) (depth : Nat) :
    (assertionValue a).Fits (depth + 1) := by
  have hhandle : (ofHandle a.userHandle).Fits depth := by
    rcases a.userHandle with - | bytes
    · exact .null
    · exact .str _
  exact .obj (List.forall_mem_cons.mpr ⟨.str _, List.forall_mem_cons.mpr ⟨.str _,
    List.forall_mem_cons.mpr ⟨.str _, List.forall_mem_singleton.mpr hhandle⟩⟩⟩)

theorem fits_envelopeValue {c : Envelope α} {depth : Nat} (h : (response c.response).Fits depth) :
    (envelopeValue response c).Fits (depth + 1) :=
  .obj (List.forall_mem_cons.mpr ⟨.str _, List.forall_mem_cons.mpr ⟨.str _,
    List.forall_mem_cons.mpr ⟨.str _, List.forall_mem_singleton.mpr h⟩⟩⟩)

/-- The body of a credential is read as its payload, whatever the credential holds. -/
theorem parse_body (c : Credential) : Value.parse c.body = .ok c.payload.normal := by
  refine parse_text ?_
  rcases c with c | c
  · have henvelope := fits_envelopeValue (c := c) (fits_attestationValue c.response 123)
    exact .obj (List.forall_mem_singleton.mpr henvelope)
  · exact fits_envelopeValue (c := c) (fits_assertionValue c.response 125)

/-- **Credentials are read back from their bodies.**  The body is an object from
which the other side reads the credential, of whichever ceremony it is; the
account handle is null exactly if there is none, and the empty text exactly if
it is empty; so no two credentials have the same body. -/
theorem body_reads_back :
    (∀ c : Credential, ∃ ms : Members, Value.parse c.body = .ok (.obj ms) ∧
      Credential.read? (.obj ms) = some c) ∧
    (∀ c : Envelope Assertion, ∃ v response handle,
      Value.parse (authentication c).body = .ok v ∧ v.member? "response" = some response ∧
      response.member? "userHandle" = some handle ∧
      (handle = .null ↔ c.response.userHandle = none) ∧
      (handle = .str "" ↔ c.response.userHandle = some [])) ∧
    Function.Injective body := by
  refine ⟨?_, ?_, ?_⟩
  · intro c
    have hread := read?_payload c
    have hparse := parse_body c
    rcases c with c | c
    · exact ⟨_, hparse, hread⟩
    · exact ⟨_, hparse, hread⟩
  · intro c
    have hresponse := member?_normal (c.nodup_members assertionValue) "response"
    exact ⟨_, _, _, parse_body (authentication c), hresponse, c.response.member?_userHandle,
      ofHandle_eq_null_iff, ofHandle_eq_empty_iff⟩
  · intro c c' h
    have hnormal : c.payload.normal = c'.payload.normal := by
      have hparse := parse_body c
      rw [h, parse_body c'] at hparse
      exact (Except.ok.inj hparse).symm
    have hread := read?_payload c
    rw [hnormal, read?_payload c'] at hread
    exact (Option.some.inj hread).symm

end Credential

end Credentials

end Passkey
