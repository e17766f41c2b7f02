/-
Passkey/Options.lean

The options of a ceremony, as the server issues them.

The page carries them as JSON text.  Only the binary members are interpreted:
the challenge, the id of the user and the ids of the listed credentials.  All
other members pass through to the platform as they are.  Writing the options
again gives a text in which the interpreted members come first and the others
follow in the order of their names.
-/
import Passkey.Json.Typed

namespace Passkey

open Json

/-- Which ceremony the page offers. -/
inductive Mode where
  | registration
  | authentication
deriving DecidableEq, Repr

/-- The name of a mode. -/
def Mode.name : Mode → String
  | registration => "registration"
  | authentication => "authentication"

/-- A credential that the server lists, with the transports by which its authenticator may be
reached. -/
structure Descriptor where
  kind : String
  id : Bytes
  transports : List String
deriving DecidableEq, Repr

/-- The account for which a credential is registered, with name, display name and anything else that
the server sends. -/
structure User where
  id : Bytes
  extra : Members
deriving Repr

/-- The options of a registration, with credentials that must not be registered again and members
that pass through. -/
structure CreationOptions where
  challenge : Bytes
  user : User
  exclude : List Descriptor
  extra : Members
deriving Repr

/-- The options of an authentication, with credentials that may be used, any if the list is empty,
and members that pass through. -/
structure RequestOptions where
  challenge : Bytes
  allow : List Descriptor
  extra : Members
deriving Repr

/-- The options of a ceremony. -/
inductive Options where
  | registration (o : CreationOptions)
  | authentication (o : RequestOptions)
deriving Repr

/-! ### Reading -/

/-- Reads a member if it is there. -/
def readMember? {α : Type} (ms : Members) (name : String) (read : Value → Except Cause α) :
    Except Cause (Option α) :=
  match ms.get? name with
  | some v => (read v).map some
  | none => .ok none

namespace Descriptor

/-- How a report names an expected descriptor. -/
def aDescriptor : String := "struct CredentialDescriptor"

/-- The type of a credential whose type is not given. -/
def defaultKind : String := "public-key"

/-- Reads a descriptor from its members.  They are visited in the order of
their names, so a bad id is found before bad transports. -/
def ofMembers (ms : Members) : Except Cause Descriptor := do
  let id ← readMember? ms "id" Value.asBytes
  let transports ← memberOr ms "transports" [] Value.asTexts
  let kind ← memberOr ms "type" defaultKind Value.asText
  match id with
  | some id => return ⟨kind, id, transports⟩
  | none => throw (.missingField "id")

/-- Reads a descriptor from the items of an array: type, id and transports,
the last of which may be missing. -/
def ofItems : List Value → Except Cause Descriptor
  | [] => throw (.wrongLength 1 (aDescriptor ++ " with 3 elements"))
  | [kind] => do
    let _ ← kind.asText
    throw (.wrongLength 1 (aDescriptor ++ " with 3 elements"))
  | [kind, id] => do
    let kind ← kind.asText
    let id ← id.asBytes
    return ⟨kind, id, []⟩
  | kind :: id :: transports :: more => do
    let kind ← kind.asText
    let id ← id.asBytes
    let transports ← transports.asTexts
    match more with
    | [] => return ⟨kind, id, transports⟩
    | _ => throw (.wrongLength (more.length + 3) "fewer elements in array")

/-- Reads a descriptor. -/
def ofValue : Value → Except Cause Descriptor
  | .obj ms => ofMembers ms
  | .arr items => ofItems items
  | v => v.refuse aDescriptor

/-- Reads a list of descriptors; null stands for the empty list. -/
def listOf : Value → Except Cause (List Descriptor)
  | .null => .ok []
  | v => v.asItems.bind fun items => items.mapM ofValue

end Descriptor

/-- Reads an account. -/
def User.ofValue : Value → Except Cause User
  | .obj ms => do
    match ← readMember? ms "id" Value.asBytes with
    | some id => return ⟨id, Members.without ms ["id"]⟩
    | none => throw (.missingField "id")
  | v => v.refuse "struct UserEntity"

namespace CreationOptions

/-- The members that are interpreted. -/
def interpreted : List String := ["challenge", "user", "excludeCredentials"]

/-- Reads the options of a registration.  Members are visited in the order of
their names, and only then is a missing one reported. -/
def ofValue : Value → Except Cause CreationOptions
  | .obj ms => do
    let challenge ← readMember? ms "challenge" Value.asBytes
    let exclude ← memberOr ms "excludeCredentials" [] Descriptor.listOf
    let user ← readMember? ms "user" User.ofValue
    match challenge, user with
    | some challenge, some user => return ⟨challenge, user, exclude, Members.without ms interpreted⟩
    | none, _ => throw (.missingField "challenge")
    | some _, none => throw (.missingField "user")
  | v => v.refuse "struct CreationOptions"

end CreationOptions

namespace RequestOptions

/-- The members that are interpreted. -/
def interpreted : List String := ["challenge", "allowCredentials"]

/-- Reads the options of an authentication.  Members are visited in the order
of their names, and only then is a missing one reported. -/
def ofValue : Value → Except Cause RequestOptions
  | .obj ms => do
    let allow ← memberOr ms "allowCredentials" [] Descriptor.listOf
    match ← readMember? ms "challenge" Value.asBytes with
    | some challenge => return ⟨challenge, allow, Members.without ms interpreted⟩
    | none => throw (.missingField "challenge")
  | v => v.refuse "struct RequestOptions"

end RequestOptions

namespace Options

/-- The mode of the options. -/
def mode : Options → Mode
  | registration _ => .registration
  | authentication _ => .authentication

/-- The challenge of the options. -/
def challenge : Options → Bytes
  | registration o => o.challenge
  | authentication o => o.challenge

/-- The credentials that the options list. -/
def credentials : Options → List Descriptor
  | registration o => o.exclude
  | authentication o => o.allow

/-- The members that pass through. -/
def extra : Options → Members
  | registration o => o.extra
  | authentication o => o.extra

/-- The account of a registration. -/
def user? : Options → Option User
  | registration o => some o.user
  | authentication _ => none

/-- The options object inside a value: the member `publicKey` of an object
that has one, otherwise the value itself. -/
def unwrap (v : Value) : Value :=
  (v.member? "publicKey").getD v

/-- Reads the options of a mode. -/
def ofValue (mode : Mode) (v : Value) : Except Cause Options :=
  match mode with
  | .registration => (CreationOptions.ofValue v).map registration
  | .authentication => (RequestOptions.ofValue v).map authentication

/-- Reads the options of a mode from JSON text; a fault is one of the text or
one of the value. -/
def parseFault (mode : Mode) (text : String) : Except Fault Options :=
  match Value.parse text with
  | .error f => .error f
  | .ok v => (ofValue mode (unwrap v)).mapError Fault.anywhere

/-- Reads the options of a mode from JSON text. -/
def parse (mode : Mode) (text : String) : Except Failure Options :=
  (parseFault mode text).mapError fun f => .badOptions (f.report text.toList)

/-- The options that are read in a mode are of that mode. -/
theorem mode_of_ofValue {m : Mode} {v : Value} {o : Options} (h : ofValue m v = .ok o) :
    o.mode = m := by
  rcases m with - | -
  · rcases hv : CreationOptions.ofValue v with f | c <;> rw [ofValue, hv] at h <;> cases h
    rfl
  · rcases hv : RequestOptions.ofValue v with f | c <;> rw [ofValue, hv] at h <;> cases h
    rfl

theorem mode_of_parse {m : Mode} {text : String} {o : Options} (h : parse m text = .ok o) :
    o.mode = m := by
  rcases hp : Value.parse text with f | v
  · rw [parse, parseFault, hp] at h
    cases h
  rcases hv : ofValue m (unwrap v) with f | c
  · simp only [parse, parseFault, hp, hv] at h
    cases h
  · simp only [parse, parseFault, hp, hv] at h
    cases h
    exact mode_of_ofValue hv

end Options

/-! ### Writing -/

/-- A byte string as a JSON value. -/
def Json.Value.ofBytes (bytes : Bytes) : Value :=
  .str (Base64.encode bytes)

/-- The members of a descriptor; empty transports are left out. -/
def Descriptor.toValue (d : Descriptor) : Value :=
  .obj ([("type", .str d.kind), ("id", .ofBytes d.id)] ++
    if d.transports.isEmpty then [] else [("transports", .ofTexts d.transports)])

/-- A list member, which is left out if the list is empty. -/
def Descriptor.listMember (name : String) (ds : List Descriptor) : Members :=
  if ds.isEmpty then [] else [(name, .arr (ds.map toValue))]

/-- The account, its id before its other members. -/
def User.toValue (u : User) : Value :=
  .obj (("id", .ofBytes u.id) :: u.extra)

/-- The options as a JSON value. -/
def Options.toValue : Options → Value
  | registration o =>
    .obj (("challenge", .ofBytes o.challenge) :: ("user", o.user.toValue) ::
      Descriptor.listMember "excludeCredentials" o.exclude ++ o.extra)
  | authentication o =>
    .obj (("challenge", .ofBytes o.challenge) ::
      Descriptor.listMember "allowCredentials" o.allow ++ o.extra)

/-- The options as JSON text. -/
def Options.wire (o : Options) : String :=
  o.toValue.text

end Passkey
