/-
Passkey/Proofs/Browser/Question.lean

What the platform is asked with.

The options object of the page is taken apart when it is read, and put
together again when the platform is asked.  What comes out mirrors what went
in, name by name:

    challenge, user.id        the bytes that are spelled
    the credential list       descriptors in their order; an empty one is left out
    every other member        its counterpart among the values of a script

Main result: the object that is handed to the platform mirrors the options
object of the text (`question_mirrors`).  There is one exactly if all members that pass
through have counterparts.
-/
import Passkey.Browser.Runs
import Passkey.Proofs.Browser.Conversion
import Passkey.Proofs.Options.WireForm

namespace Passkey.Browser

open Json Outcome ScriptValue

/-! ### Mirrored objects -/

/-- A listed credential as the platform gets it: its type, its id and, if there are any, its
transports. -/
inductive Reduced : Value → ScriptValue → Prop
  | plain {v : Value} {kind : String} {bytes : Bytes}
    (read : Descriptor.ReadFrom v ⟨kind, bytes, []⟩) :
    Reduced v (.object false [("type", .text kind), ("id", .bytes bytes)])
  | transports {v : Value} {kind : String} {bytes : Bytes} {texts : List String}
    (read : Descriptor.ReadFrom v ⟨kind, bytes, texts⟩) (some : texts ≠ []) :
    Reduced v (.object false
      [("type", .text kind), ("id", .bytes bytes), ("transports", .list (texts.map .text))])

/-- A list of credentials as the platform gets it: one that is missing, null or empty is left
out. -/
inductive ReducedList : Option Value → Option ScriptValue → Prop
  | missing : ReducedList none none
  | null : ReducedList (some .null) none
  | empty : ReducedList (some (.arr [])) none
  | items {v : Value} {items : List Value} {x : ScriptValue} {xs : List ScriptValue}
    (h : List.Forall₂ Reduced (v :: items) (x :: xs)) :
    ReducedList (some (.arr (v :: items))) (some (.list (x :: xs)))

/-- A member that spells bytes, and the bytes. -/
def Spelled (v : Option Value) (x : Option ScriptValue) : Prop :=
  ∃ w bytes, v = some w ∧ w.Spells bytes ∧ x = some (.bytes bytes)

/-- An account as the platform gets it. -/
structure MirrorsUser (us : Members) (xs : List (String × ScriptValue)) : Prop where
  once : (xs.map Prod.fst).Nodup
  id : Spelled (us.get? "id") (xs.lookup "id")
  others : ∀ name, name ≠ "id" → Option.Rel Corresponds (us.get? name) (xs.lookup name)

/-- The options of a mode as the platform gets them. -/
structure Mirrors (mode : Mode) (ms : Members) (xs : List (String × ScriptValue)) : Prop where
  /-- No name stands twice. -/
  once : (xs.map Prod.fst).Nodup
  challenge : Spelled (ms.get? "challenge") (xs.lookup "challenge")
  user : mode = .registration → ∃ (us : Members) (ys : List (String × ScriptValue)),
    ms.get? "user" = some (.obj us) ∧ xs.lookup "user" = some (.object false ys) ∧
      MirrorsUser us ys
  credentials : ReducedList (ms.get? mode.listName) (xs.lookup mode.listName)
  /-- All that is not interpreted is there with its own value, and nothing else is. -/
  others : ∀ name, name ∉ mode.interpreted →
    Option.Rel Corresponds (ms.get? name) (xs.lookup name)

/-- Every member that passes through has a counterpart. -/
structure Convertible (mode : Mode) (ms : Members) : Prop where
  members : ∀ name v, name ∉ mode.interpreted → ms.get? name = some v → ∃ x, Corresponds v x
  user : mode = .registration → ∀ us : Members, ms.get? "user" = some (.obj us) →
    ∀ name v, name ≠ "id" → us.get? name = some v → ∃ x, Corresponds v x

/-! ### Descriptors -/

section Descriptors

variable {v : Value} {d : Descriptor} {w : Option Value} {ds : List Descriptor}

theorem reduced_descriptorValue (h : Descriptor.ReadFrom v d) : Reduced v (descriptorValue d) := by
  obtain ⟨kind, bytes, texts⟩ := d
  rcases texts with - | ⟨t, ts⟩
  · exact .plain h
  · exact .transports h (List.cons_ne_nil t ts)

/-- What `putDescriptors` puts, if it puts anything. -/
def listed? (ds : List Descriptor) : Option ScriptValue :=
  if ds.isEmpty then none else some (.list (ds.map descriptorValue))

theorem reducedList_listed? (h : Descriptor.ListedIn w ds) : ReducedList w (listed? ds) := by
  cases h with
  | missing => exact .missing
  | null => exact .null
  | @items items _ h =>
    cases h with
    | nil => exact .empty
    | @cons v d items ds hd hds =>
      refine .items (.cons (reduced_descriptorValue hd) ?_)
      rw [List.forall₂_map_right_iff]
      exact hds.imp fun _ _ h => reduced_descriptorValue h

theorem lookup_putDescriptors (name : String) (ds : List Descriptor)
    (xs : List (String × ScriptValue)) (other : String) :
    (putDescriptors name ds xs).lookup other
      = if other = name then (listed? ds).or (xs.lookup other) else xs.lookup other := by
  rw [putDescriptors, listed?]
  split
  · rw [Option.none_or, ite_self]
  · rw [lookup_putMember]
    split
    · rfl
    · rfl

theorem nodup_putDescriptors (name : String) (ds : List Descriptor)
    {xs : List (String × ScriptValue)} (h : (xs.map Prod.fst).Nodup) :
    ((putDescriptors name ds xs).map Prod.fst).Nodup := by
  rw [putDescriptors]
  split
  · exact h
  · exact nodup_putMember _ _ h

end Descriptors

/-! ### Members that pass through -/

section Passing

variable {names : List String} {ms extra : Members} {xs : List (String × ScriptValue)}

theorem get?_of_passes (h : Passes names ms extra) (hms : ms.Ordered) (name : String) :
    extra.get? name = if name ∈ names then none else ms.get? name := by
  split
  · next hname => exact h.get?_eq_none hname
  · next hname =>
    refine Option.ext fun v => ?_
    rw [← h.ordered.mem_iff, ← hms.mem_iff, h.mem_iff]
    exact and_iff_left hname

theorem passThrough_eq_ok_iff : passThrough ms = .ok xs ↔ membersOfJson ms = .ok xs :=
  mapError_eq_ok_iff

/-- What passes through is the counterparts of what is not interpreted. -/
theorem lookup_of_passThrough (h : passThrough extra = .ok xs) (hpass : Passes names ms extra)
    (hms : ms.Ordered) {name : String} (hname : name ∉ names) :
    Option.Rel Corresponds (ms.get? name) (xs.lookup name) := by
  have hrel := lookup_of_membersOfJson (passThrough_eq_ok_iff.mp h) name
  rwa [get?_of_passes hpass hms, if_neg hname] at hrel

/-- So no setting of an interpreted member meets one that passes through. -/
theorem lookup_interpreted (h : passThrough extra = .ok xs) (hpass : Passes names ms extra)
    {name : String} (hname : name ∈ names) : xs.lookup name = none := by
  have hrel := lookup_of_membersOfJson (passThrough_eq_ok_iff.mp h) name
  rw [hpass.get?_eq_none hname] at hrel
  generalize xs.lookup name = x at hrel ⊢
  cases hrel
  rfl

theorem nodup_of_passThrough (h : passThrough extra = .ok xs) (hpass : Passes names ms extra) :
    (xs.map Prod.fst).Nodup := by
  rw [((membersOfJson_eq_ok_iff extra xs).mp (passThrough_eq_ok_iff.mp h)).1]
  exact hpass.ordered.map_nodup

theorem exists_passThrough_iff (hpass : Passes names ms extra) (hms : ms.Ordered) :
    (∃ xs, passThrough extra = .ok xs) ↔
      ∀ name v, name ∉ names → ms.get? name = some v → ∃ x, Corresponds v x := by
  simp only [passThrough_eq_ok_iff, exists_membersOfJson_iff]
  constructor
  · intro h name v hname hv
    exact h (name, v) ((hpass.mem_iff name v).mpr ⟨hms.mem_iff.mpr hv, hname⟩)
  · rintro h ⟨name, v⟩ hmem
    obtain ⟨hmem, hname⟩ := (hpass.mem_iff name v).mp hmem
    exact h name v hname (hms.mem_iff.mp hmem)

end Passing

/-! ### The question -/

section Question

variable {ms us : Members} {xs ys : List (String × ScriptValue)} {depth : Nat}

theorem mirrorsUser_of_passThrough {u : User} (hus : us.Ordered) (hread : u.ReadFrom us)
    (h : passThrough u.extra = .ok ys) : MirrorsUser us (putMember "id" (.bytes u.id) ys) := by
  obtain ⟨⟨v, hv, hb⟩, hpass⟩ := hread
  refine ⟨nodup_putMember _ _ (nodup_of_passThrough h hpass), ⟨v, u.id, hv, hb, ?_⟩, ?_⟩
  · rw [lookup_putMember, if_pos rfl]
  · intro name hname
    rw [lookup_putMember, if_neg hname]
    exact lookup_of_passThrough h hpass hus (by simpa using hname)

theorem publicKey_registration_eq_ok_iff {c : CreationOptions} :
    publicKey (.registration c) = .ok xs ↔
      ∃ es ys, passThrough c.extra = .ok es ∧ passThrough c.user.extra = .ok ys ∧
        xs = putDescriptors "excludeCredentials" c.exclude
          (putMember "user" (.object false (putMember "id" (.bytes c.user.id) ys))
            (putMember "challenge" (.bytes c.challenge) es)) := by
  rw [publicKey, bind_eq_ok_iff]
  constructor
  · rintro ⟨es, hes, h⟩
    obtain ⟨ys, hys, h⟩ := bind_eq_ok_iff.mp h
    exact ⟨es, ys, hes, hys, (Except.ok.inj h).symm⟩
  · rintro ⟨es, ys, hes, hys, rfl⟩
    exact ⟨es, hes, bind_eq_ok_iff.mpr ⟨ys, hys, rfl⟩⟩

theorem publicKey_authentication_eq_ok_iff {r : RequestOptions} :
    publicKey (.authentication r) = .ok xs ↔
      ∃ es, passThrough r.extra = .ok es ∧
        xs = putDescriptors "allowCredentials" r.allow
          (putMember "challenge" (.bytes r.challenge) es) := by
  rw [publicKey, bind_eq_ok_iff]
  constructor
  · rintro ⟨es, hes, h⟩
    exact ⟨es, hes, (Except.ok.inj h).symm⟩
  · rintro ⟨es, hes, rfl⟩
    exact ⟨es, hes, rfl⟩

/-- The members of a registration. -/
theorem mirrors_registration {c : CreationOptions} (hms : (Value.obj ms).Tidy depth)
    (hread : Options.ReadFrom ms (.registration c)) (h : publicKey (.registration c) = .ok xs) :
    Mirrors .registration ms xs := by
  obtain ⟨es, ys, hes, hys, rfl⟩ := publicKey_registration_eq_ok_iff.mp h
  obtain ⟨⟨v, hv, hb⟩, huser, hlist, hpass⟩ := hread
  obtain ⟨us, hus, huser⟩ := huser c.user rfl
  -- the settings are read off from the last one back to the first
  refine ⟨?_, ⟨v, c.challenge, hv, hb, ?_⟩, fun _ => ⟨us, _, hus, ?_,
    mirrorsUser_of_passThrough (hms.member hus).ordered huser hys⟩, ?_, ?_⟩
  · exact nodup_putDescriptors _ _
      (nodup_putMember _ _ (nodup_putMember _ _ (nodup_of_passThrough hes hpass)))
  · rw [lookup_putDescriptors, if_neg (by decide), lookup_putMember, if_neg (by decide),
      lookup_putMember, if_pos rfl]
  · rw [lookup_putDescriptors, if_neg (by decide), lookup_putMember, if_pos rfl]
  · -- nothing that passes through has the name of the list, so an empty list leaves it free
    have hnone := lookup_interpreted hes hpass (Mode.listName_mem .registration)
    have hname : Mode.registration.listName = "excludeCredentials" := rfl
    rw [hname] at hnone ⊢
    rw [lookup_putDescriptors, if_pos rfl, lookup_putMember, if_neg (by decide),
      lookup_putMember, if_neg (by decide), hnone, Option.or_none]
    exact reducedList_listed? hlist
  · -- no setting has the name of a member that passes through
    intro name hname
    obtain ⟨hchallenge, huser, hexclude⟩ : name ≠ "challenge" ∧ name ≠ "user" ∧
        name ≠ "excludeCredentials" := by
      simpa [Mode.interpreted] using hname
    rw [lookup_putDescriptors, if_neg hexclude, lookup_putMember, if_neg huser, lookup_putMember,
      if_neg hchallenge]
    exact lookup_of_passThrough hes hpass hms.ordered hname

/-- The members of an authentication. -/
theorem mirrors_authentication {r : RequestOptions} (hms : (Value.obj ms).Tidy depth)
    (hread : Options.ReadFrom ms (.authentication r)) (h : publicKey (.authentication r) = .ok xs) :
    Mirrors .authentication ms xs := by
  obtain ⟨es, hes, rfl⟩ := publicKey_authentication_eq_ok_iff.mp h
  obtain ⟨⟨v, hv, hb⟩, -, hlist, hpass⟩ := hread
  refine ⟨?_, ⟨v, r.challenge, hv, hb, ?_⟩, nofun, ?_, ?_⟩
  · exact nodup_putDescriptors _ _ (nodup_putMember _ _ (nodup_of_passThrough hes hpass))
  · rw [lookup_putDescriptors, if_neg (by decide), lookup_putMember, if_pos rfl]
  · have hnone := lookup_interpreted hes hpass (Mode.listName_mem .authentication)
    have hname : Mode.authentication.listName = "allowCredentials" := rfl
    rw [hname] at hnone ⊢
    rw [lookup_putDescriptors, if_pos rfl, lookup_putMember, if_neg (by decide), hnone,
      Option.or_none]
    exact reducedList_listed? hlist
  · intro name hname
    obtain ⟨hchallenge, hallow⟩ : name ≠ "challenge" ∧ name ≠ "allowCredentials" := by
      simpa [Mode.interpreted] using hname
    rw [lookup_putDescriptors, if_neg hallow, lookup_putMember, if_neg hchallenge]
    exact lookup_of_passThrough hes hpass hms.ordered hname

/-- There is an object to ask with exactly if all that passes through has counterparts. -/
theorem exists_publicKey_iff {o : Options} (hms : (Value.obj ms).Tidy depth)
    (hread : o.ReadFrom ms) : (∃ xs, publicKey o = .ok xs) ↔ Convertible o.mode ms := by
  have hmembers := exists_passThrough_iff hread.extra hms.ordered
  rcases o with c | r
  · obtain ⟨us, hus, huser⟩ := hread.user c.user rfl
    have husers := exists_passThrough_iff huser.extra (hms.member hus).ordered
    constructor
    · rintro ⟨xs, h⟩
      obtain ⟨es, ys, hes, hys, -⟩ := publicKey_registration_eq_ok_iff.mp h
      refine ⟨hmembers.mp ⟨es, hes⟩, fun _ us' hus' name v hname hv => ?_⟩
      cases hus.symm.trans hus'
      exact husers.mp ⟨ys, hys⟩ name v (by simpa using hname) hv
    · rintro ⟨hm, hu⟩
      obtain ⟨es, hes⟩ := hmembers.mpr hm
      obtain ⟨ys, hys⟩ := husers.mpr fun name v hname hv =>
        hu rfl us hus name v (by simpa using hname) hv
      exact ⟨_, publicKey_registration_eq_ok_iff.mpr ⟨es, ys, hes, hys, rfl⟩⟩
  · constructor
    · rintro ⟨xs, h⟩
      obtain ⟨es, hes, -⟩ := publicKey_authentication_eq_ok_iff.mp h
      exact ⟨hmembers.mp ⟨es, hes⟩, nofun⟩
    · rintro ⟨hm, -⟩
      obtain ⟨es, hes⟩ := hmembers.mpr hm
      exact ⟨_, publicKey_authentication_eq_ok_iff.mpr ⟨es, hes, rfl⟩⟩

theorem mirrors_publicKey {o : Options} (hms : (Value.obj ms).Tidy depth) (hread : o.ReadFrom ms)
    (h : publicKey o = .ok xs) : Mirrors o.mode ms xs := by
  rcases o with c | r
  · exact mirrors_registration hms hread h
  · exact mirrors_authentication hms hread h

theorem question_eq_ok_iff {o : Options} {q : ScriptValue} :
    question o = .ok q ↔
      ∃ xs, publicKey o = .ok xs ∧ q = .object false [("publicKey", .object false xs)] := by
  rw [question, map_eq_ok_iff]
  constructor
  · rintro ⟨xs, hxs, rfl⟩
    exact ⟨xs, hxs, rfl⟩
  · rintro ⟨xs, hxs, rfl⟩
    exact ⟨xs, hxs, rfl⟩

/-- The call that a platform gets from a run, if it takes calls. -/
theorem askPlatform_calls {o : Offer} {q : ScriptValue} {b : Browser}
    (hq : question o.ceremony.options = .ok q) (hworks : b.lacks .credentials = false) (n : Nat)
    (r : Run) :
    ((askPlatform n r o).run b).2.calls.getLast? = some (.credentials o.ceremony.mode q) := by
  let mode := o.ceremony.mode
  let logged := ((log .platform .debug ("Calling navigator.credentials." ++ operationName mode)
    []).run b).2
  have hlacks : logged.lacks .credentials = false := by
    show (if _ then _ else _ : Browser).lacks _ = _
    split <;> exact hworks
  have hrun : (askPlatform n r o).run b
      = (if logged.lacks .credentials then
          failRun n r o (.ofRejection (readRejection (.typeError "credentials")))
        else setStage n .asking).run
          { logged with calls := logged.calls ++ [.credentials mode q] } := by
    rw [askPlatform, hq]
    rfl
  rw [hrun, hlacks]
  exact List.getLast?_concat

/-- **The platform is asked with an object that mirrors the options object of the text**, in the
mode of the options.  There is one exactly if all members that pass through have counterparts. -/
theorem question_mirrors (mode : Mode) (text : String) (o : Options)
    (accepted : Options.parse mode text = .ok o) :
    ∃ v ms, Value.parse text = .ok v ∧ Options.unwrap v = .obj ms ∧
      ((∃ q, question o = .ok q) ↔ Convertible mode ms) ∧
      ∀ q, question o = .ok q →
        (∃ xs, q = .object false [("publicKey", .object false xs)] ∧ Mirrors mode ms xs) ∧
        ∀ (b : Browser) (n : Nat) (r : Run) (offer : Offer), offer.ceremony.options = o →
          b.lacks .credentials = false →
          ((askPlatform n r offer).run b).2.calls.getLast? = some (.credentials mode q) := by
  obtain ⟨v, hv, hvalue⟩ := Options.parse_eq_ok_iff.mp accepted
  have htidy := Options.tidy_unwrap (Value.tidy_of_parse hv)
  obtain ⟨rfl, ms, hms, hread⟩ := (Options.ofValue_eq_ok_iff htidy).mp hvalue
  rw [hms] at htidy
  refine ⟨v, ms, hv, hms, ?_, fun q hq => ⟨?_, ?_⟩⟩
  · rw [← exists_publicKey_iff htidy hread]
    simp only [question_eq_ok_iff]
    exact ⟨fun ⟨_, xs, hxs, _⟩ => ⟨xs, hxs⟩, fun ⟨xs, hxs⟩ => ⟨_, xs, hxs, rfl⟩⟩
  · obtain ⟨xs, hxs, rfl⟩ := question_eq_ok_iff.mp hq
    exact ⟨xs, rfl, mirrors_publicKey htidy hread hxs⟩
  · rintro b n r offer rfl hworks
    exact askPlatform_calls hq hworks n r

/-- The members of an account, which has a name and a name for display. -/
def aliceMembers : Members :=
  [("displayName", .str "Alice"), ("id", .str "Aw"), ("name", .str "alice")]

/-- A credential that the account has, with the ways to reach it. -/
def aliceCredential : Members :=
  [("id", .str "Ag"), ("transports", .arr [.str "usb", .str "nfc"])]

/-- The options with which another one is registered. -/
def aliceOptions : Members :=
  [("challenge", .str "AQ"), ("excludeCredentials", .arr [.obj aliceCredential]),
    ("timeout", .num (.int 5)), ("user", .obj aliceMembers)]

/-- What is read from them. -/
def aliceRead : Options :=
  .registration ⟨[1], ⟨[3], [("displayName", .str "Alice"), ("name", .str "alice")]⟩,
    [⟨"public-key", [2], ["usb", "nfc"]⟩], [("timeout", .num (.int 5))]⟩

theorem parse_aliceOptions :
    Value.parse (Value.obj aliceOptions).text = .ok (.obj aliceOptions) := by
  refine Value.Tidy.parse_text (.obj (by decide) ?_) (.obj ?_)
  · simp only [aliceOptions, List.forall_mem_cons]
    refine ⟨.str _, .arr (List.forall_mem_singleton.mpr (.obj (by decide) ?_)), .num _,
      .obj (by decide) ?_, nofun⟩
    · simp only [aliceCredential, List.forall_mem_cons]
      refine ⟨.str _, .arr (List.forall_mem_cons.mpr ⟨.str _, ?_⟩), nofun⟩
      exact List.forall_mem_singleton.mpr (.str _)
    · simp only [aliceMembers, List.forall_mem_cons]
      exact ⟨.str _, .str _, .str _, nofun⟩
  · simp only [aliceOptions, List.forall_mem_cons]
    refine ⟨.str _, .arr (List.forall_mem_singleton.mpr (.obj ?_)), .int ⟨by decide, by decide⟩,
      .obj ?_, nofun⟩
    · simp only [aliceCredential, List.forall_mem_cons]
      refine ⟨.str _, .arr (List.forall_mem_cons.mpr ⟨.str _, ?_⟩), nofun⟩
      exact List.forall_mem_singleton.mpr (.str _)
    · simp only [aliceMembers, List.forall_mem_cons]
      exact ⟨.str _, .str _, .str _, nofun⟩

theorem convertible_aliceOptions : Convertible .registration aliceOptions := by
  refine ⟨fun name v hname hv => ?_, fun _ us hus name v hname hv => ?_⟩
  · -- the timeout alone passes through
    have hmem := Members.mem_of_get? hv
    have hout : name ≠ "challenge" ∧ name ≠ "user" ∧ name ≠ "excludeCredentials" := by
      simpa [Mode.interpreted] using hname
    simp only [aliceOptions, List.mem_cons, Prod.mk.injEq, hout.1, hout.2.1, hout.2.2, false_and,
      false_or, List.not_mem_nil, or_false] at hmem
    exact hmem.2 ▸ ⟨_, .int (by decide)⟩
  · cases hus
    have hmem := Members.mem_of_get? hv
    have htext : ∀ m ∈ aliceMembers, ∃ s, m.2 = .str s := by
      simp [aliceMembers]
    obtain ⟨s, rfl⟩ := htext _ hmem
    exact ⟨_, .text s⟩

/-- A registration of another credential: the timeout and the names pass through, and the one that
the account has is listed with its type, its id and its transports. -/
theorem question_mirrors_registration :
    Options.parse .registration (Value.obj aliceOptions).text = .ok aliceRead ∧
      ∃ xs, question aliceRead = .ok (.object false [("publicKey", .object false xs)]) ∧
        Mirrors .registration aliceOptions xs := by
  have hparse := parse_aliceOptions
  have haccepted : Options.parse .registration (Value.obj aliceOptions).text = .ok aliceRead :=
    (Options.parse_eq_ok_iff_of_parse hparse).mpr rfl
  obtain ⟨v, ms', hv, hms', hasked, hmirrors⟩ :=
    question_mirrors .registration _ _ haccepted
  cases hparse.symm.trans hv
  cases (show Options.unwrap (.obj aliceOptions) = .obj aliceOptions from rfl).symm.trans hms'
  obtain ⟨q, hq⟩ := hasked.mpr convertible_aliceOptions
  obtain ⟨⟨xs, rfl, hxs⟩, -⟩ := hmirrors q hq
  exact ⟨haccepted, xs, hq, hxs⟩

end Question

end Passkey.Browser
