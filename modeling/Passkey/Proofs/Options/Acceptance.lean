/-
Passkey/Proofs/Options/Acceptance.lean

Which options a page may carry, and what they say.

The options of a ceremony are an object, alone or under `publicKey`.  Its
interpreted members have shapes of their own: texts that spell bytes, and a
list of descriptors, each an object or an array.  All other members pass.
A relation between members and options (`Options.ReadFrom`) says what every
member means, without an order in which they are looked at and without faults.

Main result: text is read as options exactly if its value has these shapes,
and then as the options of which the relation speaks (`parse_accepts`).
-/
import Passkey.Proofs.Json.Tidy
import Passkey.Proofs.Json.Typed

namespace Passkey

open Json Outcome

/-! ### Shapes -/

/-- The member that lists credentials. -/
def Mode.listName : Mode → String
  | .registration => "excludeCredentials"
  | .authentication => "allowCredentials"

/-- The members that a mode interprets. -/
def Mode.interpreted : Mode → List String
  | .registration => ["challenge", "user", "excludeCredentials"]
  | .authentication => ["challenge", "allowCredentials"]

/-- The members that do not have one of the names, as they are and in order. -/
structure Passes (names : List String) (ms extra : Members) : Prop where
  ordered : extra.Ordered
  mem_iff : ∀ name v, (name, v) ∈ extra ↔ (name, v) ∈ ms ∧ name ∉ names

/-- What a listed credential says: an object, of which only the id is required,
or an array that starts with type and id. -/
inductive Descriptor.ReadFrom : Value → Descriptor → Prop
  | members {ms : Members} {v : Value} {kind : String} {bytes : Bytes} {texts : List String}
    (id : ms.get? "id" = some v) (spells : v.Spells bytes)
    (type : ms.get? "type" = none ∧ kind = "public-key" ∨ ms.get? "type" = some (.str kind))
    (transports : ms.get? "transports" = none ∧ texts = [] ∨
      ms.get? "transports" = some (.ofTexts texts)) :
    ReadFrom (.obj ms) ⟨kind, bytes, texts⟩
  | pair {v : Value} {kind : String} {bytes : Bytes} (spells : v.Spells bytes) :
    ReadFrom (.arr [.str kind, v]) ⟨kind, bytes, []⟩
  | triple {v : Value} {kind : String} {bytes : Bytes} {texts : List String}
    (spells : v.Spells bytes) :
    ReadFrom (.arr [.str kind, v, .ofTexts texts]) ⟨kind, bytes, texts⟩

/-- What a list of credentials says: item by item, and nothing if it is
missing or null. -/
inductive Descriptor.ListedIn : Option Value → List Descriptor → Prop
  | missing : ListedIn none []
  | null : ListedIn (some .null) []
  | items {items : List Value} {ds : List Descriptor} (h : List.Forall₂ ReadFrom items ds) :
    ListedIn (some (.arr items)) ds

/-- What the members of an account say. -/
structure User.ReadFrom (ms : Members) (u : User) : Prop where
  id : ∃ v, ms.get? "id" = some v ∧ v.Spells u.id
  extra : Passes ["id"] ms u.extra

namespace Options

/-- The options object inside a value. -/
def Inside (v w : Value) : Prop :=
  (∃ ms : Members, v = .obj ms ∧ ms.get? "publicKey" = some w) ∨
    (∀ ms : Members, v = .obj ms → ms.get? "publicKey" = none) ∧ w = v

/-- Members that make options of a mode. -/
structure Accepted (mode : Mode) (ms : Members) : Prop where
  challenge : ∃ v bytes, ms.get? "challenge" = some v ∧ v.Spells bytes
  user : mode = .registration →
    ∃ (us : Members) (v : Value) (bytes : Bytes),
      ms.get? "user" = some (.obj us) ∧ us.get? "id" = some v ∧ v.Spells bytes
  credentials : ∀ v, ms.get? mode.listName = some v →
    v = .null ∨ ∃ items, v = .arr items ∧ ∀ item ∈ items, ∃ d, Descriptor.ReadFrom item d

/-- What the members of an object say as options. -/
structure ReadFrom (ms : Members) (o : Options) : Prop where
  challenge : ∃ v, ms.get? "challenge" = some v ∧ v.Spells o.challenge
  user : ∀ u ∈ o.user?, ∃ us, ms.get? "user" = some (.obj us) ∧ u.ReadFrom us
  credentials : Descriptor.ListedIn (ms.get? o.mode.listName) o.credentials
  extra : Passes o.mode.interpreted ms o.extra

end Options

/-! ### Members that pass -/

section Passes

variable {names : List String} {ms extra : Members}

theorem passes_without (h : ms.Ordered) (names : List String) :
    Passes names ms (ms.without names) :=
  ⟨h.without names, fun _ _ => Members.mem_without⟩

/-- The members that pass are those without the names. -/
theorem passes_iff (h : ms.Ordered) : Passes names ms extra ↔ extra = ms.without names := by
  constructor
  · rintro ⟨hordered, hmem⟩
    refine hordered.eq_of_mem_iff (h.without names) ?_
    rintro ⟨name, v⟩
    rw [hmem, Members.mem_without]
  · rintro rfl
    exact passes_without h names

end Passes

/-! ### Descriptors -/

namespace Descriptor

variable {ms : Members} {v : Value} {items : List Value} {d : Descriptor} {ds : List Descriptor}

theorem ofMembers_eq_ok_iff : ofMembers ms = .ok d ↔ ReadFrom (.obj ms) d := by
  rw [ofMembers, bind_eq_ok_iff]
  constructor
  · rintro ⟨id, hid, h⟩
    obtain ⟨texts, htexts, h⟩ := bind_eq_ok_iff.mp h
    obtain ⟨kind, hkind, h⟩ := bind_eq_ok_iff.mp h
    rcases id with - | bytes
    · cases h
    · cases h
      obtain ⟨v, hv, hb⟩ := readMember?_eq_some_iff.mp hid
      refine .members hv (Value.asBytes_eq_ok_iff.mp hb) ?_ ?_
      · rcases memberOr_eq_ok_iff.mp hkind with h | ⟨w, hw, h⟩
        · exact .inl h
        · exact .inr (Value.asText_eq_ok_iff.mp h ▸ hw)
      · rcases memberOr_eq_ok_iff.mp htexts with h | ⟨w, hw, h⟩
        · exact .inl h
        · exact .inr (Value.asTexts_eq_ok_iff.mp h ▸ hw)
  · intro h
    cases h with
    | @members _ v kind bytes texts hid hb hkind htexts =>
      refine ⟨some bytes, readMember?_eq_some_iff.mpr ⟨v, hid, Value.asBytes_eq_ok_iff.mpr hb⟩, ?_⟩
      refine bind_eq_ok_iff.mpr ⟨texts, memberOr_eq_ok_iff.mpr ?_, ?_⟩
      · rcases htexts with h | h
        · exact .inl h
        · exact .inr ⟨_, h, Value.asTexts_eq_ok_iff.mpr rfl⟩
      · refine bind_eq_ok_iff.mpr ⟨kind, memberOr_eq_ok_iff.mpr ?_, rfl⟩
        rcases hkind with h | h
        · exact .inl h
        · exact .inr ⟨_, h, Value.asText_eq_ok_iff.mpr rfl⟩

theorem ofItems_eq_ok_iff : ofItems items = .ok d ↔ ReadFrom (.arr items) d := by
  constructor
  · intro h
    rcases items with - | ⟨kind, - | ⟨id, - | ⟨transports, more⟩⟩⟩
    · cases h
    · obtain ⟨_, -, h⟩ := bind_eq_ok_iff.mp h
      cases h
    · obtain ⟨kind', hkind, h⟩ := bind_eq_ok_iff.mp h
      obtain ⟨bytes, hid, h⟩ := bind_eq_ok_iff.mp h
      cases h
      rw [Value.asText_eq_ok_iff.mp hkind]
      exact .pair (Value.asBytes_eq_ok_iff.mp hid)
    · obtain ⟨kind', hkind, h⟩ := bind_eq_ok_iff.mp h
      obtain ⟨bytes, hid, h⟩ := bind_eq_ok_iff.mp h
      obtain ⟨texts, htexts, h⟩ := bind_eq_ok_iff.mp h
      rcases more with - | ⟨_, _⟩
      · cases h
        rw [Value.asText_eq_ok_iff.mp hkind, Value.asTexts_eq_ok_iff.mp htexts]
        exact .triple (Value.asBytes_eq_ok_iff.mp hid)
      · cases h
  · intro h
    cases h with
    | pair hb =>
      exact bind_eq_ok_iff.mpr ⟨_, rfl, bind_eq_ok_iff.mpr ⟨_, Value.asBytes_eq_ok_iff.mpr hb, rfl⟩⟩
    | triple hb =>
      refine bind_eq_ok_iff.mpr ⟨_, rfl, bind_eq_ok_iff.mpr ⟨_, Value.asBytes_eq_ok_iff.mpr hb, ?_⟩⟩
      exact bind_eq_ok_iff.mpr ⟨_, Value.asTexts_eq_ok_iff.mpr rfl, rfl⟩

/-- **The reader of descriptors reads what the relation says.** -/
theorem ofValue_eq_ok_iff : ofValue v = .ok d ↔ ReadFrom v d := by
  cases v with
  | obj ms => exact ofMembers_eq_ok_iff
  | arr items => exact ofItems_eq_ok_iff
  | _ => exact ⟨nofun, nofun⟩

theorem listOf_eq_ok_iff : listOf v = .ok ds ↔ ListedIn (some v) ds := by
  cases v with
  | null =>
    constructor
    · intro h
      cases h
      exact .null
    · intro h
      cases h
      rfl
  | arr items =>
    show items.mapM ofValue = .ok ds ↔ _
    rw [mapM_eq_ok_iff]
    simp only [ofValue_eq_ok_iff]
    constructor
    · exact .items
    · intro h
      cases h with
      | items h => exact h
  | _ => exact ⟨nofun, nofun⟩

/-- The member that lists credentials, read whether it is there or not. -/
theorem memberOr_listOf_eq_ok_iff {name : String} :
    memberOr ms name [] listOf = .ok ds ↔ ListedIn (ms.get? name) ds := by
  rw [memberOr_eq_ok_iff]
  rcases ms.get? name with - | v
  · constructor
    · rintro (⟨-, rfl⟩ | ⟨_, h, -⟩)
      · exact .missing
      · cases h
    · intro h
      cases h
      exact .inl ⟨rfl, rfl⟩
  · constructor
    · rintro (⟨h, -⟩ | ⟨w, h, hw⟩)
      · cases h
      · cases h
        exact listOf_eq_ok_iff.mp hw
    · intro h
      exact .inr ⟨v, rfl, listOf_eq_ok_iff.mpr h⟩

/-- A list says something exactly if it is missing, null, or an array whose
items all say something. -/
theorem exists_listedIn_iff {v : Option Value} :
    (∃ ds, ListedIn v ds) ↔
      ∀ w, v = some w → w = .null ∨
        ∃ items, w = .arr items ∧ ∀ item ∈ items, ∃ d, ReadFrom item d := by
  constructor
  · rintro ⟨ds, h⟩ w rfl
    cases h with
    | null => exact .inl rfl
    | items h => exact .inr ⟨_, rfl, exists_forall₂_iff.mp ⟨ds, h⟩⟩
  · intro h
    rcases v with - | w
    · exact ⟨[], .missing⟩
    · rcases h w rfl with rfl | ⟨items, rfl, hitems⟩
      · exact ⟨[], .null⟩
      · obtain ⟨ds, hds⟩ := exists_forall₂_iff.mpr hitems
        exact ⟨ds, .items hds⟩

end Descriptor

/-! ### Accounts -/

section Accounts

variable {v : Value} {u : User} {depth : Nat}

/-- **The reader of accounts reads what the relation says.** -/
theorem User.ofValue_eq_ok_iff (hv : v.Tidy depth) :
    User.ofValue v = .ok u ↔ ∃ us, v = .obj us ∧ u.ReadFrom us := by
  cases v with
  | obj us =>
    rw [User.ofValue, bind_eq_ok_iff]
    constructor
    · rintro ⟨id, hid, h⟩
      rcases id with - | bytes
      · cases h
      · cases h
        obtain ⟨w, hw, hb⟩ := readMember?_eq_some_iff.mp hid
        exact ⟨us, rfl, ⟨w, hw, Value.asBytes_eq_ok_iff.mp hb⟩, passes_without hv.ordered _⟩
    · rintro ⟨_, h, ⟨w, hw, hb⟩, hextra⟩
      cases h
      refine ⟨_, readMember?_eq_some_iff.mpr ⟨w, hw, Value.asBytes_eq_ok_iff.mpr hb⟩, ?_⟩
      show Except.ok _ = _
      rw [← (passes_iff hv.ordered).mp hextra]
  | _ => exact ⟨nofun, nofun⟩

end Accounts

/-! ### Options -/

namespace Options

variable {ms : Members} {v w : Value} {mode : Mode} {o : Options} {depth : Nat} {text : String}

/-- A registration is read from an object whose members say so. -/
theorem creation_eq_ok_iff (hv : v.Tidy depth) {c : CreationOptions} :
    CreationOptions.ofValue v = .ok c ↔ ∃ ms, v = .obj ms ∧ ReadFrom ms (registration c) := by
  cases v with
  | obj ms =>
    rw [CreationOptions.ofValue, bind_eq_ok_iff]
    constructor
    · rintro ⟨challenge, hc, h⟩
      obtain ⟨exclude, he, h⟩ := bind_eq_ok_iff.mp h
      obtain ⟨user, hu, h⟩ := bind_eq_ok_iff.mp h
      rcases challenge with - | bytes
      · cases h
      rcases user with - | u
      · cases h
      cases h
      obtain ⟨w, hw, hb⟩ := readMember?_eq_some_iff.mp hc
      obtain ⟨w', hw', hu⟩ := readMember?_eq_some_iff.mp hu
      obtain ⟨us, rfl, hus⟩ := (User.ofValue_eq_ok_iff (hv.member hw')).mp hu
      refine ⟨ms, rfl, ⟨w, hw, Value.asBytes_eq_ok_iff.mp hb⟩, ?_,
        Descriptor.memberOr_listOf_eq_ok_iff.mp he, passes_without hv.ordered _⟩
      intro u' hu'
      cases hu'
      exact ⟨us, hw', hus⟩
    · rintro ⟨_, h, ⟨w, hw, hb⟩, huser, hlist, hextra⟩
      cases h
      obtain ⟨us, hw', hus⟩ := huser _ rfl
      refine ⟨_, readMember?_eq_some_iff.mpr ⟨w, hw, Value.asBytes_eq_ok_iff.mpr hb⟩, ?_⟩
      refine bind_eq_ok_iff.mpr ⟨_, Descriptor.memberOr_listOf_eq_ok_iff.mpr hlist, ?_⟩
      refine bind_eq_ok_iff.mpr ⟨_, readMember?_eq_some_iff.mpr ⟨_, hw',
        (User.ofValue_eq_ok_iff (hv.member hw')).mpr ⟨us, rfl, hus⟩⟩, ?_⟩
      have hpass : c.extra = Members.without ms CreationOptions.interpreted :=
        (passes_iff hv.ordered).mp hextra
      show Except.ok (CreationOptions.mk _ _ _ (Members.without ms _)) = _
      rw [← hpass]
      rfl
  | _ => exact ⟨nofun, nofun⟩

/-- An authentication is read from an object whose members say so. -/
theorem request_eq_ok_iff (hv : v.Tidy depth) {r : RequestOptions} :
    RequestOptions.ofValue v = .ok r ↔ ∃ ms, v = .obj ms ∧ ReadFrom ms (authentication r) := by
  cases v with
  | obj ms =>
    rw [RequestOptions.ofValue, bind_eq_ok_iff]
    constructor
    · rintro ⟨allow, ha, h⟩
      obtain ⟨challenge, hc, h⟩ := bind_eq_ok_iff.mp h
      rcases challenge with - | bytes
      · cases h
      cases h
      obtain ⟨w, hw, hb⟩ := readMember?_eq_some_iff.mp hc
      exact ⟨ms, rfl, ⟨w, hw, Value.asBytes_eq_ok_iff.mp hb⟩, nofun,
        Descriptor.memberOr_listOf_eq_ok_iff.mp ha, passes_without hv.ordered _⟩
    · rintro ⟨_, h, ⟨w, hw, hb⟩, -, hlist, hextra⟩
      cases h
      refine ⟨_, Descriptor.memberOr_listOf_eq_ok_iff.mpr hlist, ?_⟩
      refine bind_eq_ok_iff.mpr ⟨_, readMember?_eq_some_iff.mpr ⟨w, hw,
        Value.asBytes_eq_ok_iff.mpr hb⟩, ?_⟩
      have hpass : r.extra = Members.without ms RequestOptions.interpreted :=
        (passes_iff hv.ordered).mp hextra
      show Except.ok (RequestOptions.mk _ _ (Members.without ms _)) = _
      rw [← hpass]
      rfl
  | _ => exact ⟨nofun, nofun⟩

/-- **The reader of options reads what the relation says.** -/
theorem ofValue_eq_ok_iff (hv : v.Tidy depth) :
    ofValue mode v = .ok o ↔ o.mode = mode ∧ ∃ ms, v = .obj ms ∧ o.ReadFrom ms := by
  rcases mode with - | -
  · rw [ofValue, map_eq_ok_iff]
    constructor
    · rintro ⟨c, hc, rfl⟩
      exact ⟨rfl, (creation_eq_ok_iff hv).mp hc⟩
    · rintro ⟨hmode, h⟩
      rcases o with c | r
      · exact ⟨c, (creation_eq_ok_iff hv).mpr h, rfl⟩
      · cases hmode
  · rw [ofValue, map_eq_ok_iff]
    constructor
    · rintro ⟨r, hr, rfl⟩
      exact ⟨rfl, (request_eq_ok_iff hv).mp hr⟩
    · rintro ⟨hmode, h⟩
      rcases o with c | r
      · cases hmode
      · exact ⟨r, (request_eq_ok_iff hv).mpr h, rfl⟩

/-! ### Text -/

theorem inside_unwrap (v : Value) : Inside v (unwrap v) := by
  rw [unwrap]
  rcases hm : v.member? "publicKey" with - | w
  · refine .inr ⟨?_, rfl⟩
    rintro ms rfl
    exact hm
  · cases v with
    | obj ms => exact .inl ⟨ms, rfl, hm⟩
    | _ => cases hm

theorem tidy_unwrap (hv : v.Tidy depth) : (unwrap v).Tidy depth := by
  rcases inside_unwrap v with ⟨ms, rfl, hw⟩ | ⟨-, hw⟩
  · exact hv.member hw
  · rw [hw]
    exact hv

/-- Reading text is reading the options object inside its value. -/
theorem parse_eq_ok_iff_of_parse (h : Value.parse text = .ok v) :
    parse mode text = .ok o ↔ ofValue mode (unwrap v) = .ok o := by
  rw [parse, mapError_eq_ok_iff, parseFault]
  simp only [h]
  exact mapError_eq_ok_iff

theorem parse_eq_ok_iff :
    parse mode text = .ok o ↔
      ∃ v, Value.parse text = .ok v ∧ ofValue mode (unwrap v) = .ok o := by
  constructor
  · intro h
    rcases hv : Value.parse text with f | v
    · rw [parse, mapError_eq_ok_iff, parseFault] at h
      simp only [hv] at h
      cases h
    · exact ⟨v, rfl, (parse_eq_ok_iff_of_parse hv).mp h⟩
  · rintro ⟨v, hv, h⟩
    exact (parse_eq_ok_iff_of_parse hv).mpr h

/-- Members of the right shapes say something, and nothing else does. -/
theorem exists_readFrom_iff (hms : (Value.obj ms).Tidy depth) :
    (∃ o, o.mode = mode ∧ ReadFrom ms o) ↔ Accepted mode ms := by
  constructor
  · rintro ⟨o, rfl, ⟨v, hv, hb⟩, huser, hlist, -⟩
    refine ⟨⟨v, _, hv, hb⟩, ?_, Descriptor.exists_listedIn_iff.mp ⟨_, hlist⟩⟩
    intro hmode
    rcases o with c | r
    · obtain ⟨us, hus, ⟨w, hw, hb⟩, -⟩ := huser _ rfl
      exact ⟨us, w, _, hus, hw, hb⟩
    · cases hmode
  · rintro ⟨⟨v, bytes, hv, hb⟩, huser, hlist⟩
    obtain ⟨ds, hds⟩ := Descriptor.exists_listedIn_iff.mpr hlist
    rcases mode with - | -
    · obtain ⟨us, w, id, hus, hw, hid⟩ := huser rfl
      refine ⟨registration ⟨bytes, ⟨id, us.without ["id"]⟩, ds,
        ms.without Mode.registration.interpreted⟩,
        rfl, ⟨v, hv, hb⟩, ?_, hds, passes_without hms.ordered _⟩
      intro u hu
      cases hu
      exact ⟨us, hus, ⟨w, hw, hid⟩, passes_without (hms.member hus).ordered _⟩
    · exact ⟨authentication ⟨bytes, ds, ms.without Mode.authentication.interpreted⟩, rfl,
        ⟨v, hv, hb⟩, nofun, hds, passes_without hms.ordered _⟩

/-- **Text is read as options exactly if the options object inside its value
has the accepted shapes**, and then as the options that its members speak of:
the bytes that are spelled, the descriptors one by one, and every other member
as it is.  Every fault is one of the options. -/
theorem parse_accepts (mode : Mode) {text : String} {v : Value} (h : Value.parse text = .ok v) :
    ∃ w, Inside v w ∧
      ((∃ o, parse mode text = .ok o) ↔ ∃ ms, w = .obj ms ∧ Accepted mode ms) ∧
      (∀ o, parse mode text = .ok o ↔ o.mode = mode ∧ ∃ ms, w = .obj ms ∧ ReadFrom ms o) ∧
      (∀ f, parse mode text = .error f → ∃ detail, f = .badOptions detail) := by
  have hv := tidy_unwrap (Value.tidy_of_parse h)
  have hread (o : Options) :
      parse mode text = .ok o ↔ o.mode = mode ∧ ∃ ms, unwrap v = .obj ms ∧ ReadFrom ms o :=
    (parse_eq_ok_iff_of_parse h).trans (ofValue_eq_ok_iff hv)
  refine ⟨unwrap v, inside_unwrap v, ?_, hread, ?_⟩
  · constructor
    · rintro ⟨o, ho⟩
      obtain ⟨hmode, ms, hms, hr⟩ := (hread o).mp ho
      exact ⟨ms, hms, (exists_readFrom_iff (hms ▸ hv)).mp ⟨o, hmode, hr⟩⟩
    · rintro ⟨ms, hms, hacc⟩
      obtain ⟨o, hmode, hr⟩ := (exists_readFrom_iff (hms ▸ hv)).mpr hacc
      exact ⟨o, (hread o).mpr ⟨hmode, ms, hms, hr⟩⟩
  · intro f hf
    rw [parse] at hf
    rcases hp : parseFault mode text with fault | o
    · rw [hp] at hf
      cases hf
      exact ⟨_, rfl⟩
    · rw [hp] at hf
      cases hf

/-- Options under `publicKey` that list a credential as an array. -/
theorem parse_accepts_wrapped :
    parse .authentication
        "\x7b\"publicKey\":\x7b\"allowCredentials\":[[\"public-key\",\"AQ\"]],\"challenge\":\"\",\"timeout\":5\x7d\x7d"
      = .ok (.authentication ⟨[], [⟨"public-key", [1], []⟩], [("timeout", .num (.int 5))]⟩) := by
  let listed : Value := .arr [.arr [.str "public-key", .str "AQ"]]
  let ms : Members :=
    [("allowCredentials", listed), ("challenge", .str ""), ("timeout", .num (.int 5))]
  have htidy : (Value.obj [("publicKey", .obj ms)]).Tidy maxDepth := by
    refine .obj (by decide) (List.forall_mem_singleton.mpr (.obj (by decide) ?_))
    have hlisted : listed.Tidy 125 := by
      refine .arr (List.forall_mem_singleton.mpr (.arr ?_))
      exact List.forall_mem_cons.mpr ⟨.str _, List.forall_mem_singleton.mpr (.str _)⟩
    exact List.forall_mem_cons.mpr ⟨hlisted,
      List.forall_mem_cons.mpr ⟨.str _, List.forall_mem_singleton.mpr (.num _)⟩⟩
  have hint : (Value.obj [("publicKey", .obj ms)]).Integral := by
    refine .obj (List.forall_mem_singleton.mpr (.obj ?_))
    have hlisted : listed.Integral := by
      refine .arr (List.forall_mem_singleton.mpr (.arr ?_))
      exact List.forall_mem_cons.mpr ⟨.str _, List.forall_mem_singleton.mpr (.str _)⟩
    refine List.forall_mem_cons.mpr ⟨hlisted, List.forall_mem_cons.mpr ⟨.str _, ?_⟩⟩
    exact List.forall_mem_singleton.mpr (.int ⟨by decide, by decide⟩)
  obtain ⟨w, hw, -, hread, -⟩ := parse_accepts .authentication (htidy.parse_text hint)
  have hw : w = .obj ms := by
    rcases hw with ⟨_, hv, hw⟩ | ⟨hno, -⟩
    · cases hv
      exact (Option.some.inj hw).symm
    · cases hno _ rfl
  have hid : (Value.str "AQ").Spells [1] := ⟨_, rfl, rfl⟩
  refine (hread _).mpr ⟨rfl, ms, hw, ⟨.str "", rfl, _, rfl, rfl⟩, nofun, ?_, ?_⟩
  · exact .items (.cons (.pair hid) .nil)
  · exact (passes_iff (by decide)).mpr rfl

end Options

end Passkey
